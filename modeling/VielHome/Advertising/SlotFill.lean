import VielHome.Advertising.Service
import VielHome.Common.Ranges
import VielHome.Common.Text
import VielHome.Relational.Transaction

/-!
# The fill of a slot

A slot says how it is filled: by campaigns, by an external provider, or by both, and a slot that
takes the full screen says how long and how often. `updateSlotFill` checks the configuration that
it puts together from the request and the stored row, and then writes one that it puts together in
another way: an ad unit id that the request leaves out is checked as the stored one and written as
`null`, and one that the request sets to `null` is checked as the stored one too.
-/

namespace VielHome.Advertising

open Relational

/-- A field of a request: left out, `null`, or with a value. -/
inductive Field (α : Type)
  | absent
  | null
  | value (a : α)
  deriving DecidableEq

namespace Field

variable {α : Type}

/-- `field ?? current`. -/
def orElse (current : Option α) : Field α → Option α
  | value a => some a
  | _ => current

/-- `{ ...current, field }`: a field that is present replaces the current one. -/
def replace (current : Option α) : Field α → Option α
  | absent => current
  | null => none
  | value a => some a

end Field

/-- How a slot is to be filled. -/
structure UpdateAdSlotFillInput where
  fillStrategy : AdSlotFillStrategy
  externalProvider : AdExternalProvider
  androidAdUnitId : Field String := .absent
  iosAdUnitId : Field String := .absent
  presentationFormat : Field AdPresentationFormat := .absent
  minimumDisplaySeconds : Field ℤ := .absent
  skippable : Field Bool := .absent
  maxPerSession : Field ℤ := .absent

/-- The columns that `assertValidSlotFill` looks at. -/
structure SlotFill where
  fillStrategy : AdSlotFillStrategy
  externalProvider : AdExternalProvider
  androidAdUnitId : Option String
  iosAdUnitId : Option String
  presentationFormat : Option AdPresentationFormat
  minimumDisplaySeconds : Option ℤ
  skippable : Option Bool
  maxPerSession : Option ℤ
  deriving DecidableEq

/-- How a slot is filled. -/
def AdSlot.fill (slot : AdSlot) : SlotFill where
  fillStrategy := slot.fillStrategy
  externalProvider := slot.externalProvider
  androidAdUnitId := slot.androidAdUnitId
  iosAdUnitId := slot.iosAdUnitId
  presentationFormat := some slot.presentationFormat
  minimumDisplaySeconds := slot.minimumDisplaySeconds
  skippable := slot.skippable
  maxPerSession := slot.maxPerSession

/-! ### The table -/

/-- The checks of the table `ad_slots`, with the range of its `INTEGER` columns. -/
def AdSlot.MeetsChecks (slot : AdSlot) : Prop :=
  (∀ seconds ∈ slot.minimumDisplaySeconds, 1 ≤ seconds ∧ seconds ≤ 10) ∧
  (∀ n ∈ slot.maxPerSession, 1 ≤ n ∧ FitsInteger n) ∧
  (slot.presentationFormat = .inline ∨
    (slot.minimumDisplaySeconds.isSome ∧ slot.skippable.isSome ∧ slot.maxPerSession.isSome ∧
      slot.fillStrategy = .directOnly ∧ slot.externalProvider = .none ∧
      slot.androidAdUnitId = none ∧ slot.iosAdUnitId = none)) ∧
  ((slot.placement ∈ AdCampaignService.INTERSTITIAL_PLACEMENTS ∧
      slot.presentationFormat = .fullScreen) ∨
    (slot.placement ∉ AdCampaignService.INTERSTITIAL_PLACEMENTS ∧
      slot.presentationFormat = .inline))

instance (slot : AdSlot) : Decidable slot.MeetsChecks := by
  unfold AdSlot.MeetsChecks
  infer_instance

namespace AdCampaignRepository

/-- The data of an update; a field that is not there is left as it is. -/
structure SlotFillData where
  fillStrategy : AdSlotFillStrategy
  externalProvider : AdExternalProvider
  androidAdUnitId : Option String
  iosAdUnitId : Option String
  presentationFormat : Option AdPresentationFormat
  minimumDisplaySeconds : Field ℤ
  skippable : Field Bool
  maxPerSession : Field ℤ

/-- The slot with the columns of the data. -/
def SlotFillData.written (data : SlotFillData) (slot : AdSlot) : AdSlot :=
  { slot with
    fillStrategy := data.fillStrategy
    externalProvider := data.externalProvider
    androidAdUnitId := data.androidAdUnitId
    iosAdUnitId := data.iosAdUnitId
    presentationFormat := data.presentationFormat.getD slot.presentationFormat
    minimumDisplaySeconds := data.minimumDisplaySeconds.replace slot.minimumDisplaySeconds
    skippable := data.skippable.replace slot.skippable
    maxPerSession := data.maxPerSession.replace slot.maxPerSession }

/-- The slot with the id is another one. -/
def withSlot (id : String) (row : AdSlot) (s : Store) : Store :=
  { s with slots := s.slots.map fun slot => if slot.id = id then row else slot }

/-- The `update` of the slot, which the checks of the table may refuse. -/
def updateSlotFill (id : String) (data : SlotFillData) : Tx Store Failure PUnit := do
  let found ← Tx.query (findSlotById id)
  let slot ← Tx.expect found .recordNotFound
  Tx.require (data.written slot).MeetsChecks .checkConstraint
  Tx.write (withSlot id (data.written slot))

theorem findSlotById_withSlot {s : Store} {id : String} {slot row : AdSlot}
    (hslot : findSlotById id s = some slot) (hid : row.id = id) :
    findSlotById id (withSlot id row s) = some row := by
  simp only [findSlotById, withSlot] at hslot ⊢
  generalize s.slots = slots at hslot
  induction slots with
  | nil => exact absurd hslot (by simp)
  | cons first rest ih =>
    rw [List.map_cons, List.find?_cons]
    rw [List.find?_cons] at hslot
    by_cases hfirst : first.id = id
    · simp [hfirst, hid]
    · simp only [hfirst, decide_false] at hslot
      simpa [hfirst] using ih hslot

end AdCampaignRepository

/-! ### The service -/

namespace AdCampaignService

/-- The trimmed id, or none if nothing is left of it. -/
def normalizeAdUnitId (value : Option String) : Option String := truthy (value.map trim)

/-- What is asked of a slot that fills the screen. -/
def assertFullScreen (input : SlotFill) : Except Failure Unit :=
  if input.fillStrategy ≠ .directOnly ∨ input.externalProvider ≠ .none then
    .error (.validation "FULL_SCREEN slots must be direct-only with no external provider.")
  else if ¬ input.minimumDisplaySeconds.any fun seconds => 1 ≤ seconds ∧ seconds ≤ 10 then
    .error (.validation "minimumDisplaySeconds must be between 1 and 10.")
  else if input.skippable = none then
    .error (.validation "FULL_SCREEN slots require a skippable policy.")
  else if ¬ input.maxPerSession.any fun n => 1 ≤ n then
    .error (.validation "maxPerSession must be at least 1.")
  else .ok ()

/-- The checks of how a slot is filled. -/
def assertValidSlotFill (input : SlotFill) : Except Failure Unit :=
  if input.fillStrategy = .directOnly ∧ input.externalProvider ≠ .none then
    .error (.validation "DIRECT_ONLY slots must use provider NONE.")
  else if input.fillStrategy ≠ .directOnly ∧ input.externalProvider = .none then
    .error (.validation "External fill strategies require a provider.")
  else if input.externalProvider ≠ .admob ∧
      ((truthy input.androidAdUnitId).isSome ∨ (truthy input.iosAdUnitId).isSome) then
    .error (.validation "Ad unit IDs require the ADMOB provider.")
  else if input.presentationFormat = some .fullScreen then assertFullScreen input
  else .ok ()

/-- What is checked. -/
def proposed (current : AdSlot) (input : UpdateAdSlotFillInput) : SlotFill where
  fillStrategy := input.fillStrategy
  externalProvider := input.externalProvider
  androidAdUnitId := normalizeAdUnitId (input.androidAdUnitId.orElse current.androidAdUnitId)
  iosAdUnitId := normalizeAdUnitId (input.iosAdUnitId.orElse current.iosAdUnitId)
  presentationFormat := input.presentationFormat.replace (some current.presentationFormat)
  minimumDisplaySeconds := input.minimumDisplaySeconds.replace current.minimumDisplaySeconds
  skippable := input.skippable.replace current.skippable
  maxPerSession := input.maxPerSession.replace current.maxPerSession

/-- What is written; the client refuses to send `null` for the format. -/
def slotFillData (input : UpdateAdSlotFillInput) :
    Except Failure AdCampaignRepository.SlotFillData :=
  if input.presentationFormat = .null then .error .invalidArgument
  else .ok
    { fillStrategy := input.fillStrategy, externalProvider := input.externalProvider,
      androidAdUnitId := normalizeAdUnitId (input.androidAdUnitId.orElse none),
      iosAdUnitId := normalizeAdUnitId (input.iosAdUnitId.orElse none),
      presentationFormat := input.presentationFormat.orElse none,
      minimumDisplaySeconds := input.minimumDisplaySeconds, skippable := input.skippable,
      maxPerSession := input.maxPerSession }

/-- `updateSlotFill`: the checks of what the slot would be, and then the update. -/
def updateSlotFill (id : String) (input : UpdateAdSlotFillInput) : Tx Store Failure PUnit := do
  let found ← Tx.query (AdCampaignRepository.findSlotById id)
  let current ← Tx.expect found (.notFound "Advertising slot not found.")
  Tx.ofExcept (assertValidSlotFill (proposed current input))
  let data ← Tx.ofExcept (slotFillData input)
  AdCampaignRepository.updateSlotFill id data

end AdCampaignService

/-! ### Checked and stored -/

open AdCampaignService AdCampaignRepository

/-- `assertValidSlotFill` accepts the configuration. -/
def ValidFill (fill : SlotFill) : Prop := assertValidSlotFill fill = .ok ()

/-- An ad unit id after a request: a value that is sent is trimmed, one that is not sent is
`kept`. -/
def overriddenId (keep : Option String → Option String) (current : Option String) :
    Field String → Option String
  | .absent => keep current
  | .null => none
  | .value v => normalizeAdUnitId (some v)

/-- The row with the fields that the request sends in place of its own. A row has a format, so there
is none when the request sends `null` for it. -/
def overriddenWith (keep : Option String → Option String) (current : AdSlot)
    (input : UpdateAdSlotFillInput) : Option AdSlot :=
  (input.presentationFormat.replace (some current.presentationFormat)).map fun presentationFormat =>
    { current with
      fillStrategy := input.fillStrategy
      externalProvider := input.externalProvider
      androidAdUnitId := overriddenId keep current.androidAdUnitId input.androidAdUnitId
      iosAdUnitId := overriddenId keep current.iosAdUnitId input.iosAdUnitId
      presentationFormat
      minimumDisplaySeconds := input.minimumDisplaySeconds.replace current.minimumDisplaySeconds
      skippable := input.skippable.replace current.skippable
      maxPerSession := input.maxPerSession.replace current.maxPerSession }

/-- The current row overridden by exactly the fields that are present. -/
def overridden (current : AdSlot) (input : UpdateAdSlotFillInput) : Option AdSlot :=
  overriddenWith id current input

/-- The ids that the request does not send are those that are not set. -/
def KeepsIds (current : AdSlot) (input : UpdateAdSlotFillInput) : Prop :=
  (input.androidAdUnitId = .absent → current.androidAdUnitId = none) ∧
  (input.iosAdUnitId = .absent → current.iosAdUnitId = none)

/-- The ids that the request sets to `null` are blank already. -/
def ClearsBlankIds (current : AdSlot) (input : UpdateAdSlotFillInput) : Prop :=
  (input.androidAdUnitId = .null → normalizeAdUnitId current.androidAdUnitId = none) ∧
  (input.iosAdUnitId = .null → normalizeAdUnitId current.iosAdUnitId = none)

/-- The configuration without its ad unit ids. -/
def SlotFill.withoutIds (fill : SlotFill) : SlotFill :=
  { fill with androidAdUnitId := none, iosAdUnitId := none }

/-- The slot without the ids of its provider. -/
def AdSlot.withoutIds (slot : AdSlot) : AdSlot :=
  { slot with androidAdUnitId := none, iosAdUnitId := none }

theorem truthy_truthy (value : Option String) : truthy (truthy value) = truthy value := by
  rw [truthy, truthy, Option.filter_filter]
  simp only [Bool.and_self]

/-- The checks, one by one. -/
theorem validFill_iff {fill : SlotFill} :
    ValidFill fill ↔
      ¬(fill.fillStrategy = .directOnly ∧ fill.externalProvider ≠ .none) ∧
      ¬(fill.fillStrategy ≠ .directOnly ∧ fill.externalProvider = .none) ∧
      ¬(fill.externalProvider ≠ .admob ∧
        ((truthy fill.androidAdUnitId).isSome ∨ (truthy fill.iosAdUnitId).isSome)) ∧
      (fill.presentationFormat = some .fullScreen → assertFullScreen fill = .ok ()) := by
  rw [ValidFill, assertValidSlotFill]
  split_ifs with hdirect hexternal hids hformat
  · exact iff_of_false (by simp) fun h => h.1 hdirect
  · exact iff_of_false (by simp) fun h => h.2.1 hexternal
  · exact iff_of_false (by simp) fun h => h.2.2.1 hids
  · exact ⟨fun h => ⟨hdirect, hexternal, hids, fun _ => h⟩, fun h => h.2.2.2 hformat⟩
  · exact iff_of_true rfl ⟨hdirect, hexternal, hids, fun h => absurd h hformat⟩

/-- What the ids add to the configuration without them. -/
theorem validFill_withoutIds {fill : SlotFill} :
    ValidFill fill ↔ ValidFill fill.withoutIds ∧ (fill.externalProvider ≠ .admob →
      truthy fill.androidAdUnitId = none ∧ truthy fill.iosAdUnitId = none) := by
  rw [validFill_iff, validFill_iff]
  constructor
  · rintro ⟨hdirect, hexternal, hids, hfull⟩
    refine ⟨⟨hdirect, hexternal, fun h => ?_, hfull⟩, fun hprovider => ?_⟩
    · exact absurd h.2 (by simp [SlotFill.withoutIds, truthy])
    · have hnone := not_or.mp (not_and.mp hids hprovider)
      exact ⟨Option.not_isSome_iff_eq_none.mp hnone.1, Option.not_isSome_iff_eq_none.mp hnone.2⟩
  · rintro ⟨⟨hdirect, hexternal, -, hfull⟩, hids⟩
    refine ⟨hdirect, hexternal, fun h => ?_, hfull⟩
    obtain ⟨handroid, hios⟩ := hids h.1
    rw [handroid, hios] at h
    exact absurd h.2 (by decide)

/-- A valid row in the full screen has no ad unit ids. -/
theorem ValidFill.ids_eq_none {slot : AdSlot} (h : ValidFill slot.fill)
    (hfull : slot.presentationFormat = .fullScreen)
    (handroid : truthy slot.androidAdUnitId = slot.androidAdUnitId)
    (hios : truthy slot.iosAdUnitId = slot.iosAdUnitId) :
    slot.androidAdUnitId = none ∧ slot.iosAdUnitId = none := by
  have hpolicy := (validFill_iff.mp h).2.2.2 (congrArg some hfull)
  have hprovider : slot.externalProvider ≠ .admob := by
    intro hadmob
    rw [assertFullScreen, if_pos (Or.inr ?_)] at hpolicy
    · cases hpolicy
    · change slot.externalProvider ≠ .none
      rw [hadmob]
      decide
  rw [← handroid, ← hios]
  exact (validFill_withoutIds.mp h).2 hprovider

/-- The checks of the table look at the ids of a full screen only. -/
theorem meetsChecks_withoutIds {slot : AdSlot}
    (hids : slot.presentationFormat = .fullScreen →
      slot.androidAdUnitId = none ∧ slot.iosAdUnitId = none) :
    slot.MeetsChecks ↔ slot.withoutIds.MeetsChecks := by
  cases hformat : slot.presentationFormat with
  | inline => simp only [AdSlot.MeetsChecks, AdSlot.withoutIds, hformat, true_or]
  | fullScreen => simp only [AdSlot.MeetsChecks, AdSlot.withoutIds, hids hformat]

/-- The request is accepted: the row with the fields that are sent, its other ids trimmed, passes the
checks of the service and of the table, and an id that is not blank is set to `null` for a provider
with ids only. -/
def Accepts (current : AdSlot) (input : UpdateAdSlotFillInput) : Prop :=
  ∃ row ∈ overriddenWith normalizeAdUnitId current input, ValidFill row.fill ∧
    row.withoutIds.MeetsChecks ∧
    (input.externalProvider ≠ .admob → ClearsBlankIds current input)

theorem truthy_normalizeAdUnitId (value : Option String) :
    truthy (normalizeAdUnitId value) = normalizeAdUnitId value := truthy_truthy _

theorem truthy_overriddenId (current : Option String) (field : Field String) :
    truthy (overriddenId normalizeAdUnitId current field) =
      overriddenId normalizeAdUnitId current field := by
  cases field with
  | absent => exact truthy_truthy _
  | null => rfl
  | value v => exact truthy_normalizeAdUnitId (some v)

/-- The id that is checked is none when the one after the request is none, and the stored one too
where the request sets it to `null`. -/
theorem normalizeAdUnitId_orElse {current : Option String} {field : Field String} :
    normalizeAdUnitId (field.orElse current) = none ↔
      overriddenId normalizeAdUnitId current field = none ∧
        (field = .null → normalizeAdUnitId current = none) := by
  cases field <;> simp [Field.orElse, overriddenId]

variable {s s' : Store} {id : String} {current row : AdSlot} {input : UpdateAdSlotFillInput}

theorem validFill_proposed (hrow : overriddenWith normalizeAdUnitId current input = some row) :
    ValidFill (proposed current input) ↔
      ValidFill row.fill ∧ (input.externalProvider ≠ .admob → ClearsBlankIds current input) := by
  obtain ⟨format, hformat, rfl⟩ := Option.map_eq_some_iff.mp hrow
  refine (validFill_withoutIds.trans ?_).trans (and_congr_left' validFill_withoutIds.symm)
  rw [and_assoc]
  refine and_congr (by rw [SlotFill.withoutIds, proposed, hformat]; rfl) ?_
  simp only [proposed, AdSlot.fill, truthy_normalizeAdUnitId, truthy_overriddenId,
    normalizeAdUnitId_orElse, ClearsBlankIds, ← imp_and]
  exact imp_congr_right fun _ => by tauto

/-- An update writes the row that it puts together, where the checks of the service and of the
table allow it. -/
theorem updateSlotFill_ok (hcurrent : findSlotById id s = some current) {w : PUnit} :
    (AdCampaignService.updateSlotFill id input).run s = .ok (w, s') ↔
      ValidFill (proposed current input) ∧ ∃ data, slotFillData input = .ok data ∧
        (data.written current).MeetsChecks ∧ s' = withSlot id (data.written current) s := by
  rw [AdCampaignService.updateSlotFill, Tx.run_query_bind, Tx.run_expect_bind, hcurrent]
  simp only [Tx.run_bind_ok, Tx.run_ofExcept_ok, AdCampaignRepository.updateSlotFill,
    Tx.run_query_bind, Tx.run_expect_bind, ValidFill]
  constructor
  · rintro ⟨_, s₁, ⟨hvalid, rfl⟩, data, s₂, ⟨hdata, rfl⟩, h⟩
    rw [hcurrent] at h
    obtain ⟨hchecks, h⟩ := Tx.run_require_bind_ok.mp h
    cases h
    exact ⟨hvalid, data, hdata, hchecks, rfl⟩
  · rintro ⟨hvalid, data, hdata, hchecks, rfl⟩
    refine ⟨(), s, ⟨hvalid, rfl⟩, data, s, ⟨hdata, rfl⟩, ?_⟩
    rw [hcurrent]
    exact Tx.run_require_bind_ok.mpr ⟨hchecks, rfl⟩

/-- The row that is written: every id that is not sent is cleared. -/
theorem slotFillData_ok {data : SlotFillData} (hdata : slotFillData input = .ok data) :
    overriddenWith (fun _ => none) current input = some (data.written current) := by
  have hnone : ∀ (current : Option String) (field : Field String),
      normalizeAdUnitId (field.orElse none) = overriddenId (fun _ => none) current field := by
    intro current field
    cases field <;> rfl
  rw [slotFillData] at hdata
  cases hformat : input.presentationFormat with
  | null =>
    rw [hformat, if_pos rfl] at hdata
    cases hdata
  | absent | value format =>
    rw [if_neg (by rw [hformat]; simp)] at hdata
    obtain rfl := Except.ok.inj hdata
    rw [overriddenWith, hformat]
    simp only [SlotFillData.written, hnone current.androidAdUnitId]
    rfl

theorem exists_slotFillData {keep : Option String → Option String}
    (hrow : overriddenWith keep current input = some row) :
    ∃ data, slotFillData input = .ok data := by
  rw [slotFillData]
  split
  case isTrue hformat =>
    rw [overriddenWith, hformat] at hrow
    cases hrow
  case isFalse => exact ⟨_, rfl⟩

theorem overriddenWith_eq {keep keep' : Option String → Option String}
    (hrow : overriddenWith keep current input = some row) :
    overriddenWith keep' current input = some
      { row with
        androidAdUnitId := overriddenId keep' current.androidAdUnitId input.androidAdUnitId
        iosAdUnitId := overriddenId keep' current.iosAdUnitId input.iosAdUnitId } := by
  obtain ⟨format, hformat, rfl⟩ := Option.map_eq_some_iff.mp hrow
  rw [overriddenWith, hformat]
  rfl

theorem overriddenId_none {keep : Option String → Option String} {current : Option String}
    {field : Field String} (h : overriddenId keep current field = none) :
    overriddenId (fun _ => none) current field = none := by
  cases field with
  | absent => rfl
  | null => rfl
  | value v => exact h

/-- The row that is written, next to the one that has its other ids trimmed. -/
structure Written (current : AdSlot) (input : UpdateAdSlotFillInput) (row written : AdSlot) :
    Prop where
  row_eq : overriddenWith normalizeAdUnitId current input = some row
  written_eq : overriddenWith (fun _ => none) current input = some written

namespace Written

variable {written : AdSlot}

theorem withoutIds (h : Written current input row written) :
    written.withoutIds = row.withoutIds := by
  rw [← Option.some.inj ((overriddenWith_eq h.row_eq).symm.trans h.written_eq)]
  rfl

theorem normalized (h : Written current input row written) :
    truthy row.androidAdUnitId = row.androidAdUnitId ∧
      truthy row.iosAdUnitId = row.iosAdUnitId := by
  obtain ⟨_, -, rfl⟩ := Option.map_eq_some_iff.mp h.row_eq
  exact ⟨truthy_overriddenId _ _, truthy_overriddenId _ _⟩

/-- An id that the row does not have is not written. -/
theorem ids_eq_none (h : Written current input row written)
    (hids : row.androidAdUnitId = none ∧ row.iosAdUnitId = none) :
    written.androidAdUnitId = none ∧ written.iosAdUnitId = none := by
  obtain ⟨_, hformat, rfl⟩ := Option.map_eq_some_iff.mp h.row_eq
  obtain ⟨_, -, rfl⟩ := Option.map_eq_some_iff.mp h.written_eq
  exact ⟨overriddenId_none hids.1, overriddenId_none hids.2⟩

theorem valid (h : Written current input row written) (hvalid : ValidFill row.fill) :
    ValidFill written.fill := by
  obtain ⟨hrest, hids⟩ := validFill_withoutIds.mp hvalid
  have hsame : written.fill.withoutIds = row.fill.withoutIds :=
    congrArg AdSlot.fill h.withoutIds
  refine validFill_withoutIds.mpr ⟨hsame ▸ hrest, fun hprovider => ?_⟩
  have hnone := hids (congrArg SlotFill.externalProvider hsame ▸ hprovider)
  obtain ⟨handroid, hios⟩ := h.ids_eq_none
    ⟨h.normalized.1.symm.trans hnone.1, h.normalized.2.symm.trans hnone.2⟩
  change truthy written.androidAdUnitId = none ∧ truthy written.iosAdUnitId = none
  rw [handroid, hios]
  exact ⟨rfl, rfl⟩

/-- In a valid configuration the checks of the table do not depend on the ids. -/
theorem meetsChecks_iff (h : Written current input row written) (hvalid : ValidFill row.fill) :
    written.MeetsChecks ↔ row.withoutIds.MeetsChecks := by
  have hformat : written.presentationFormat = row.presentationFormat := by
    have := congrArg AdSlot.presentationFormat h.withoutIds
    exact this
  rw [← h.withoutIds]
  exact meetsChecks_withoutIds fun hfull => h.ids_eq_none
    (hvalid.ids_eq_none (hformat ▸ hfull) h.normalized.1 h.normalized.2)

end Written

/-- The checks of the service on what it proposes, and those of the table on what it writes, are
those of `Accepts`. -/
theorem updateSlotFill_iff (hcurrent : findSlotById id s = some current) {w : PUnit} :
    (AdCampaignService.updateSlotFill id input).run s = .ok (w, s') ↔
      Accepts current input ∧ ∃ row written, Written current input row written ∧
        s' = withSlot id written s := by
  rw [updateSlotFill_ok hcurrent]
  constructor
  · rintro ⟨hproposed, data, hdata, hchecks, rfl⟩
    have hwritten : overriddenWith (fun _ => none) current input = some (data.written current) :=
      slotFillData_ok hdata
    have hboth : Written current input _ _ := ⟨overriddenWith_eq hwritten, hwritten⟩
    obtain ⟨hvalid, hclears⟩ := (validFill_proposed hboth.row_eq).mp hproposed
    exact ⟨⟨_, hboth.row_eq, hvalid, (hboth.meetsChecks_iff hvalid).mp hchecks, hclears⟩,
      _, _, hboth, rfl⟩
  · rintro ⟨⟨row, hrow, hvalid, hchecks, hclears⟩, row', written, hboth, rfl⟩
    obtain rfl : row = row' := Option.some.inj (hrow.symm.trans hboth.row_eq)
    obtain ⟨data, hdata⟩ := exists_slotFillData hrow
    obtain rfl : data.written current = written :=
      Option.some.inj ((slotFillData_ok hdata).symm.trans hboth.written_eq)
    exact ⟨(validFill_proposed hrow).mpr ⟨hvalid, hclears⟩, data, hdata,
      (hboth.meetsChecks_iff hvalid).mpr hchecks, rfl⟩

/-- The row that is written is the current one with the fields that are sent, when the ids that are
not sent are not set. -/
theorem Written.overridden_iff {written : AdSlot} (h : Written current input row written) :
    overridden current input = some written ↔ KeepsIds current input := by
  have hid : ∀ (current : Option String) (field : Field String),
      overriddenId id current field = overriddenId (fun _ => none) current field ↔
        (field = .absent → current = none) := by
    intro current field
    cases field <;> simp [overriddenId]
  obtain ⟨format, hformat, hwritten⟩ := Option.map_eq_some_iff.mp h.written_eq
  rw [overridden, overriddenWith, hformat, Option.map_some, Option.some_inj, ← hwritten,
    AdSlot.mk.injEq]
  simp only [true_and, and_true, hid, KeepsIds]

theorem overridden_withoutIds (hrow : overridden current input = some row) :
    ∃ row', overriddenWith normalizeAdUnitId current input = some row' ∧
      row'.withoutIds = row.withoutIds :=
  ⟨_, overriddenWith_eq hrow, rfl⟩

/-- Trimming the ids that are kept keeps a row valid. -/
theorem ValidFill.trimmed {row' : AdSlot} (hvalid : ValidFill row.fill)
    (hrow : overridden current input = some row)
    (hrow' : overriddenWith normalizeAdUnitId current input = some row') :
    ValidFill row'.fill := by
  have hblank : ∀ {current : Option String} {field : Field String},
      truthy (overriddenId id current field) = none →
        truthy (overriddenId normalizeAdUnitId current field) = none := by
    intro current field h
    cases field with
    | absent =>
      cases current with
      | none => rfl
      | some v =>
        have hempty : v = "" := by
          by_contra hne
          simp [overriddenId, truthy, hne] at h
        rw [hempty]
        rfl
    | null => rfl
    | value v => exact h
  obtain ⟨hrest, hids⟩ := validFill_withoutIds.mp hvalid
  obtain ⟨_, hformat, rfl⟩ := Option.map_eq_some_iff.mp hrow
  obtain ⟨_, hformat', rfl⟩ := Option.map_eq_some_iff.mp hrow'
  obtain rfl := Option.some.inj (hformat.symm.trans hformat')
  exact validFill_withoutIds.mpr ⟨hrest, fun hprovider =>
    ⟨hblank (hids hprovider).1, hblank (hids hprovider).2⟩⟩

theorem Accepts.exists_written (h : Accepts current input) :
    ∃ row written, Written current input row written := by
  obtain ⟨row, hrow, -⟩ := h
  exact ⟨row, _, hrow, overriddenWith_eq hrow⟩

theorem Written.id_eq {written : AdSlot} (h : Written current input row written) :
    written.id = current.id := by
  obtain ⟨_, -, rfl⟩ := Option.map_eq_some_iff.mp h.written_eq
  rfl

/-- Where `updateSlotFill` accepts a request, it stores a valid row that is the current one
overridden by exactly the fields that are present, and it accepts every request whose overridden
row is valid, if and only if no accepted request leaves out an ad unit id that is set, and a valid
overridden row passes the checks of the table and is not one from which an id is removed, for a
provider without ids, by `null`. -/
theorem updateSlotFill_faithful_iff {s : Store} {id : String} {current : AdSlot}
    (hcurrent : findSlotById id s = some current) (input : UpdateAdSlotFillInput) :
    ((∀ s', (AdCampaignService.updateSlotFill id input).run s = .ok (⟨⟩, s') →
        ∃ row, findSlotById id s' = some row ∧ ValidFill row.fill ∧
          overridden current input = some row) ∧
      ∀ row, overridden current input = some row → ValidFill row.fill →
        ∃ s', (AdCampaignService.updateSlotFill id input).run s = .ok (⟨⟩, s')) ↔
    (Accepts current input → KeepsIds current input) ∧
      ∀ row, overridden current input = some row → ValidFill row.fill →
        row.withoutIds.MeetsChecks ∧
          (input.externalProvider ≠ .admob → ClearsBlankIds current input) := by
  have hid : current.id = id := by
    have := List.find?_some hcurrent
    exact of_decide_eq_true this
  have hfind : ∀ {row written}, Written current input row written →
      findSlotById id (withSlot id written s) = some written := fun hwritten =>
    findSlotById_withSlot hcurrent (hwritten.id_eq.trans hid)
  constructor
  · rintro ⟨hstored, haccepted⟩
    constructor
    · intro haccepts
      obtain ⟨row, written, hwritten⟩ := haccepts.exists_written
      obtain ⟨found, hfound, -, hoverridden⟩ := hstored (withSlot id written s)
        ((updateSlotFill_iff hcurrent).mpr ⟨haccepts, row, written, hwritten, rfl⟩)
      obtain rfl : written = found := Option.some.inj ((hfind hwritten).symm.trans hfound)
      exact hwritten.overridden_iff.mp hoverridden
    · intro row hrow hvalid
      obtain ⟨s', hrun⟩ := haccepted row hrow hvalid
      obtain ⟨⟨trimmed, htrimmed, -, hchecks, hclears⟩, -⟩ := (updateSlotFill_iff hcurrent).mp hrun
      obtain ⟨row', hrow', hsame⟩ := overridden_withoutIds hrow
      obtain rfl : trimmed = row' := Option.some.inj (htrimmed.symm.trans hrow')
      exact ⟨hsame ▸ hchecks, hclears⟩
  · rintro ⟨hkeeps, hchecked⟩
    constructor
    · intro s' hrun
      obtain ⟨haccepts, row, written, hwritten, rfl⟩ := (updateSlotFill_iff hcurrent).mp hrun
      have hkept := hkeeps haccepts
      obtain ⟨trimmed, htrimmed, hvalid, -⟩ := haccepts
      obtain rfl : trimmed = row := Option.some.inj (htrimmed.symm.trans hwritten.row_eq)
      exact ⟨written, hfind hwritten, hwritten.valid hvalid,
        hwritten.overridden_iff.mpr hkept⟩
    · intro row hrow hvalid
      obtain ⟨hchecks, hclears⟩ := hchecked row hrow hvalid
      obtain ⟨trimmed, htrimmed, hsame⟩ := overridden_withoutIds hrow
      have haccepts : Accepts current input :=
        ⟨trimmed, htrimmed, hvalid.trimmed hrow htrimmed, hsame ▸ hchecks, hclears⟩
      obtain ⟨row', written, hwritten⟩ := haccepts.exists_written
      exact ⟨_, (updateSlotFill_iff hcurrent).mpr ⟨haccepts, row', written, hwritten, rfl⟩⟩

/-- A slot that is filled by `ADMOB`, with an id for each platform. -/
def filledSlot : AdSlot :=
  { id := "N6", code := "HOM-N-06", page := "HOME", zone := "N", position := 6,
    placement := .homeTodayOffers, fillStrategy := .directThenExternal, externalProvider := .admob,
    androidAdUnitId := some "android", iosAdUnitId := some "ios" }

/-- A request that sends both ids is accepted, and stored as it was checked. -/
theorem updateSlotFill_faithful_both :
    ∃ s', (AdCampaignService.updateSlotFill "N6"
        { fillStrategy := .externalOnly, externalProvider := .admob,
          androidAdUnitId := .value "a", iosAdUnitId := .value "i" }).run
        { slots := [filledSlot], buildings := [], campaigns := .empty } = .ok (⟨⟩, s') ∧
      ∃ row, findSlotById "N6" s' = some row ∧ ValidFill row.fill ∧
        overridden filledSlot
          { fillStrategy := .externalOnly, externalProvider := .admob,
            androidAdUnitId := .value "a", iosAdUnitId := .value "i" } = some row := by
  have hcurrent : findSlotById "N6"
      { slots := [filledSlot], buildings := [], campaigns := .empty } = some filledSlot := rfl
  obtain ⟨hstored, haccepted⟩ := (updateSlotFill_faithful_iff hcurrent
      { fillStrategy := .externalOnly, externalProvider := .admob,
        androidAdUnitId := .value "a", iosAdUnitId := .value "i" }).mpr (by
    refine ⟨fun _ => ⟨fun h => (nomatch h), fun h => (nomatch h)⟩, fun row hrow _ => ?_⟩
    obtain rfl := Option.some.inj hrow
    exact ⟨by decide +kernel, fun h => absurd rfl h⟩)
  obtain ⟨s', hrun⟩ := haccepted _ rfl rfl
  exact ⟨s', hrun, hstored s' hrun⟩

/-- A request that sends neither id passes the check with the stored ids, and clears both. -/
theorem updateSlotFill_clears :
    (((AdCampaignService.updateSlotFill "N6"
        { fillStrategy := .externalOnly, externalProvider := .admob }).run
        { slots := [filledSlot], buildings := [], campaigns := .empty }).toOption.bind fun r =>
      (findSlotById "N6" r.2).map fun row => (row.androidAdUnitId, row.iosAdUnitId)) =
        some (none, none) ∧
    (overridden filledSlot { fillStrategy := .externalOnly, externalProvider := .admob }).map
      (fun row => (row.androidAdUnitId, row.iosAdUnitId)) = some (some "android", some "ios") := by
  decide +kernel

end VielHome.Advertising
