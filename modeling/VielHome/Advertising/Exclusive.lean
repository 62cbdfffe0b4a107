import VielHome.Advertising.Service
import VielHome.Relational.Evolves

/-!
# One active campaign for a slot at a time

No two active campaigns clash: have one slot and one building, and schedules that overlap
(`Exclusive`). This holds, and statuses go the allowed ways (`Follows`), in every run whose writes
find what their calls have read (`Write.Current`): the status of the campaign; where it is
activated, its slot, building and schedule; and where a call has looked for a conflict, still no
other answer. Two activations that look before either writes leave two campaigns that clash, and so
does, with no other call in between, an edit that sends an empty building: it is checked for another
building than the one it writes (`not_exclusive`).
-/

namespace VielHome.Advertising

open Relational
open Relational.ReadCommitted (Database Event Logged Prog)
open AdCampaignRepository (edited findById findObviousSlotConflict newCampaign withStatus)
open AdCampaignService (ALLOWED_TRANSITIONS moved)

variable {s t : Store} {id : ℕ}

/-! ### Statuses -/

/-- From one store to the next a campaign keeps its status or goes an allowed way, and a campaign
that is new is a draft. -/
def Follows (t t' : Store) : Prop :=
  Table.Evolves (fun c c' => c'.status = c.status ∨ c'.status ∈ ALLOWED_TRANSITIONS c.status)
    (fun c => c.status = .draft) t.campaigns t'.campaigns

theorem Follows.refl (t : Store) : Follows t t := by
  rw [Follows]
  refine Table.Evolves.refl ?_ t.campaigns
  exact fun c => Or.inl rfl

/-- An update of one campaign goes an allowed way when the campaign does. -/
theorem follows_modify {f : AdCampaign → AdCampaign} {hf : ∀ c, (f c).id = c.id}
    (h : ∀ c, findById id t = some c →
      (f c).status = c.status ∨ (f c).status ∈ ALLOWED_TRANSITIONS c.status) :
    Follows t { t with campaigns := t.campaigns.modify id f hf } :=
  Table.evolves_modify (h := hf) (fun _ => Or.inl rfl) h

/-- The campaign has ended. -/
def Ended (id : ℕ) (t : Store) : Prop := ∃ c, findById id t = some c ∧ c.status = .ended

/-- An ended campaign has no way to go. -/
theorem Follows.ended (h : Follows s t) (hs : Ended id s) : Ended id t := by
  refine Table.Evolves.keeps h (fun c c' hstep hended => ?_) hs
  rcases hstep with hstep | hstep
  · exact hstep.trans hended
  · rw [hended] at hstep
    cases hstep

/-! ### Conflicts -/

/-- The campaigns have one slot and one building, at the same time. -/
def Clash (c c' : AdCampaign) : Prop :=
  c'.adSlotId = c.adSlotId ∧ c'.buildingId = c.buildingId ∧ c'.startsAt < c.endsAt ∧
    c.startsAt < c'.endsAt

instance : DecidableRel Clash := fun c c' =>
  inferInstanceAs (Decidable (c'.adSlotId = c.adSlotId ∧ c'.buildingId = c.buildingId ∧
    c'.startsAt < c.endsAt ∧ c.startsAt < c'.endsAt))

theorem Clash.symm {c c' : AdCampaign} (h : Clash c c') : Clash c' c :=
  ⟨h.1.symm, h.2.1.symm, h.2.2.2, h.2.2.1⟩

/-- No two active campaigns clash. -/
def Exclusive (t : Store) : Prop :=
  ∀ c ∈ t.campaigns, ∀ c' ∈ t.campaigns, c'.id ≠ c.id → c.status = .active →
    c'.status = .active → ¬ Clash c c'

instance : DecidablePred Exclusive := fun t =>
  inferInstanceAs (Decidable (∀ c ∈ t.campaigns, ∀ c' ∈ t.campaigns, c'.id ≠ c.id →
    c.status = .active → c'.status = .active → ¬ Clash c c'))

/-- The campaign clashes with no other active one. -/
def FreeFor (c : AdCampaign) (t : Store) : Prop :=
  ∀ c' ∈ t.campaigns, c'.id ≠ c.id → c'.status = .active → ¬ Clash c c'

theorem findObviousSlotConflict_eq_none {c : AdCampaign} :
    findObviousSlotConflict c t = none ↔ FreeFor c t := by
  rw [findObviousSlotConflict, Option.map_eq_none_iff, List.find?_eq_none]
  simp only [decide_eq_true_eq]
  constructor
  · intro h c' hc' hid hactive hclash
    exact h c' hc' ⟨hid, hclash.1, hclash.2.1, hactive, hclash.2.2⟩
  · intro h c' hc' ⟨hid, hslot, hbuilding, hactive, htime⟩
    exact h c' hc' hid hactive ⟨hslot, hbuilding, htime⟩

/-- What a campaign clashes with depends on its slot, building and schedule only. -/
theorem FreeFor.congr {c c' : AdCampaign} (h : FreeFor c t) (hid : c'.id = c.id)
    (hslot : c'.adSlotId = c.adSlotId) (hbuilding : c'.buildingId = c.buildingId)
    (hstarts : c'.startsAt = c.startsAt) (hends : c'.endsAt = c.endsAt) : FreeFor c' t := by
  intro other hother hne hactive hclash
  refine h other hother (hid ▸ hne) hactive ?_
  rwa [Clash, ← hslot, ← hbuilding, ← hstarts, ← hends]

theorem exclusive_create (h : Exclusive t) (input : CreateAdCampaignInput) (createdById : ℕ) :
    Exclusive (AdCampaignRepository.create input createdById t) := by
  have hid := AdCampaignRepository.newCampaign_id input createdById
  intro c hc c' hc' hne hactive hactive'
  rcases (Table.mem_create (h := hid)).mp hc with hc | rfl
  · rcases (Table.mem_create (h := hid)).mp hc' with hc' | rfl
    · exact h c hc c' hc' hne hactive hactive'
    · cases hactive'
  · cases hactive

/-- An update of one campaign that leaves it inactive, or free of clashes. -/
theorem exclusive_modify (h : Exclusive t) {f : AdCampaign → AdCampaign}
    {hf : ∀ c, (f c).id = c.id}
    (hrow : ∀ c, findById id t = some c → (f c).status = .active → FreeFor (f c) t) :
    Exclusive { t with campaigns := t.campaigns.modify id f hf } := by
  intro c₁ hc₁ c₂ hc₂ hne hactive₁ hactive₂ hclash
  obtain ⟨c, hc, rfl⟩ := (Table.mem_modify (h := hf)).mp hc₁
  obtain ⟨c', hc', rfl⟩ := (Table.mem_modify (h := hf)).mp hc₂
  have hmem : ∀ {c : AdCampaign}, c ∈ t.campaigns → c.id = id → findById id t = some c :=
    fun hc hid => hid ▸ Table.find?_of_mem hc
  by_cases hid : c.id = id <;> by_cases hid' : c'.id = id
  · -- there is one row with the id
    rw [if_pos hid, if_pos hid', hf, hf, hid, hid'] at hne
    exact hne rfl
  · rw [if_pos hid] at hactive₁ hclash hne
    rw [if_neg hid'] at hactive₂ hclash hne
    exact hrow c (hmem hc hid) hactive₁ c' hc' hne hactive₂ hclash
  · rw [if_neg hid] at hactive₁ hclash hne
    rw [if_pos hid'] at hactive₂ hclash hne
    exact hrow c' (hmem hc' hid') hactive₂ c hc hne.symm hactive₁ hclash.symm
  · rw [if_neg hid] at hactive₁ hclash hne
    rw [if_neg hid'] at hactive₂ hclash hne
    exact h c hc c' hc' hne hactive₁ hactive₂ hclash

/-! ### Writes -/

/-- The row has the status that was read. -/
def SameStatus (campaign : AdCampaign) (t : Store) : Prop :=
  ∀ c ∈ findById campaign.id t, c.status = campaign.status

instance (campaign : AdCampaign) : DecidablePred (SameStatus campaign) := fun t =>
  inferInstanceAs (Decidable (∀ c ∈ findById campaign.id t, c.status = campaign.status))

/-- The row has the slot, the building and the schedule that were read. -/
def SamePlace (campaign : AdCampaign) (t : Store) : Prop :=
  ∀ c ∈ findById campaign.id t, c.adSlotId = campaign.adSlotId ∧
    c.buildingId = campaign.buildingId ∧ c.startsAt = campaign.startsAt ∧
    c.endsAt = campaign.endsAt

instance (campaign : AdCampaign) : DecidablePred (SamePlace campaign) := fun t =>
  inferInstanceAs (Decidable (∀ c ∈ findById campaign.id t, c.adSlotId = campaign.adSlotId ∧
    c.buildingId = campaign.buildingId ∧ c.startsAt = campaign.startsAt ∧
    c.endsAt = campaign.endsAt))

/-- The write finds what its call has read: the status of the campaign; its place, where the campaign
is activated; and the answer about conflicts, where the campaign is to be active. An edit of an
active campaign moreover is not checked with an empty building. -/
def Write.Current : Write → Store → Prop
  | .create _ _, _ => True
  | .updateStatus campaign conflict status, t => SameStatus campaign t ∧ (status = .active →
      SamePlace campaign t ∧ findObviousSlotConflict campaign t = conflict)
  | .update campaign conflict merged, t => SameStatus campaign t ∧ (campaign.status = .active →
      merged.buildingId ≠ some "" ∧ findObviousSlotConflict (moved merged campaign) t = conflict)

instance : (w : Write) → DecidablePred w.Current
  | .create _ _ => fun _ => inferInstanceAs (Decidable True)
  | .updateStatus campaign conflict status => fun t =>
    inferInstanceAs (Decidable (SameStatus campaign t ∧ (status = .active →
      SamePlace campaign t ∧ findObviousSlotConflict campaign t = conflict)))
  | .update campaign conflict merged => fun t =>
    inferInstanceAs (Decidable (SameStatus campaign t ∧ (campaign.status = .active →
      merged.buildingId ≠ some "" ∧ findObviousSlotConflict (moved merged campaign) t = conflict)))

/-- What the call of the write has checked. -/
def Write.Checked : Write → Prop
  | .create _ _ => True
  | .updateStatus campaign conflict status =>
    status ∈ ALLOWED_TRANSITIONS campaign.status ∧ conflict = none
  | .update _ conflict _ => conflict = none

theorem Write.Checked.exclusive {w : Write} (h : w.Checked) (hw : w.Current t)
    (ht : Exclusive t) : Exclusive (w.apply t) := by
  cases w with
  | create input createdById => exact exclusive_create ht input createdById
  | updateStatus campaign conflict status =>
    obtain ⟨-, rfl⟩ := h
    refine exclusive_modify ht fun c hc hactive => ?_
    obtain ⟨hplace, hconflict⟩ := hw.2 hactive
    obtain ⟨hslot, hbuilding, hstarts, hends⟩ := hplace c hc
    have hid : c.id = campaign.id := Table.key_of_find? hc
    exact (findObviousSlotConflict_eq_none.mp hconflict).congr hid hslot hbuilding hstarts hends
  | update campaign conflict merged =>
    obtain rfl : conflict = none := h
    refine exclusive_modify ht fun c hc hactive => ?_
    -- an edit leaves the status, so that the call has read an active campaign
    have hread : campaign.status = .active := (hw.1 c hc).symm.trans hactive
    obtain ⟨hbuilding, hconflict⟩ := hw.2 hread
    have hstored : truthy merged.buildingId = merged.buildingId := by
      cases hb : merged.buildingId with
      | none => rfl
      | some buildingId =>
        have hne : buildingId ≠ "" := fun h => hbuilding (h ▸ hb)
        simp [truthy, hne]
    have hid : c.id = campaign.id := Table.key_of_find? hc
    exact (findObviousSlotConflict_eq_none.mp hconflict).congr hid rfl hstored rfl rfl

theorem Write.Checked.follows {w : Write} (h : w.Checked) (hw : w.Current t) :
    Follows t (w.apply t) := by
  cases w with
  | create input createdById =>
    exact Table.evolves_create (h := AdCampaignRepository.newCampaign_id input createdById)
      (fun _ => Or.inl rfl) rfl
  | updateStatus campaign conflict status =>
    refine follows_modify fun c hc => Or.inr ?_
    rw [hw.1 c hc]
    exact h.1
  | update campaign conflict merged => exact follows_modify fun c _ => Or.inl rfl

/-! ### Calls -/

theorem readOnly_assertValidCampaignImage (imageUrl : String)
    (storage : AdCampaignService.StorageAnswer) :
    (AdCampaignService.assertValidCampaignImage imageUrl storage).ReadOnly := by
  refine Prog.ReadOnly.ite ?_ trivial
  cases storage with
  | unavailable => trivial
  | failed => trivial
  | bytes content => exact Prog.ReadOnly.require _ _

theorem readOnly_assertReplacedImage (imageUrl : Option String) (current : AdCampaign)
    (storage : AdCampaignService.StorageAnswer) :
    (AdCampaignService.assertReplacedImage imageUrl current storage).ReadOnly := by
  cases imageUrl with
  | none => trivial
  | some imageUrl =>
    exact Prog.ReadOnly.ite (readOnly_assertValidCampaignImage imageUrl storage) trivial

theorem readOnly_assertBuilding (buildingId : Option String) :
    (AdCampaignService.assertBuilding buildingId).ReadOnly := by
  rw [AdCampaignService.assertBuilding]
  cases truthy buildingId with
  | none => trivial
  | some buildingId => exact (Prog.ReadOnly.read _).bind fun _ => Prog.ReadOnly.require _ _

theorem readOnly_assertValidCampaignInput (input : CreateAdCampaignInput) :
    (AdCampaignService.assertValidCampaignInput input).ReadOnly := by
  refine (Prog.ReadOnly.require _ _).bind fun _ => (Prog.ReadOnly.require _ _).bind fun _ =>
    (Prog.ReadOnly.require _ _).bind fun _ => (Prog.ReadOnly.require _ _).bind fun _ =>
    (Prog.ReadOnly.read _).bind fun _ => (Prog.ReadOnly.expect _ _).bind fun slot =>
    (Prog.ReadOnly.require _ _).bind fun _ => Prog.ReadOnly.bind ?_ fun _ =>
    (Prog.ReadOnly.require _ _).bind fun _ => (Prog.ReadOnly.require _ _).bind fun _ =>
    readOnly_assertBuilding _
  exact Prog.ReadOnly.ite ((Prog.ReadOnly.require _ _).bind fun _ => Prog.ReadOnly.require _ _)
    trivial

theorem readOnly_getCampaign (id : ℕ) : (AdCampaignService.getCampaign id).ReadOnly :=
  (Prog.ReadOnly.read _).bind fun _ => Prog.ReadOnly.expect _ _

theorem readOnly_findConflict (status : AdCampaignStatus) (campaign : AdCampaign) :
    (AdCampaignService.findConflict status campaign).ReadOnly :=
  Prog.ReadOnly.ite (Prog.ReadOnly.read _) trivial

/-- Every call checks what it has read before it writes. -/
theorem CampaignCall.sends (c : CampaignCall) : c.call.Sends Write.apply Write.Checked := by
  cases c with
  | create input actorId storage =>
    exact Prog.Sends.readOnly (readOnly_assertValidCampaignInput input) fun _ =>
      Prog.Sends.readOnly (readOnly_assertValidCampaignImage _ storage) fun _ =>
      Prog.Sends.send trivial
  | transitionStatus id targetStatus =>
    exact Prog.Sends.readOnly (readOnly_getCampaign id) fun campaign =>
      Prog.Sends.require fun hallowed => Prog.Sends.require fun _ =>
      Prog.Sends.readOnly (readOnly_findConflict targetStatus campaign) fun conflict =>
      Prog.Sends.require fun hnone => Prog.Sends.send ⟨hallowed, hnone⟩
  | update id input storage =>
    exact Prog.Sends.readOnly (readOnly_getCampaign id) fun current =>
      Prog.Sends.readOnly (readOnly_assertValidCampaignInput _) fun _ =>
      Prog.Sends.readOnly (readOnly_assertReplacedImage _ current storage) fun _ =>
      Prog.Sends.readOnly (readOnly_findConflict _ _) fun conflict =>
      Prog.Sends.require fun hnone => Prog.Sends.send hnone

/-- The database on which the calls run. -/
abbrev Campaigns (ι : Type) := Database ι (Logged Store Write) Empty Failure PUnit

/-- The calls before any of them has run, with some slots and buildings, and no campaigns. -/
def startCalls {ι : Type} (slots : List AdSlot) (buildings : List String)
    (calls : ι → CampaignCall) : Campaigns ι :=
  .start ⟨⟨slots, buildings, .empty⟩, []⟩ fun i => (calls i).call

/-- The state after some events of the calls. -/
def runCalls {ι : Type} [DecidableEq ι] (slots : List AdSlot) (buildings : List String)
    (calls : ι → CampaignCall) (es : List (Event ι Failure)) : Campaigns ι :=
  runFrom (Database.next Empty.elim) (startCalls slots buildings calls) es

/-- Any number of calls, statement by statement in any order: as long as every write finds what its
call has read, no two active campaigns ever clash, statuses go the allowed ways, and a campaign that
has ended stays so. -/
theorem exclusive_of_current {ι : Type} [DecidableEq ι] (slots : List AdSlot)
    (buildings : List String) (calls : ι → CampaignCall) {es : List (Event ι Failure)}
    (hes : EachStep (Database.next Empty.elim) (Database.Fresh Write.Current)
      (startCalls slots buildings calls) es) :
    (∀ es', es' <+: es → Exclusive (runCalls slots buildings calls es').store.data ∧
      ∀ id, Ended id (runCalls slots buildings calls es').store.data →
        Ended id (runCalls slots buildings calls es).store.data) ∧
      EachStep (Database.next Empty.elim) (fun d e => Follows d.store.data
        (d.next Empty.elim e).store.data) (startCalls slots buildings calls) es := by
  have hempty : Exclusive ⟨slots, buildings, .empty⟩ :=
    fun c hc => absurd hc Table.not_mem_empty
  have hall : EachStep (Database.next Empty.elim) (fun d e =>
      Exclusive (d.next Empty.elim e).store.data ∧
      Follows d.store.data (d.next Empty.elim e).store.data) (startCalls slots buildings calls) es :=
    Database.eachStep_of_fresh (I := fun s => Exclusive s.data) (fun i => (calls i).sends) hes
      hempty Follows.refl
      fun s w hs hchecked hcurrent => ⟨hchecked.exclusive hcurrent hs, hchecked.follows hcurrent⟩
  refine ⟨fun es' hes' => ⟨?_, fun id hended => ?_⟩, hall.mono fun _ _ h => h.2⟩
  · exact Database.forall_prefix_of_eachStep (I := fun s => Exclusive s.data) hempty
      (hall.mono fun _ _ h => h.1) es' hes'
  · obtain ⟨rest, rfl⟩ := hes'
    rw [runCalls, runFrom_append]
    refine runFrom_induction_of_eachStep (P := fun d : Campaigns ι => Ended id d.store.data)
      (fun d e hd h => h.2.ended hd) hended (eachStep_append.mp hall).2

/-! ### Two campaigns that clash -/

/-- The slot of the offers of the day. -/
def offers : AdSlot :=
  { id := "N1", code := "HOM-N-01", page := "HOME", zone := "N", position := 1,
    placement := .homeTodayOffers }

/-- A campaign in that slot. -/
def offer (name : String) (startsAt : Community.Time) (buildingId : Option String) :
    CreateAdCampaignInput where
  name := name
  source := .direct
  placement := .homeTodayOffers
  startsAt := startsAt
  endsAt := startsAt + 10
  title := name
  imageUrl := "https://cdn.vielhome.ir/a.png"
  buildingId := buildingId
  adSlotId := "N1"

/-- Two campaigns for all buildings are created and activated. -/
def activations : Fin 4 → CampaignCall
  | 0 => .create (offer "spring" 0 none) 1 .unavailable
  | 1 => .create (offer "summer" 5 none) 1 .unavailable
  | 2 => .transitionStatus 0 .active
  | _ => .transitionStatus 1 .active

/-- The calls, one after the other: the second activation is refused. -/
def inTurn : List (Event (Fin 4) Failure) :=
  List.replicate 3 (Event.step 0) ++ List.replicate 3 (Event.step 1) ++ List.replicate 4 (Event.step 2) ++
    List.replicate 4 (Event.step 3)

theorem exclusive_of_current_inTurn :
    (∀ es', es' <+: inTurn → Exclusive (runCalls [offers] [] activations es').store.data ∧
      ∀ id, Ended id (runCalls [offers] [] activations es').store.data →
        Ended id (runCalls [offers] [] activations inTurn).store.data) ∧
      EachStep (Database.next Empty.elim) (fun d e => Follows d.store.data
        (d.next Empty.elim e).store.data) (startCalls [offers] [] activations) inTurn :=
  exclusive_of_current [offers] [] activations (by decide +kernel)

/-- Both activations look for a conflict before either of them writes. -/
def bothLook : List (Event (Fin 4) Failure) :=
  List.replicate 3 (Event.step 0) ++ List.replicate 3 (Event.step 1) ++ List.replicate 2 (Event.step 2) ++
    List.replicate 2 (Event.step 3) ++ List.replicate 2 (Event.step 2) ++ List.replicate 2 (Event.step 3)

/-- A campaign for all buildings and one for one of them are active, and an edit of the latter sends
an empty building. -/
def emptyBuilding : Fin 5 → CampaignCall
  | 0 => .create (offer "spring" 0 none) 1 .unavailable
  | 1 => .create (offer "summer" 5 (some "b1")) 1 .unavailable
  | 2 => .transitionStatus 0 .active
  | 3 => .transitionStatus 1 .active
  | _ => .update 1 { buildingId := some (some "") } .unavailable

/-- The calls, one after the other. -/
def editLast : List (Event (Fin 5) Failure) :=
  List.replicate 3 (Event.step 0) ++ List.replicate 4 (Event.step 1) ++ List.replicate 4 (Event.step 2) ++
    List.replicate 4 (Event.step 3) ++ List.replicate 5 (Event.step 4)

theorem not_exclusive :
    ¬ Exclusive (runCalls [offers] [] activations bothLook).store.data ∧
      ¬ Exclusive (runCalls [offers] ["b1"] emptyBuilding editLast).store.data := by
  decide +kernel

end VielHome.Advertising
