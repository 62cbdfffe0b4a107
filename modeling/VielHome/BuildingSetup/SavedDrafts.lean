import VielHome.BuildingSetup.Drafts

/-!
# Nothing that was saved is lost

A person who has saved drafts has one draft that has not been submitted; it holds for every key what
the last call that sent the key had sent, and its revision counts the calls (`Saved`). This holds in
every run whose writes find what their calls have read (`Write.Current`): still no draft, or still
the payload that the write merges into. Two first saves that overlap leave two drafts, and of two
later saves that overlap one loses its fields (`drafts_lost`).
-/

namespace VielHome.BuildingSetup

open Relational
open Relational.ReadCommitted (Database Event Logged Prog)
open DraftRepository (UpsertParams activeDrafts findActiveForPerson updated)

variable {V : Type} {t : Store V} {personId : ℕ}

/-! ### Payloads -/

theorem Payload.lookup_spread (a b : Payload V) (key : String) :
    (a.spread b).lookup key = (b.lookup key).or (a.lookup key) := by
  rw [Payload.spread]
  cases h : b.lookup key with
  | none => exact Finmap.lookup_union_right (Finmap.lookup_eq_none.mp h)
  | some v =>
    have hmem : key ∈ b := Finmap.lookup_isSome.mp (h ▸ rfl)
    exact (Finmap.lookup_union_left hmem).trans h

/-- The value that was sent last for a key. -/
def lastSent (saves : List (UpsertParams V)) (key : String) : Option V :=
  (saves.filterMap fun params => params.payload.lookup key).getLast?

theorem lastSent_append {saves : List (UpsertParams V)} {params : UpsertParams V} {key : String} :
    lastSent (saves ++ [params]) key = (params.payload.lookup key).or (lastSent saves key) := by
  rw [lastSent, List.filterMap_append]
  cases h : params.payload.lookup key with
  | none => simp [h, lastSent]
  | some v => simp [h]

/-! ### Drafts -/

/-- The draft holds all that was saved. -/
structure Holds (saves : List (UpsertParams V)) (d : BuildingSetupDraft V) : Prop where
  payload : ∀ key, d.payload.lookup key = lastSent saves key
  revision : d.revision = saves.length

/-- The person has no draft before the first save, and then one, which holds all that was saved. -/
def Saved (personId : ℕ) (saves : List (UpsertParams V)) (t : Store V) : Prop :=
  match saves with
  | [] => activeDrafts personId t = []
  | _ :: _ => ∃ d, activeDrafts personId t = [d] ∧ Holds saves d

theorem Saved.exists_of_mem {saves : List (UpsertParams V)} (h : Saved personId saves t)
    {d : BuildingSetupDraft V} (hd : d ∈ activeDrafts personId t) :
    activeDrafts personId t = [d] ∧ Holds saves d := by
  cases saves with
  | nil => exact absurd (h ▸ hd) List.not_mem_nil
  | cons params saves =>
    obtain ⟨d', hactive, hholds⟩ := h
    rw [hactive, List.mem_singleton] at hd
    exact hd ▸ ⟨hactive, hholds⟩

theorem saved_append {saves : List (UpsertParams V)} {params : UpsertParams V}
    {d : BuildingSetupDraft V} (hactive : activeDrafts personId t = [d])
    (hd : Holds (saves ++ [params]) d) : Saved personId (saves ++ [params]) t := by
  cases saves with
  | nil => exact ⟨d, hactive, hd⟩
  | cons _ _ => exact ⟨d, hactive, hd⟩

/-- What is saved is in the drafts of the person. -/
theorem Saved.congr {saves : List (UpsertParams V)} {t' : Store V} (h : Saved personId saves t)
    (hsame : activeDrafts personId t' = activeDrafts personId t) : Saved personId saves t' := by
  cases saves with
  | nil => exact hsame.trans h
  | cons params saves =>
    obtain ⟨d, hactive, hholds⟩ := h
    exact ⟨d, hsame.trans hactive, hholds⟩

theorem Saved.eq_nil {saves : List (UpsertParams V)} (h : Saved personId saves t)
    (hnone : activeDrafts personId t = []) : saves = [] := by
  cases saves with
  | nil => rfl
  | cons params saves =>
    obtain ⟨d, hactive, -⟩ := h
    cases hnone.symm.trans hactive

theorem mem_activeDrafts {d : BuildingSetupDraft V} :
    d ∈ activeDrafts personId t ↔ d ∈ t.drafts ∧ d.personId = personId ∧ d.submittedAt = none := by
  simp [activeDrafts, Table.mem_rows]

theorem activeDrafts_create {params : UpsertParams V} {now : Community.Time} :
    activeDrafts personId ((Write.create params now).apply t) = activeDrafts personId t ++
      if params.personId = personId then [DraftRepository.created params now t.drafts.next]
      else [] := by
  change (t.drafts.rows ++ [DraftRepository.created params now t.drafts.next]).filter _ = _
  rw [List.filter_append]
  by_cases hperson : params.personId = personId <;>
    simp [activeDrafts, DraftRepository.created, hperson]

/-- What an update writes over is still a draft of the same person. -/
theorem activeDrafts_update {existing : BuildingSetupDraft V} {params : UpsertParams V}
    {now : Community.Time} :
    activeDrafts personId ((Write.update existing params now).apply t) =
      (activeDrafts personId t).map fun d =>
        if d.id = existing.id then
          updated params (existing.payload.spread params.payload) now d
        else d := by
  have hrows : ((Write.update existing params now).apply t).drafts.rows =
      t.drafts.rows.map fun d => if d.id = existing.id then
        updated params (existing.payload.spread params.payload) now d else d :=
    List.map_congr_left fun d _ => by simp
  rw [activeDrafts, hrows, List.filter_map]
  refine congrArg _ (List.filter_congr fun d _ => ?_)
  simp only [Function.comp]
  split <;> rfl

/-! ### Writes -/

/-- What a write was asked to store. -/
def Write.params : Write V → UpsertParams V
  | .create params _ => params
  | .update _ params _ => params

/-- The write finds what its call has read: that the person has no draft, or the draft with its
payload. -/
def Write.Current : Write V → Store V → Prop
  | .create params _, t => activeDrafts params.personId t = []
  | .update existing _ _, t => ∃ d ∈ t.drafts.find? existing.id,
      d.personId = existing.personId ∧ d.submittedAt = none ∧ d.payload = existing.payload

instance [DecidableEq V] : (w : Write V) → DecidablePred w.Current
  | .create params _ => fun t => inferInstanceAs (Decidable (activeDrafts params.personId t = []))
  | .update existing _ _ => fun t => inferInstanceAs (Decidable (∃ d ∈ t.drafts.find? existing.id,
      d.personId = existing.personId ∧ d.submittedAt = none ∧ d.payload = existing.payload))

/-- What the call of the write has read and checked. -/
def Write.Checked : Write V → Prop
  | .create _ _ => True
  | .update existing params _ => existing.personId = params.personId

/-- What the writes have saved for a person. -/
def savesOf (personId : ℕ) (writes : List (Write V)) : List (UpsertParams V) :=
  (writes.map Write.params).filter fun params => params.personId = personId

theorem savesOf_append {writes : List (Write V)} {w : Write V} :
    savesOf personId (writes ++ [w]) =
      savesOf personId writes ++ if w.params.personId = personId then [w.params] else [] := by
  rw [savesOf, List.map_append, List.filter_append]
  by_cases hperson : w.params.personId = personId <;> simp [savesOf, hperson]

/-- The draft of a first save. -/
theorem holds_created {params : UpsertParams V} {now : Community.Time} {id : ℕ} :
    Holds [params] (DraftRepository.created params now id) := by
  refine ⟨fun key => ?_, rfl⟩
  rw [← List.nil_append [params], lastSent_append]
  exact (Option.or_none).symm

/-- The draft after one more save. -/
theorem Holds.updated {saves : List (UpsertParams V)} {d : BuildingSetupDraft V} (h : Holds saves d)
    {params : UpsertParams V} {now : Community.Time} :
    Holds (saves ++ [params])
      (DraftRepository.updated params (d.payload.spread params.payload) now d) := by
  refine ⟨fun key => ?_, ?_⟩
  · rw [lastSent_append, ← h.payload key]
    exact Payload.lookup_spread _ _ key
  · rw [List.length_append, ← h.revision]
    rfl

/-- A write saves what it is sent with, and nothing of another person. -/
theorem Write.Checked.saved {w : Write V} {writes : List (Write V)} (h : w.Checked)
    (hw : w.Current t) (ht : Saved personId (savesOf personId writes) t) :
    Saved personId (savesOf personId (writes ++ [w])) (w.apply t) := by
  rw [savesOf_append]
  cases w with
  | create params now =>
    by_cases hperson : params.personId = personId
    · subst hperson
      have hnone : activeDrafts params.personId t = [] := hw
      rw [if_pos (show (Write.create params now).params.personId = params.personId from rfl)]
      refine saved_append (d := DraftRepository.created params now t.drafts.next) ?_ ?_
      · rw [activeDrafts_create, hnone, if_pos rfl, List.nil_append]
      · rw [ht.eq_nil hnone]
        exact holds_created
    · rw [if_neg (show (Write.create params now).params.personId ≠ personId from hperson),
        List.append_nil]
      exact ht.congr (by rw [activeDrafts_create, if_neg hperson, List.append_nil])
  | update existing params now =>
    obtain ⟨d, hfind, howner, hopen, hpayload⟩ := hw
    have hd : d ∈ activeDrafts existing.personId t :=
      mem_activeDrafts.mpr ⟨Table.mem_of_find? hfind, howner, hopen⟩
    have hid : d.id = existing.id := Table.key_of_find? hfind
    have hexisting : existing.personId = params.personId := h
    by_cases hperson : params.personId = personId
    · rw [if_pos (show (Write.update existing params now).params.personId = personId from hperson)]
      rw [hexisting, hperson] at hd
      obtain ⟨hactive, hholds⟩ := ht.exists_of_mem hd
      refine saved_append (d := updated params (d.payload.spread params.payload) now d) ?_
        hholds.updated
      rw [activeDrafts_update, hactive, List.map_singleton, if_pos hid, hpayload]
    · rw [if_neg (show (Write.update existing params now).params.personId ≠ personId from hperson),
        List.append_nil]
      refine ht.congr (activeDrafts_update.trans ((List.map_congr_left fun d' hd' => ?_).trans
        (List.map_id _)))
      -- the draft that is written over is of another person
      refine if_neg fun hid' => hperson ?_
      have hsame : d' = d :=
        Table.eq_of_key_eq (mem_activeDrafts.mp hd').1 (Table.mem_of_find? hfind)
          (hid'.trans hid.symm)
      rw [← hexisting, ← (mem_activeDrafts.mp hd).2.1, ← hsame]
      exact (mem_activeDrafts.mp hd').2.1

/-! ### Calls -/

/-- A call of `saveDraft`. -/
structure SaveDraftCall (V : Type) where
  personId : ℕ
  dto : SaveDraftDto V
  now : Community.Time

/-- What the call runs. -/
def SaveDraftCall.call (c : SaveDraftCall V) : Call V PUnit :=
  BuildingSetupService.saveDraft c.personId c.dto c.now

/-- What the call saves. -/
def SaveDraftCall.params (c : SaveDraftCall V) : UpsertParams V where
  personId := c.personId
  step := c.dto.step
  payload := c.dto.payload
  device := c.dto.device

theorem personId_of_findActiveForPerson {d : BuildingSetupDraft V}
    (h : findActiveForPerson personId t = some d) : d.personId = personId := by
  have hmem := List.mem_of_mem_head? h
  rw [List.mem_insertionSort] at hmem
  exact (mem_activeDrafts.mp hmem).2.1

theorem SaveDraftCall.sends (c : SaveDraftCall V) : c.call.Sends Write.apply Write.Checked := by
  refine Prog.Sends.require fun _ => Prog.Sends.read fun t => ?_
  cases h : findActiveForPerson c.personId t with
  | none => exact Prog.Sends.send trivial
  | some existing => exact Prog.Sends.send (personId_of_findActiveForPerson h)

theorem SaveDraftCall.sendsOne (c : SaveDraftCall V) :
    c.call.SendsOne Write.apply (fun w => w.params = c.params) id := by
  refine Prog.SendsOne.require (Prog.SendsOne.read fun t => ?_)
  cases findActiveForPerson c.personId t with
  | none => exact Prog.SendsOne.send rfl
  | some existing => exact Prog.SendsOne.send rfl

/-- The database on which the calls run. -/
abbrev Drafts (ι V : Type) := Database ι (Logged (Store V) (Write V)) Empty Failure PUnit

/-- The calls before any of them has run. -/
def startCalls {ι : Type} (t : Store V) (calls : ι → SaveDraftCall V) : Drafts ι V :=
  .start ⟨t, []⟩ fun i => (calls i).call

/-- The state after some events of the calls. -/
def runCalls {ι : Type} [DecidableEq ι] (t : Store V) (calls : ι → SaveDraftCall V)
    (es : List (Event ι Failure)) : Drafts ι V :=
  runFrom (Database.next Empty.elim) (startCalls t calls) es

/-- The calls that have been accepted, in the order in which they have written. -/
def accepted {ι : Type} [DecidableEq ι] (t : Store V) (calls : ι → SaveDraftCall V)
    (es : List (Event ι Failure)) : List ι :=
  (startCalls t calls).senders es

theorem map_params {ι : Type} {calls : ι → SaveDraftCall V} {order : List ι}
    {writes : List (Write V)}
    (h : List.Forall₂ (fun i w => w.params = (calls i).params) order writes) :
    writes.map Write.params = order.map fun i => (calls i).params := by
  induction h with
  | nil => rfl
  | cons hw _ ih => rw [List.map_cons, List.map_cons, hw, ih]

/-- Any number of calls, statement by statement in any order: as long as every write finds what its
call has read, a person who had no draft has one as soon as a call of the person is accepted, and it
holds all that the accepted calls have saved. -/
theorem saved_of_current {ι : Type} [DecidableEq ι] (t : Store V) (calls : ι → SaveDraftCall V)
    {es : List (Event ι Failure)}
    (hes : EachStep (Database.next Empty.elim) (Database.Fresh Write.Current) (startCalls t calls)
      es) :
    ∀ es', es' <+: es →
      (accepted t calls es').Nodup ∧ accepted t calls es' <+: accepted t calls es ∧
      (∀ i, i ∈ accepted t calls es' ↔ ((runCalls t calls es').session i).rest = .done ⟨⟩) ∧
      ∀ personId, activeDrafts personId t = [] →
        Saved personId (((accepted t calls es').map fun i => (calls i).params).filter
          fun params => params.personId = personId) (runCalls t calls es').store.data := by
  intro es' hes'
  have hsent : (runCalls t calls es').Sent Write.apply (fun i w => w.params = (calls i).params)
      (accepted t calls es') := Database.sent_run (fun i => (calls i).sendsOne) es'
  refine ⟨hsent.nodup, Database.senders_prefix hes', fun i => ?_, fun personId hnone => ?_⟩
  · exact hsent.mem_iff.trans ⟨fun ⟨_, h⟩ => h, fun h => ⟨_, h⟩⟩
  · rw [← map_params hsent.writes]
    have hstart : Saved personId (savesOf personId (startCalls t calls).store.writes)
        (startCalls t calls).store.data := hnone
    refine Database.forall_prefix_of_eachStep (d := startCalls t calls)
      (I := fun s => Saved personId (savesOf personId s.writes) s.data) hstart ?_ es' hes'
    have hall := Database.eachStep_of_fresh
      (I := fun s => Saved personId (savesOf personId s.writes) s.data) (R := fun _ _ => True)
      (fun i => (calls i).sends) hes hstart (fun _ => trivial)
      fun s w hs hchecked hcurrent => ⟨hchecked.saved hcurrent hs, trivial⟩
    exact hall.mono fun _ _ h => h.1

/-! ### Saves that overlap -/

/-- A call that saves one field. -/
def save (step key value : String) : SaveDraftCall String where
  personId := 1
  dto := { step, payload := [⟨key, value⟩].toFinmap }
  now := 0

/-- A person saves three fields. -/
def threeFields : Fin 3 → SaveDraftCall String
  | 0 => save "role_selection" "role" "OWNER"
  | 1 => save "address" "city" "IR-FARS-SHIRAZ"
  | _ => save "address" "postalCode" "7134567890"

/-- The calls, one after the other. -/
def inTurn : List (Event (Fin 3) Failure) :=
  List.replicate 3 (Event.step 0) ++ List.replicate 3 (Event.step 1) ++ List.replicate 3 (Event.step 2)

theorem saved_of_current_inTurn :
    (accepted ⟨.empty⟩ threeFields inTurn).Nodup ∧
    accepted ⟨.empty⟩ threeFields inTurn <+: accepted ⟨.empty⟩ threeFields inTurn ∧
    (∀ i, i ∈ accepted ⟨.empty⟩ threeFields inTurn ↔
      ((runCalls ⟨.empty⟩ threeFields inTurn).session i).rest = .done ⟨⟩) ∧
    ∀ personId, activeDrafts personId (⟨.empty⟩ : Store String) = [] →
      Saved personId (((accepted ⟨.empty⟩ threeFields inTurn).map fun i =>
        (threeFields i).params).filter fun params => params.personId = personId)
        (runCalls ⟨.empty⟩ threeFields inTurn).store.data :=
  saved_of_current ⟨.empty⟩ threeFields (by decide +kernel) inTurn List.prefix_rfl

/-- After the first field was saved, two calls read the draft before either of them writes. -/
def bothRead : List (Event (Fin 3) Failure) :=
  List.replicate 3 (Event.step 0) ++ [Event.step 1, Event.step 2] ++ List.replicate 2 (Event.step 1) ++
    List.replicate 2 (Event.step 2)

/-- Two first calls find no draft before either of them creates one. -/
def bothFirst : List (Event (Fin 3) Failure) :=
  [Event.step 0, Event.step 1] ++ List.replicate 2 (Event.step 0) ++ List.replicate 2 (Event.step 1)

/-- All three calls are accepted, and the city is in no draft; both first calls are accepted, and
there are two drafts. -/
theorem drafts_lost :
    accepted ⟨.empty⟩ threeFields bothRead = [0, 1, 2] ∧
      (activeDrafts 1 (runCalls ⟨.empty⟩ threeFields bothRead).store.data).map
        (fun d => d.payload.lookup "city") = [none] ∧
      accepted ⟨.empty⟩ threeFields bothFirst = [0, 1] ∧
      (activeDrafts 1 (runCalls ⟨.empty⟩ threeFields bothFirst).store.data).length = 2 := by
  decide +kernel

end VielHome.BuildingSetup
