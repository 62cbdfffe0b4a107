import Mathlib.Data.List.Induction
import VielHome.Finance.Invariant.Requests

/-!
# The invariant of the system

In every reachable state the store is valid and the parameters of every call in flight mean
what `Call.Ok` says. `System.StoreStep` lists what an event can do to the store, so that
later proofs about runs need to look at neither the service methods nor the transactions.
-/

namespace VielHome.Finance

open Relational

/-! ### Units -/

namespace Store

variable {s : Store}

theorem unitBuilding_create {mk : ℕ → BuildingUnit} {hid : ∀ id, (mk id).id = id} {id b : ℕ}
    (hb : s.unitBuilding id = some b) :
    ({ s with units := s.units.create mk hid } : Store).unitBuilding id = some b := by
  obtain ⟨u, hu, rfl⟩ := Option.map_eq_some_iff.mp hb
  rw [unitBuilding, Table.find?_create_of_find? hu, Option.map_some]

theorem unitBuilding_modify {k : ℕ} {f : BuildingUnit → BuildingUnit} {hid : ∀ u, (f u).id = u.id}
    (hf : ∀ u, (f u).buildingId = u.buildingId) (id : ℕ) :
    ({ s with units := s.units.modify k f hid } : Store).unitBuilding id = s.unitBuilding id :=
  Table.map_find?_modify (h := hid) hf id

/-- Units may be added and edited as long as they stay in their building. -/
theorem Valid.withUnits (h : s.Valid) {units : Table BuildingUnit BuildingUnit.id}
    (hunits : ∀ id b, s.unitBuilding id = some b →
      ({ s with units := units } : Store).unitBuilding id = some b) :
    ({ s with units := units } : Store).Valid := by
  have hsome : ∀ id, (s.unitBuilding id).isSome →
      (({ s with units := units } : Store).unitBuilding id).isSome := by
    intro id hid
    obtain ⟨b, hb⟩ := Option.isSome_iff_exists.mp hid
    exact Option.isSome_iff_exists.mpr ⟨b, hunits id b hb⟩
  exact
    { h with
      item_unit := fun i hi => hsome _ (h.item_unit i hi)
      adjustment_unit := fun a ha => hsome _ (h.adjustment_unit a ha)
      payment_unit := fun p hp => hunits _ _ (h.payment_unit p hp)
      credit_unit := fun c hc => hunits _ _ (h.credit_unit c hc) }

end Store

/-! ### Steps and runs -/

namespace System

/-- The invariant of the system. -/
structure Inv (S : System) : Prop where
  valid : S.store.Valid
  calls : ∀ c ∈ S.inFlight, c.Ok S.store

theorem inv_init : init.Inv := ⟨Store.valid_empty, fun _ hc => absurd hc List.not_mem_nil⟩

/-- What an event can do to the store. -/
inductive StoreStep (S : System) : Event → Store → Prop
  | unchanged (e : Event) : StoreStep S e S.store
  | addBuilding : StoreStep S .addBuilding
      { S.store with buildings := S.store.buildings.create fun id => { id } }
  | addUnit (buildingId : ℕ) (unitNumber : String) (type : UnitType) (areaSqm : Option ℚ) :
    StoreStep S (.addUnit buildingId unitNumber type areaSqm)
      { S.store with
        units := S.store.units.create fun id => { id, buildingId, unitNumber, type, areaSqm } }
  | updateUnit (unitId : ℕ) (unitNumber : String) (type : UnitType) (areaSqm : Option ℚ) :
    StoreStep S (.updateUnit unitId unitNumber type areaSqm)
      { S.store with
        units := S.store.units.modify unitId fun u => { u with unitNumber, type, areaSqm } }
  | request (r : Request) (now : Time) (s' : Store)
    (kept : FinanceService.KeptFrom S.store s') : StoreStep S (.request r now) s'
  | commit (index : ℕ) (now : Time) (call : Call) (get : S.inFlight[index]? = some call)
    (effect : call.Effect now S.store (call.exec now S.store)) :
    StoreStep S (.commit index now) (call.exec now S.store)

variable {S : System}

/-- What a request does: nothing to the books, and the call that it puts in flight means what
it should. -/
theorem Inv.receive (h : S.Inv) (r : Request) (now : Time) :
    FinanceService.KeptFrom S.store (S.receive r now).store ∧ (S.receive r now).Inv := by
  have hkept : FinanceService.KeptFrom S.store ((r.prepare now).run S.store).2 :=
    r.keeps_prepare (fun _ b ht => ht.withDefaultFund b) now S.store (.refl h.valid)
  have hprepare : ∀ c s', (r.prepare now).run S.store = (.ok c, s') → c.Ok s' :=
    fun c s' hrun => (Request.prepare_ok h.valid hrun).1
  rw [System.receive]
  rcases hrun : (r.prepare now).run S.store with ⟨e | c, s'⟩ <;> rw [hrun] at hkept
  · exact ⟨hkept, hkept.valid, fun c hc => (h.calls c hc).mono hkept.rows⟩
  · refine ⟨hkept, hkept.valid, fun c' hc' => ?_⟩
    rcases List.mem_append.mp hc' with hc' | hc'
    · exact (h.calls c' hc').mono hkept.rows
    · obtain rfl := List.mem_singleton.mp hc'
      exact hprepare _ _ hrun

/-- Every step is one of the listed ones. -/
theorem Inv.storeStep (h : S.Inv) (e : Event) : S.StoreStep e (S.step e).store := by
  cases e with
  | addBuilding => exact .addBuilding
  | addUnit buildingId unitNumber type areaSqm =>
    rw [step]
    split
    · exact .addUnit buildingId unitNumber type areaSqm
    · exact .unchanged _
  | updateUnit unitId unitNumber type areaSqm => exact .updateUnit unitId unitNumber type areaSqm
  | request r now => exact .request r now _ (h.receive r now).1
  | commit index now =>
    rw [step]
    split
    case h_1 call hcall =>
      have hok := h.calls call (List.mem_of_getElem? hcall)
      exact .commit index now call hcall (Call.exec_effect h.valid hok now)
    case h_2 => exact .unchanged _
  | rollback index => exact .unchanged _

/-- A step keeps the invariant of the store. -/
theorem StoreStep.valid {e : Event} {s' : Store} (hstep : S.StoreStep e s') (h : S.Inv) :
    s'.Valid := by
  cases hstep with
  | unchanged e => exact h.valid
  | addBuilding => exact { h.valid with }
  | addUnit => exact h.valid.withUnits fun _ _ hb => Store.unitBuilding_create hb
  | updateUnit =>
    refine h.valid.withUnits fun id b hb => ?_
    rw [Store.unitBuilding_modify]
    · exact hb
    · exact fun _ => rfl
  | request r now s' hkept => exact hkept.valid
  | commit index now call hget heffect =>
    exact heffect.valid h.valid (h.calls call (List.mem_of_getElem? hget))

/-- A step keeps the rows. -/
theorem StoreStep.rows {e : Event} {s' : Store} (hstep : S.StoreStep e s') :
    S.store.Extends s' := by
  have hkeep := Store.Extends.refl S.store
  cases hstep with
  | unchanged e => exact hkeep
  | addBuilding => exact { hkeep with }
  | addUnit => exact { hkeep with unit := fun _ _ hb => Store.unitBuilding_create hb }
  | updateUnit =>
    refine { hkeep with unit := fun id b hb => ?_ }
    rw [Store.unitBuilding_modify]
    · exact hb
    · exact fun _ => rfl
  | request r now s' hkept => exact hkept.rows
  | commit index now call hget heffect => exact heffect.extends

/-- The calls in flight after an event were in flight before, unless a request added one. -/
theorem mem_inFlight_step {e : Event} {c : Call} (hc : c ∈ (S.step e).inFlight) :
    c ∈ S.inFlight ∨ ∃ r now, e = .request r now := by
  cases e with
  | addBuilding => exact Or.inl hc
  | addUnit buildingId unitNumber type areaSqm =>
    rw [step] at hc
    split at hc <;> exact Or.inl hc
  | updateUnit => exact Or.inl hc
  | request r now => exact Or.inr ⟨r, now, rfl⟩
  | commit index now =>
    rw [step] at hc
    split at hc
    · exact Or.inl (List.mem_of_mem_eraseIdx hc)
    · exact Or.inl hc
  | rollback index => exact Or.inl (List.mem_of_mem_eraseIdx hc)

/-- Every step keeps the invariant. -/
theorem Inv.step (h : S.Inv) (e : Event) : (S.step e).Inv := by
  have hstep := h.storeStep e
  refine ⟨hstep.valid h, fun c hc => ?_⟩
  rcases mem_inFlight_step hc with hc' | ⟨r, now, rfl⟩
  · exact (h.calls c hc').mono hstep.rows
  · exact (h.receive r now).2.calls c hc

/-- The invariant holds after every run. -/
theorem Inv.runFrom (h : S.Inv) (es : List Event) : (Relational.runFrom System.step S es).Inv :=
  runFrom_induction (fun _ e hS => hS.step e) h es

/-- What does not depend on funds, buildings and units, and is kept by the effect of every call,
holds after every run. -/
theorem Inv.stays {P : Store → Prop} (hfunds : ∀ s funds, P s → P { s with funds })
    (hbuildings : ∀ s buildings, P s → P { s with buildings })
    (hunits : ∀ s units, P s → P { s with units })
    (heffect : ∀ c now s s', Call.Effect now s c s' → P s → P s') (h : S.Inv) (hP : P S.store)
    (es : List Event) : P (Relational.runFrom System.step S es).store := by
  refine (runFrom_induction (P := fun S : System => S.Inv ∧ P S.store)
    (fun S e ⟨hinv, hP⟩ => ⟨hinv.step e, ?_⟩) ⟨h, hP⟩ es).2
  have hstep := hinv.storeStep e
  generalize (S.step e).store = s' at hstep
  cases hstep with
  | unchanged e => exact hP
  | addBuilding => exact hbuildings _ _ hP
  | addUnit => exact hunits _ _ hP
  | updateUnit => exact hunits _ _ hP
  | request r now _ hkept =>
    obtain ⟨-, -, funds, rfl⟩ := hkept
    exact hfunds _ funds hP
  | commit index now call hget h => exact heffect call now _ _ h hP

theorem inv_of_reachable (h : S.Reachable) : S.Inv :=
  h.induction (fun _ e hS => hS.step e) inv_init

theorem valid_of_reachable (h : S.Reachable) : S.store.Valid := (inv_of_reachable h).valid

/-! ### Where the calls in flight come from -/

/-- The request leads to the call from some valid store. -/
def LeadsTo (r : Request) (now : Time) (c : Call) : Prop :=
  ∃ s s' : Store, s.Valid ∧ (r.prepare now).run s = (.ok c, s')

/-- A call in flight was requested in the run. -/
theorem requested_of_mem_inFlight {es : List Event} {c : Call}
    (hc : c ∈ (Relational.runFrom System.step init es).inFlight) :
    ∃ r now, .request r now ∈ es ∧ LeadsTo r now c := by
  induction es using List.reverseRecOn with
  | nil => exact absurd hc List.not_mem_nil
  | append_singleton es e ih =>
    have hvalid := (inv_init.runFrom es).valid
    rw [runFrom_append] at hc
    revert hvalid hc ih
    generalize Relational.runFrom System.step init es = S
    intro ih hc hvalid
    have hold : c ∈ S.inFlight → ∃ r now, .request r now ∈ es ++ [e] ∧ LeadsTo r now c := by
      intro hmem
      obtain ⟨r, now, hr, hleads⟩ := ih hmem
      exact ⟨r, now, List.mem_append_left _ hr, hleads⟩
    rcases mem_inFlight_step hc with hmem | ⟨r, now, rfl⟩
    · exact hold hmem
    · simp only [runFrom_cons, runFrom_nil, System.step, System.receive] at hc
      rcases hrun : (r.prepare now).run S.store with ⟨_ | c', s'⟩ <;> rw [hrun] at hc
      · exact hold hc
      · rcases List.mem_append.mp hc with hmem | hmem
        · exact hold hmem
        · obtain rfl := List.mem_singleton.mp hmem
          exact ⟨r, now, by simp, S.store, s', hvalid, hrun⟩

/-- A call works on the building its request was authorised for. -/
theorem LeadsTo.building {r : Request} {now : Time} {c : Call} (h : LeadsTo r now c) {b : ℕ}
    (hb : c.buildingId = some b) : b = r.buildingId := by
  obtain ⟨s, s', hs, hrun⟩ := h
  exact (Request.prepare_ok hs hrun).2 b hb

/-! ### Runs to start from -/

/-- A current fund that starts with `500`. -/
def currentFund : FinanceService.CreateFundDto where
  name := "Current"
  type := .current
  initialBalance := some 500

/-- A building with one unit and one fund. -/
def foundation : List Event :=
  [.addBuilding, .addUnit 0 "1" .residential none,
    .request (.createFund 0 currentFund) 0, .commit 0 0]

/-- Person 5 is the tenant of every unit. -/
def tenancy : Occupancy where
  currentTenant _ := some 5
  isCurrentOwnerOfUnit _ _ := false
  isManager _ _ := false

/-- The unit is charged `100`. -/
def charged : List Event :=
  foundation ++
    [.request (.createChargeBatch 0
      { title := "Repair", calculationMethod := .mixed, fundId := some 0, items := some [(0, 100)] }
        7) 1, .commit 0 1, .request (.issueChargeBatch 0 0) 2, .commit 0 2]

/-- The whole charge, reported as paid in cash. -/
def cashPayment : FinanceService.CreatePaymentDto where
  payerPersonId := 5
  idempotencyKey := "first"
  fundId := some 0
  amount := 100
  method := .cash

/-- A part of the charge. -/
def partPayment : FinanceService.CreatePaymentDto where
  payerPersonId := 5
  idempotencyKey := "first"
  fundId := some 0
  amount := 60
  method := .cash

/-- A payment of the first item, selected explicitly. -/
def itemPayment (idempotencyKey : String) : FinanceService.CreateExplicitPaymentDto where
  obligationIds := [.encoded (.chargeItem 0)]
  method := .cash
  idempotencyKey := idempotencyKey

/-- The charge is reported as paid, and the approval is in flight. -/
def reported : List Event :=
  charged ++
    [.request (.createPayment tenancy 0 0 cashPayment) 3, .commit 0 3,
      .request (.approvePayment 0 0 7) 4]

/-- The approval commits. -/
def settled : List Event := reported ++ [.commit 0 4]

end System

end VielHome.Finance
