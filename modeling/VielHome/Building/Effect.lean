import VielHome.Building.Service
import VielHome.Relational.Discipline

/-!
# What the calls of the building module do alone

Run alone, a call either leaves the store or applies the writes of its transactions. The
writes get names here, and each call an equation that says which of them it applies. The
invariants of sequential runs are read off these.
-/

namespace VielHome.Building

open Relational Community
open Relational.ReadCommitted (Discipline Mode Prog)
open BuildingRepository (LinkOwnerParams UnlinkedUnit fillName fillName_id missing)

variable {α β : Type} {s : Store}

/-! ### Reads that can fail -/

theorem solo_getById_bind {buildingId : ℕ} {f : BuildingService.BuildingDetail → Call β} :
    (BuildingService.getById buildingId >>= f).solo s s =
      match BuildingService.findById buildingId s with
      | some detail => (f detail).solo s s
      | none => (.error (.notFound "Building not found."), s, s) := by
  rw [BuildingService.getById, Prog.bind_assoc, Prog.query_bind, Prog.solo_stmt, id,
    Prog.solo_expect_bind]
  cases BuildingService.findById buildingId s <;> rfl

/-- A unit of the building is found, or the call ends. -/
theorem solo_getOwnUnit_bind (buildingId unitId : ℕ) (f : BuildingUnit → Call β) (s : Store) :
    (∃ e, (BuildingService.getOwnUnit buildingId unitId >>= f).solo s s = (.error e, s, s)) ∨
      ∃ unit, s.units.find? unitId = some unit ∧ unit.buildingId = buildingId ∧
        (s.buildings.find? buildingId).isSome = true ∧
        (BuildingService.getOwnUnit buildingId unitId >>= f).solo s s = (f unit).solo s s := by
  rw [BuildingService.getOwnUnit, Prog.bind_assoc, solo_getById_bind]
  cases hbuilding : s.buildings.find? buildingId with
  | none =>
    rw [BuildingService.findById, hbuilding]
    exact Or.inl ⟨_, rfl⟩
  | some building =>
    rw [BuildingService.findById, hbuilding, Option.map_some]
    dsimp only
    rw [Prog.bind_assoc, Prog.query_bind, Prog.solo_stmt, id, Prog.bind_assoc,
      Prog.solo_expect_bind]
    cases hunit : s.units.find? unitId with
    | none => exact Or.inl ⟨_, rfl⟩
    | some unit =>
      dsimp only
      rw [Prog.bind_assoc, Prog.require_bind, Prog.solo_ite]
      by_cases hbelongs : unit.buildingId = buildingId
      · exact Or.inr ⟨unit, rfl, hbelongs, rfl, if_pos hbelongs⟩
      · exact Or.inl ⟨_, if_neg hbelongs⟩

theorem exec_getOwnUnit_bind (buildingId unitId : ℕ) (f : BuildingUnit → Call β) (s : Store) :
    (BuildingService.getOwnUnit buildingId unitId >>= f).exec s = s ∨
      ∃ unit, s.units.find? unitId = some unit ∧ unit.buildingId = buildingId ∧
        (s.buildings.find? buildingId).isSome = true ∧
        (BuildingService.getOwnUnit buildingId unitId >>= f).exec s = (f unit).exec s := by
  rcases solo_getOwnUnit_bind buildingId unitId f s with
    ⟨e, hsolo⟩ | ⟨unit, hunit, hbelongs, hbuilding, hsolo⟩
  · exact Or.inl (congrArg (·.2.1) hsolo)
  · exact Or.inr ⟨unit, hunit, hbelongs, hbuilding, congrArg (·.2.1) hsolo⟩

section Safe

variable {D : Discipline Store Lock} {post : β → Store → List (Lock × Mode × Store) →
  (Store → Store) → Prop} {last : Store} {notes : List (Lock × Mode × Store)}
  {pending : Store → Store}

/-- The reads take no lock, so what comes after them has to be safe whatever they see. -/
theorem safe_getById_bind {buildingId : ℕ} {f : BuildingService.BuildingDetail → Call β}
    (h : ∀ detail s, D.inv s → D.Later last s → D.Knows notes s →
      (f detail).Safe D post s notes pending) :
    (BuildingService.getById buildingId >>= f).Safe D post last notes pending := by
  rw [BuildingService.getById, Prog.bind_assoc]
  exact Prog.Safe.query fun s hs hlast hknows =>
    Prog.Safe.expect fun detail _ => h detail s hs hlast hknows

theorem safe_getOwnUnit_bind {buildingId unitId : ℕ} {f : BuildingUnit → Call β}
    (h : ∀ unit s, D.inv s → D.Later last s → D.Knows notes s →
      (f unit).Safe D post s notes pending) :
    (BuildingService.getOwnUnit buildingId unitId >>= f).Safe D post last notes pending := by
  rw [BuildingService.getOwnUnit, Prog.bind_assoc]
  refine safe_getById_bind fun _ s _ hlast _ => ?_
  rw [Prog.bind_assoc]
  refine Prog.Safe.query fun s' hs' hlast' hknows' => ?_
  rw [Prog.bind_assoc]
  refine Prog.Safe.expect fun unit _ => ?_
  rw [Prog.bind_assoc]
  exact Prog.Safe.require fun _ => h unit s' hs' (hlast.trans hlast') hknows'

end Safe

/-! ### Owners -/

/-- A first and a last name where the person has none. -/
def missingName (firstName lastName : Option String) (person : Person) : Person :=
  fillName (missing person.firstName firstName) (missing person.lastName lastName) person

theorem missingName_id (firstName lastName : Option String) (person : Person) :
    (missingName firstName lastName person).id = person.id := rfl

/-- The writes of `linkOwnerToUnit`. -/
def link (params : LinkOwnerParams) (now : Time) (s : Store) : Store :=
  ((s.onOwnerships (·.create fun id =>
      { id, unitId := params.unitId, personId := params.personId, startDate := now })).onMemberships
    (·.create fun id =>
      { id, personId := params.personId, buildingId := params.buildingId,
        unitId := some params.unitId, role := .owner, startedAt := now })).onPersons
    (·.modify params.personId
      (missingName params.pendingOwnerFirstName params.pendingOwnerLastName) (missingName_id _ _))

/-- The rows that the new ownership and the new membership refer to. -/
def LinkReferences (params : LinkOwnerParams) (s : Store) : Prop :=
  (s.persons.find? params.personId).isSome = true ∧ (s.units.find? params.unitId).isSome = true ∧
    (s.buildings.find? params.buildingId).isSome = true

/-- Nothing is filled when the two names that are given are empty. -/
theorem missingName_of_not_truthy {firstName lastName : Option String} {person : Person}
    (h : ¬(truthy firstName = true ∨ truthy lastName = true)) :
    missingName firstName lastName person = person := by
  rw [not_or] at h
  simp [missingName, fillName, missing, h.1, h.2]

theorem onPersons_missingName_of_not_truthy {firstName lastName : Option String} {personId : ℕ}
    (h : ¬(truthy firstName = true ∨ truthy lastName = true)) (s : Store) :
    s.onPersons (·.modify personId (missingName firstName lastName) (missingName_id _ _)) = s := by
  have hsame : s.persons.modify personId (missingName firstName lastName) (missingName_id _ _) =
      s.persons := Table.modify_eq_self fun p _ _ => missingName_of_not_truthy h
  rw [Store.onPersons, hsame]

/-- The names that are missing are filled, in one write or in none. -/
theorem exec_fillMissingPersonName_bind {personId : ℕ} {firstName lastName : Option String}
    {keep : List Lock} {f : PUnit → Call β} :
    (BuildingRepository.fillMissingPersonName personId firstName lastName keep >>= f).exec s =
      (f ⟨⟩).exec (s.onPersons (·.modify personId (missingName firstName lastName)
        (missingName_id _ _))) := by
  rw [BuildingRepository.fillMissingPersonName, Prog.bind_assoc, Prog.exec_query_bind]
  cases hperson : s.persons.find? personId with
  | none =>
    have hsame : s.persons.modify personId (missingName firstName lastName)
        (missingName_id _ _) = s.persons :=
      Table.modify_eq_self fun p hp hid => absurd hid (Table.find?_eq_none_iff.mp hperson p hp)
    rw [Store.onPersons, hsame]
    rfl
  | some person =>
    -- the row that is rewritten is the row that was read
    have hrow : ∀ p ∈ s.persons, p.id = personId → p = person := fun p hp hid =>
      Table.eq_of_key_eq hp (Table.mem_of_find? hperson) (hid.trans (Table.key_of_find? hperson).symm)
    dsimp only
    by_cases hnothing :
        missing person.firstName firstName = none ∧ missing person.lastName lastName = none
    · have hsame : s.persons.modify personId (missingName firstName lastName)
        (missingName_id _ _) = s.persons := by
        refine Table.modify_eq_self fun p hp hid => ?_
        rw [hrow p hp hid, missingName, hnothing.1, hnothing.2]
        rfl
      rw [if_pos hnothing, Store.onPersons, hsame]
      rfl
    · have hsame : s.persons.modify personId (missingName firstName lastName) (missingName_id _ _) =
          s.persons.modify personId
            (fillName (missing person.firstName firstName) (missing person.lastName lastName))
            (fillName_id _ _) :=
        Table.modify_congr fun p hp hid => by rw [hrow p hp hid, missingName]
      rw [if_neg hnothing, Prog.bind_assoc, Prog.exec, updatePerson, Prog.solo_writeIf_bind,
        if_pos (by rw [hperson]; rfl)]
      conv_rhs => rw [Store.onPersons, hsame]
      rfl

/-- A link that refers to rows which are there is made; else nothing happens and the call
ends. -/
theorem exec_linkOwnerToUnit_bind (params : LinkOwnerParams) (now : Time) (keep : List Lock)
    (f : PUnit → Call β) (s : Store) :
    (BuildingRepository.linkOwnerToUnit params now keep >>= f).exec s = s ∨
      LinkReferences params s ∧
        (BuildingRepository.linkOwnerToUnit params now keep >>= f).exec s =
          (f ⟨⟩).exec (link params now s) := by
  rw [BuildingRepository.linkOwnerToUnit, Prog.bind_assoc, Prog.exec, insertOwnership,
    Prog.solo_writeUnless_bind]
  split
  case h_2 => exact Or.inl rfl
  case h_1 hownership =>
    rw [Prog.bind_assoc, insertMembership, Prog.solo_writeUnless_bind]
    split
    case h_2 => exact Or.inl rfl
    case h_1 hmembership =>
      have hrefs : LinkReferences params s := by
        rw [unlessReferences_eq_none, Bool.and_eq_true] at hownership hmembership
        exact ⟨hownership.1, hownership.2, hmembership.2⟩
      refine Or.inr ⟨hrefs, ?_⟩
      rw [Prog.bind_assoc, Prog.commitKeeping_bind, Prog.solo_commit, Prog.ite_bind]
      by_cases hnames : truthy params.pendingOwnerFirstName = true ∨
          truthy params.pendingOwnerLastName = true
      · rw [if_pos hnames]
        exact exec_fillMissingPersonName_bind
      · rw [if_neg hnames, link, onPersons_missingName_of_not_truthy hnames]
        rfl

theorem exec_linkOwnerToUnit (params : LinkOwnerParams) (now : Time) (keep : List Lock) (s : Store) :
    (BuildingRepository.linkOwnerToUnit params now keep).exec s = s ∨
      LinkReferences params s ∧
        (BuildingRepository.linkOwnerToUnit params now keep).exec s = link params now s := by
  rw [← Prog.bind_done (BuildingRepository.linkOwnerToUnit params now keep)]
  exact exec_linkOwnerToUnit_bind params now keep Prog.done s

/-- What every link of the loop keeps holds after the loop, wherever it stopped. -/
theorem exec_linkUnits_bind {P : Store → Prop} {personId : ℕ} {now : Time}
    {units : List UnlinkedUnit} {f : PUnit → Call β} (hf : ∀ s, (f ⟨⟩).exec s = s)
    (hlink : ∀ unit ∈ units, ∀ s, P s → LinkReferences (unit.params personId) s →
      P (link (unit.params personId) now s)) (hs : P s) :
    P ((BuildingService.linkUnits personId now units >>= f).exec s) := by
  induction units generalizing s with
  | nil =>
    change P ((f ⟨⟩).exec s)
    rwa [hf]
  | cons unit units ih =>
    rw [BuildingService.linkUnits, Prog.bind_assoc]
    rcases exec_linkOwnerToUnit_bind (unit.params personId) now (units.map fun u => .owners u.id)
      (fun _ => BuildingService.linkUnits personId now units >>= f) s with hexec | ⟨hrefs, hexec⟩
    · exact (congrArg P hexec).mpr hs
    · refine (congrArg P hexec).mpr ?_
      exact ih (fun u hu => hlink u (List.mem_cons_of_mem _ hu))
        (hlink unit List.mem_cons_self s hs hrefs)

/-- What every link of a login keeps holds after it. -/
theorem exec_linkOwnerAccountByPhone_bind {P : Store → Prop} {personId : ℕ} {phone : String}
    {now : Time} {f : List ℕ → Call β} (hf : ∀ ids s, (f ids).exec s = s)
    (hlink : ∀ unit ∈ BuildingRepository.unlinkedOwnerUnits phone s, ∀ s', P s' →
      LinkReferences (unit.params personId) s' → P (link (unit.params personId) now s')) (hs : P s) :
    P ((BuildingService.linkOwnerAccountByPhone personId phone now >>= f).exec s) := by
  rw [BuildingService.linkOwnerAccountByPhone, Prog.bind_assoc, Prog.exec_queryUnder_bind,
    Prog.bind_assoc]
  exact exec_linkUnits_bind (fun s => hf _ s) hlink hs

/-- A claim links the unit that is not owned yet to the person with the invited phone, or does
nothing. -/
theorem exec_claimOwnership (buildingId unitId personId : ℕ) (now : Time) (s : Store) :
    (BuildingService.claimOwnership buildingId unitId personId now).exec s = s ∨
      ∃ unit person, s.units.find? unitId = some unit ∧ unit.buildingId = buildingId ∧
        s.persons.find? personId = some person ∧ s.hasCurrentOwnership unitId = false ∧
        unit.ownerPhone = some person.phone ∧
        LinkReferences ⟨unitId, buildingId, personId, unit.ownerFirstName, unit.ownerLastName⟩ s ∧
        (BuildingService.claimOwnership buildingId unitId personId now).exec s =
          link ⟨unitId, buildingId, personId, unit.ownerFirstName, unit.ownerLastName⟩ now s := by
  rw [BuildingService.claimOwnership]
  rcases exec_getOwnUnit_bind buildingId unitId _ s with hexec | ⟨unit, hunit, hbelongs, -, hexec⟩
  · exact Or.inl hexec
  rw [hexec, Prog.exec_queryUnder_bind, Prog.exec_query_bind, Prog.exec_expect_bind]
  cases hperson : s.persons.find? personId with
  | none => exact Or.inl rfl
  | some person =>
    dsimp only
    rw [OwnershipClaimPolicy.assertEligible, Prog.bind_assoc, Prog.exec_require_bind,
      Prog.exec_require_bind]
    by_cases howned : s.hasCurrentOwnership unitId = false
    · rw [if_pos howned]
      by_cases hphone : truthy unit.ownerPhone = true ∧ unit.ownerPhone = some person.phone
      · rw [if_pos hphone]
        rcases exec_linkOwnerToUnit ⟨unitId, buildingId, personId, unit.ownerFirstName,
          unit.ownerLastName⟩ now [] s with hexec | ⟨hrefs, hexec⟩
        · exact Or.inl hexec
        · exact Or.inr ⟨unit, person, hunit, hbelongs, rfl, howned, hphone.2, hrefs, hexec⟩
      · exact Or.inl (if_neg hphone)
    · exact Or.inl (if_neg howned)

/-! ### Units -/

/-- An update of one row by its key. -/
theorem solo_updateUnitRow_bind {id : ℕ} {g : BuildingUnit → BuildingUnit}
    {h : ∀ u, (g u).id = u.id} {f : PUnit → Call β} (hid : (s.units.find? id).isSome = true) :
    (Prog.transaction (updateUnitRow id g h) >>= f).solo s s =
      (f ⟨⟩).solo (s.onUnits (·.modify id g h)) (s.onUnits (·.modify id g h)) := by
  rw [Prog.solo_transaction_bind, updateUnitRow, Prog.solo_writeIf, if_pos hid]

/-- `updateUnit` writes the given columns to a unit of the building, or does nothing. -/
theorem exec_updateUnit (buildingId unitId : ℕ) (dto : BuildingService.UpdateUnitDto) (s : Store) :
    (BuildingService.updateUnit buildingId unitId dto).exec s = s ∨
      ∃ unit, s.units.find? unitId = some unit ∧ unit.buildingId = buildingId ∧
        (BuildingService.updateUnit buildingId unitId dto).exec s =
          s.onUnits (·.modify unitId dto.params.apply dto.params.apply_id) := by
  rw [BuildingService.updateUnit]
  rcases exec_getOwnUnit_bind buildingId unitId _ s with hexec | ⟨unit, hunit, hbelongs, -, hexec⟩
  · exact Or.inl hexec
  refine Or.inr ⟨unit, hunit, hbelongs, hexec.trans ?_⟩
  rw [BuildingRepository.updateUnit, ← Prog.bind_done (Prog.transaction _), Prog.exec,
    solo_updateUnitRow_bind (by rw [hunit]; rfl)]
  rfl

/-- The columns of a unit whose owner has been invited. -/
def invited (params : BuildingRepository.UpdateUnitParams) (now : Time) (unit : BuildingUnit) :
    BuildingUnit :=
  { params.apply unit with ownerInviteSentAt := some now }

theorem invited_id (params : BuildingRepository.UpdateUnitParams) (now : Time)
    (unit : BuildingUnit) : (invited params now unit).id = unit.id := rfl

/-- An invite writes its columns to a unit of the building and marks it as sent, or fails. -/
theorem exec_invite (buildingId unitId : ℕ) (params : BuildingRepository.UpdateUnitParams)
    (now : Time) (s : Store) {p : Call PUnit}
    (hp : p = BuildingService.getOwnUnit buildingId unitId >>= fun _ =>
      BuildingRepository.updateUnit unitId params >>= fun _ =>
        BuildingRepository.markOwnerInviteSent unitId now) :
    ((p.outcome s).isOk = false ∧ p.exec s = s) ∨
      ∃ unit, s.units.find? unitId = some unit ∧ unit.buildingId = buildingId ∧
        (p.outcome s).isOk = true ∧
          p.exec s = s.onUnits (·.modify unitId (invited params now) (invited_id params now)) := by
  rw [Prog.outcome, Prog.exec, hp]
  rcases solo_getOwnUnit_bind buildingId unitId _ s with
    ⟨e, hsolo⟩ | ⟨unit, hunit, hbelongs, -, hsolo⟩
  · rw [hsolo]
    exact Or.inl ⟨rfl, rfl⟩
  · have hmarked : ((s.onUnits (·.modify unitId params.apply params.apply_id)).units.find?
        unitId).isSome = true := by
      rw [Store.onUnits_units, Table.find?_modify_self hunit]
      rfl
    rw [hsolo, BuildingRepository.updateUnit, solo_updateUnitRow_bind (by rw [hunit]; rfl),
      BuildingRepository.markOwnerInviteSent, ← Prog.bind_done (Prog.transaction _),
      solo_updateUnitRow_bind hmarked]
    exact Or.inr ⟨unit, hunit, hbelongs, rfl, congrArg (fun t => s.onUnits fun _ => t)
      (Table.modify_modify (h := params.apply_id))⟩

/-- The writes of `transferOwnership`. -/
def handOver (unitId : ℕ) (newOwnerPhone : String) (now : Time) (s : Store) : Store :=
  ((s.onOwnerships (·.updateMany (fun o => o.IsOf unitId) fun o =>
      { o with isCurrent := false, endDate := some now })).onMemberships
    (·.updateMany (fun m => m.IsFor unitId .owner) (Membership.ended now)
      (Membership.ended_id now))).onUnits
    (·.modify unitId (BuildingRepository.handedTo newOwnerPhone)
      (BuildingRepository.handedTo_id newOwnerPhone))

/-- Every current ownership of the unit ends, and no other one. -/
theorem mem_ownerships_handOver {unitId : ℕ} {newOwnerPhone : String} {now : Time} {o : Ownership} :
    o ∈ (handOver unitId newOwnerPhone now s).ownerships ↔
      ∃ o₀ ∈ s.ownerships,
        o = if o₀.IsOf unitId then { o₀ with isCurrent := false, endDate := some now } else o₀ :=
  Table.mem_updateMany_iff (p := fun o : Ownership => o.IsOf unitId)
    (f := fun o => { o with isCurrent := false, endDate := some now }) (h := fun _ => rfl)

theorem mem_units_handOver {unitId : ℕ} {newOwnerPhone : String} {now : Time}
    {unit : BuildingUnit} :
    unit ∈ (handOver unitId newOwnerPhone now s).units ↔
      ∃ u₀ ∈ s.units, unit = if u₀.id = unitId then
        BuildingRepository.handedTo newOwnerPhone u₀ else u₀ := by
  refine (Table.mem_modify (h := BuildingRepository.handedTo_id _)).trans ?_
  simp only [eq_comm]
  rfl

/-- The current owner hands the unit over, or nothing happens. -/
theorem exec_transferOwnership (buildingId unitId : ℕ) (newOwnerPhone : String)
    (actorPersonId : ℕ) (now : Time) (s : Store) :
    (BuildingService.transferOwnership buildingId unitId newOwnerPhone actorPersonId now).exec s = s ∨
      ∃ unit, s.units.find? unitId = some unit ∧ unit.buildingId = buildingId ∧
        s.isCurrentOwnerOfUnit unitId actorPersonId = true ∧
        (BuildingService.transferOwnership buildingId unitId newOwnerPhone actorPersonId now).exec s =
          handOver unitId newOwnerPhone now s := by
  rw [BuildingService.transferOwnership]
  rcases exec_getOwnUnit_bind buildingId unitId _ s with hexec | ⟨unit, hunit, hbelongs, -, hexec⟩
  · exact Or.inl hexec
  rw [hexec, Prog.exec_query_bind, OwnershipTransferPolicy.assertCallerIsCurrentOwner,
    Prog.exec_require_bind]
  by_cases howner : s.isCurrentOwnerOfUnit unitId actorPersonId = true
  · refine Or.inr ⟨unit, hunit, hbelongs, howner, (if_pos howner).trans ?_⟩
    rw [BuildingRepository.transferOwnership, Prog.exec_transaction, updateOwnerships,
      Prog.solo_updateMany_bind, Store.foldl_onOwnerships, updateMemberships,
      Prog.solo_updateMany_bind, Store.foldl_onMemberships, updateUnitRow, Prog.solo_writeIf,
      if_pos (by simpa using congrArg Option.isSome hunit)]
    rfl
  · exact Or.inl (if_neg howner)

/-! ### Tenancies -/

/-- The actor may go on, or the call ends. -/
theorem exec_assertManagesUnit_bind (buildingId unitId actorPersonId : ℕ)
    (requireOwnerOrManagerOnly : Bool) (tenantPersonId : Option ℕ) (f : PUnit → Call β)
    (s : Store) :
    (BuildingService.assertManagesUnit buildingId unitId actorPersonId requireOwnerOrManagerOnly
        tenantPersonId >>= f).exec s = s ∨
      (BuildingService.assertManagesUnit buildingId unitId actorPersonId requireOwnerOrManagerOnly
        tenantPersonId >>= f).exec s = (f ⟨⟩).exec s := by
  rw [BuildingService.assertManagesUnit, Prog.bind_assoc, Prog.exec_query_bind, Prog.bind_assoc,
    Prog.exec_query_bind, Prog.ite_bind, Prog.exec_ite, TenancyPolicy.assertCanCreate,
    TenancyPolicy.assertCanManage, Prog.exec_require_bind, Prog.exec_require_bind]
  split <;> split
  · exact Or.inr rfl
  · exact Or.inl rfl
  · exact Or.inr rfl
  · exact Or.inl rfl

/-- The writes of `createTenancy`. -/
def moveIn (unitId buildingId personId : ℕ) (now : Time) (s : Store) : Store :=
  ((s.onTenancies (·.create fun id => { id, unitId, personId, startDate := now })).onMemberships
    (·.create fun id =>
      { id, personId, buildingId, unitId := some unitId, role := .tenant, startedAt := now })).onUnits
    (·.modify unitId fun u => { u with occupancyStatus := .tenantOccupied })

/-- A tenancy is created of a unit that has none, or nothing happens. -/
theorem exec_createTenancy (buildingId unitId tenantPersonId actorPersonId : ℕ) (now : Time)
    (s : Store) :
    (BuildingService.createTenancy buildingId unitId tenantPersonId actorPersonId now).exec s = s ∨
      s.currentTenancyForUnit unitId = none ∧
        (BuildingService.createTenancy buildingId unitId tenantPersonId actorPersonId now).exec s =
          moveIn unitId buildingId tenantPersonId now s := by
  rw [BuildingService.createTenancy]
  rcases exec_getOwnUnit_bind buildingId unitId _ s with hexec | ⟨unit, hunit, -, -, hexec⟩
  · exact Or.inl hexec
  rw [hexec]
  rcases exec_assertManagesUnit_bind buildingId unitId actorPersonId true none _ s with hexec | hexec
  · exact Or.inl hexec
  rw [hexec, Prog.exec_query_bind, TenancyPolicy.assertUnitHasOwner, Prog.exec_require_bind,
    Prog.exec_query_bind, TenancyPolicy.assertUnitAvailableForTenancy, Prog.exec_require_bind]
  by_cases howner : s.hasCurrentOwnership unitId = true
  · rw [if_pos howner]
    by_cases havailable : s.currentTenancyForUnit unitId = none
    · rw [if_pos havailable, BuildingRepository.createTenancy, Prog.exec_transaction, insertTenancy,
        solo_writeUnlessReferences_bind]
      split_ifs
      · rw [insertMembership, solo_writeUnlessReferences_bind]
        split_ifs
        · rw [updateUnitRow, Prog.solo_writeIf, if_pos (by simp [hunit])]
          exact Or.inr ⟨havailable, rfl⟩
        · exact Or.inl rfl
      · exact Or.inl rfl
    · exact Or.inl (if_neg havailable)
  · exact Or.inl (if_neg howner)

/-- The tenancy is found, or the call ends. -/
theorem exec_getOwnTenancy_bind (buildingId tenancyId : ℕ) (f : Tenancy → Call β) (s : Store) :
    (BuildingService.getOwnTenancy buildingId tenancyId >>= f).exec s = s ∨
      ∃ tenancy, s.tenancies.find? tenancyId = some tenancy ∧
        (s.units.find? tenancy.unitId).isSome = true ∧
        (BuildingService.getOwnTenancy buildingId tenancyId >>= f).exec s = (f tenancy).exec s := by
  rw [BuildingService.getOwnTenancy, Prog.bind_assoc, Prog.exec_query_bind, Prog.bind_assoc,
    Prog.exec_expect_bind]
  cases htenancy : s.tenancies.find? tenancyId with
  | none => exact Or.inl rfl
  | some tenancy =>
    dsimp only
    rw [Prog.bind_assoc]
    rcases exec_getOwnUnit_bind buildingId tenancy.unitId _ s with
      hexec | ⟨unit, hunit, -, -, hexec⟩
    · exact Or.inl hexec
    · exact Or.inr ⟨tenancy, rfl, congrArg Option.isSome hunit, hexec⟩

/-- The columns of a tenancy whose end has been announced. -/
def noticed (now : Time) (t : Tenancy) : Tenancy :=
  { t with status := .noticeGiven, noticeGivenAt := some now }

theorem noticed_id (now : Time) (t : Tenancy) : (noticed now t).id = t.id := rfl

/-- Notice is given on an active tenancy, or nothing happens. -/
theorem exec_giveTenancyNotice (buildingId tenancyId actorPersonId : ℕ) (now : Time) (s : Store) :
    (BuildingService.giveTenancyNotice buildingId tenancyId actorPersonId now).exec s = s ∨
      ∃ tenancy, s.tenancies.find? tenancyId = some tenancy ∧ tenancy.status = .active ∧
        (BuildingService.giveTenancyNotice buildingId tenancyId actorPersonId now).exec s =
          s.onTenancies (·.modify tenancyId (noticed now) (noticed_id now)) := by
  rw [BuildingService.giveTenancyNotice]
  rcases exec_getOwnTenancy_bind buildingId tenancyId _ s with
    hexec | ⟨tenancy, htenancy, -, hexec⟩
  · exact Or.inl hexec
  rw [hexec]
  rcases exec_assertManagesUnit_bind buildingId tenancy.unitId actorPersonId false
    (some tenancy.personId) _ s with hexec | hexec
  · exact Or.inl hexec
  rw [hexec, TenancyPolicy.assertCanGiveNotice, Prog.exec_require_bind]
  by_cases hstatus : tenancy.status = .active
  · refine Or.inr ⟨tenancy, htenancy, hstatus, (if_pos hstatus).trans ?_⟩
    rw [BuildingRepository.giveTenancyNotice, Prog.exec_transaction, updateTenancy,
      Prog.solo_writeIf, if_pos (by rw [htenancy]; rfl)]
    rfl
  · exact Or.inl (if_neg hstatus)

/-- The writes of `endTenancy`. -/
def moveOut (tenancy : Tenancy) (terminationReason : Option String) (now : Time)
    (s : Store) : Store :=
  ((s.onTenancies (·.modify tenancy.id (BuildingRepository.closed now terminationReason)
      (BuildingRepository.closed_id now terminationReason))).onMemberships
    (·.updateMany (fun m => m.IsFor tenancy.unitId .tenant ∧ m.personId = tenancy.personId)
      (Membership.ended now) (Membership.ended_id now))).onUnits
    (·.modify tenancy.unitId fun u => { u with occupancyStatus := .vacant })

/-- A tenancy that is not over yet ends, or nothing happens. -/
theorem exec_endTenancy (buildingId tenancyId : ℕ) (terminationReason : Option String)
    (actorPersonId : ℕ) (now : Time) (s : Store) :
    (BuildingService.endTenancy buildingId tenancyId terminationReason actorPersonId now).exec s = s ∨
      ∃ tenancy, s.tenancies.find? tenancyId = some tenancy ∧
        tenancy.status ∈ TenancyPolicy.OPEN_STATUSES ∧
        (BuildingService.endTenancy buildingId tenancyId terminationReason actorPersonId now).exec s =
          moveOut tenancy terminationReason now s := by
  rw [BuildingService.endTenancy]
  rcases exec_getOwnTenancy_bind buildingId tenancyId _ s with
    hexec | ⟨tenancy, htenancy, hunit, hexec⟩
  · exact Or.inl hexec
  rw [hexec]
  rcases exec_assertManagesUnit_bind buildingId tenancy.unitId actorPersonId false
    (some tenancy.personId) _ s with hexec | hexec
  · exact Or.inl hexec
  rw [hexec, TenancyPolicy.assertCanEnd, Prog.exec_require_bind]
  by_cases hstatus : tenancy.status ∈ TenancyPolicy.OPEN_STATUSES
  · refine Or.inr ⟨tenancy, htenancy, hstatus, (if_pos hstatus).trans ?_⟩
    obtain rfl : tenancy.id = tenancyId := Table.key_of_find? htenancy
    rw [BuildingRepository.endTenancy, Prog.exec_transaction, updateTenancy,
      Prog.solo_writeIf_bind, if_pos (by rw [htenancy]; rfl), updateMemberships,
      Prog.solo_updateMany_bind, Store.foldl_onMemberships, updateUnitRow, Prog.solo_writeIf,
      if_pos (by simpa using hunit)]
    rfl
  · exact Or.inl (if_neg hstatus)

/-- The tenancy that ends, and no other one. -/
theorem mem_tenancies_moveOut {tenancy t : Tenancy} {terminationReason : Option String}
    {now : Time} :
    t ∈ (moveOut tenancy terminationReason now s).tenancies ↔
      ∃ t₀ ∈ s.tenancies,
        t = if t₀.id = tenancy.id then BuildingRepository.closed now terminationReason t₀ else t₀ := by
  refine (Table.mem_modify (h := BuildingRepository.closed_id _ _)).trans ?_
  simp only [eq_comm]

/-! ### Signing in -/

/-- The row of a person who signs in for the first time. -/
def newPerson (phone : String) (s : Store) : Store := s.onPersons (·.create fun id => { id, phone })

/-- The person with the phone is there, or is created. -/
theorem exec_findOrCreatePerson_bind (phone : String) (f : Person → Call β) (s : Store) :
    (∃ person ∈ s.persons, person.phone = phone ∧
      (AuthService.findOrCreatePerson phone (AuthService.findPersonByPhone phone s) >>= f).exec s =
        (f person).exec s) ∨
      (AuthService.findOrCreatePerson phone (AuthService.findPersonByPhone phone s) >>= f).exec s =
        (f { id := s.persons.next, phone }).exec (newPerson phone s) := by
  cases hfound : AuthService.findPersonByPhone phone s with
  | some person =>
    have hphone : person.phone = phone := by
      simpa using List.find?_some (p := fun p : Person => decide (p.phone = phone)) hfound
    exact Or.inl ⟨person, List.mem_of_find?_eq_some hfound, hphone, rfl⟩
  | none =>
    refine Or.inr ?_
    -- the new row is the first one with the phone
    have hcreated : AuthService.findPersonByPhone phone (newPerson phone s) =
        some { id := s.persons.next, phone } := by
      change (s.persons.rows ++ [_]).find? _ = _
      rw [List.find?_append, show s.persons.rows.find? _ = none from hfound, Option.none_or,
        List.find?_cons_of_pos (by simp)]
    rw [AuthService.findOrCreatePerson, AuthService.createPerson, Prog.bind_assoc,
      Prog.exec_transaction_bind, Prog.solo_writeUnless, hfound]
    dsimp only [Option.isSome_none]
    rw [if_neg Bool.false_ne_true]
    dsimp only
    rw [Prog.bind_assoc, Prog.exec_query_bind, Prog.exec_expect_bind]
    rw [newPerson] at hcreated ⊢
    rw [hcreated]

end VielHome.Building
