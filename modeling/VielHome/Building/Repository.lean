import VielHome.Building.Policies
import VielHome.Community.Writes

/-!
# `BuildingRepository`

The statements of the repository, one by one. A method that the source runs in
`$transaction` is a `transaction` here; every other write commits by itself. An `updateMany`
looks for its rows in its own snapshot and looks again at each of them once it is free; an
`update` by id waits for the row and raises when there is none.
-/

namespace VielHome.Building

open Relational Community
open Relational.ReadCommitted.Prog (query queryUnder write writeIf writeUnless updateMany transaction
  commitKeeping)

/-! ### Statements on one table -/

/-- `membership.update`. -/
def updateMembership (id : ℕ) (f : Membership → Membership)
    (h : ∀ m, (f m).id = m.id := by intro _; exact rfl) : Call PUnit :=
  writeIf [(.row .membership id, .exclusive)] (fun s => (s.memberships.find? id).isSome)
    .recordNotFound (Store.onMemberships (·.modify id f h))

/-- `membership.updateMany`. -/
def updateMemberships (p : Membership → Bool) (f : Membership → Membership)
    (h : ∀ m, (f m).id = m.id := by intro _; exact rfl) : Call PUnit :=
  updateMany (fun s => (s.memberships.rows.filter p).map Membership.id) (Lock.row .membership)
    (fun id s => (s.memberships.find? id).any p)
    fun id => Store.onMemberships (·.modify id f h)

/-- `membership.create`. -/
def insertMembership (mk : ℕ → Membership) (h : ∀ id, (mk id).id = id := by intro _; exact rfl) :
    Call PUnit :=
  writeUnless []
    (unlessReferences fun s =>
      (s.persons.find? (mk 0).personId).isSome && (s.buildings.find? (mk 0).buildingId).isSome)
    (Store.onMemberships (·.create mk h))

/-- `ownership.updateMany`. -/
def updateOwnerships (p : Ownership → Bool) (f : Ownership → Ownership)
    (h : ∀ o, (f o).id = o.id := by intro _; exact rfl) : Call PUnit :=
  updateMany (fun s => (s.ownerships.rows.filter p).map Ownership.id) (Lock.row .ownership)
    (fun id s => (s.ownerships.find? id).any p)
    fun id => Store.onOwnerships (·.modify id f h)

/-- `ownership.create`. -/
def insertOwnership (mk : ℕ → Ownership) (h : ∀ id, (mk id).id = id := by intro _; exact rfl) :
    Call PUnit :=
  writeUnless []
    (unlessReferences fun s =>
      (s.persons.find? (mk 0).personId).isSome && (s.units.find? (mk 0).unitId).isSome)
    (Store.onOwnerships (·.create mk h))

/-- `tenancy.update`. -/
def updateTenancy (id : ℕ) (f : Tenancy → Tenancy)
    (h : ∀ t, (f t).id = t.id := by intro _; exact rfl) : Call PUnit :=
  writeIf [(.row .tenancy id, .exclusive)] (fun s => (s.tenancies.find? id).isSome)
    .recordNotFound (Store.onTenancies (·.modify id f h))

/-- `tenancy.create`. -/
def insertTenancy (mk : ℕ → Tenancy) (h : ∀ id, (mk id).id = id := by intro _; exact rfl) :
    Call PUnit :=
  writeUnless []
    (unlessReferences fun s =>
      (s.persons.find? (mk 0).personId).isSome && (s.units.find? (mk 0).unitId).isSome)
    (Store.onTenancies (·.create mk h))

/-- `unit.update`. -/
def updateUnitRow (id : ℕ) (f : BuildingUnit → BuildingUnit)
    (h : ∀ u, (f u).id = u.id := by intro _; exact rfl) : Call PUnit :=
  writeIf [(.row .unit id, .exclusive)] (fun s => (s.units.find? id).isSome)
    .recordNotFound (Store.onUnits (·.modify id f h))

/-- `building.update`. -/
def updateBuilding (id : ℕ) (f : Building → Building)
    (h : ∀ b, (f b).id = b.id := by intro _; exact rfl) : Call PUnit :=
  writeIf [(.row .building id, .exclusive)] (fun s => (s.buildings.find? id).isSome)
    .recordNotFound (Store.onBuildings (·.modify id f h))

/-- `person.update`. -/
def updatePerson (id : ℕ) (f : Person → Person)
    (h : ∀ p, (f p).id = p.id := by intro _; exact rfl) : Call PUnit :=
  writeIf [(.row .person id, .exclusive)] (fun s => (s.persons.find? id).isSome)
    .recordNotFound (Store.onPersons (·.modify id f h))

namespace BuildingRepository

/-! ### Owners -/

/-- What a name that is null is filled with. -/
def missing (name given : Option String) : Option String :=
  if name = none ∧ truthy given then given else none

/-- The name is set where one is given. -/
def fillName (firstName lastName : Option String) (person : Person) : Person :=
  { person with
    firstName := firstName.or person.firstName
    lastName := lastName.or person.lastName }

theorem fillName_id (firstName lastName : Option String) (person : Person) :
    (fillName firstName lastName person).id = person.id := rfl

/-- Only fills a name that is null. The locks of `keep` go on standing for what the caller
still has to do. -/
def fillMissingPersonName (personId : ℕ) (firstName lastName : Option String)
    (keep : List Lock) : Call PUnit := do
  let person ← query fun s => s.persons.find? personId
  match person with
  | none => pure ⟨⟩
  | some person =>
    if missing person.firstName firstName = none ∧ missing person.lastName lastName = none then
      pure ⟨⟩
    else do
      updatePerson personId
        (fillName (missing person.firstName firstName) (missing person.lastName lastName))
        (fillName_id _ _)
      commitKeeping keep

/-- A unit whose invited owner can be linked. -/
structure UnlinkedUnit where
  id : ℕ
  buildingId : ℕ
  ownerFirstName : Option String
  ownerLastName : Option String

/-- The units with the invited phone and no current ownership. -/
def unlinkedOwnerUnits (phone : String) (s : Store) : List UnlinkedUnit :=
  (s.units.rows.filter fun u => u.ownerPhone = some phone ∧ s.hasCurrentOwnership u.id = false).map
    fun u => ⟨u.id, u.buildingId, u.ownerFirstName, u.ownerLastName⟩

/-- What `linkOwnerToUnit` links. -/
structure LinkOwnerParams where
  unitId : ℕ
  buildingId : ℕ
  personId : ℕ
  pendingOwnerFirstName : Option String
  pendingOwnerLastName : Option String

/-- What `linkOwnerAccountByPhone` links a unit with. -/
def UnlinkedUnit.params (personId : ℕ) (unit : UnlinkedUnit) : LinkOwnerParams where
  unitId := unit.id
  buildingId := unit.buildingId
  personId := personId
  pendingOwnerFirstName := unit.ownerFirstName
  pendingOwnerLastName := unit.ownerLastName

/-- The transaction commits the ownership and the membership; the name is filled after it. -/
def linkOwnerToUnit (params : LinkOwnerParams) (now : Time) (keep : List Lock) : Call PUnit := do
  insertOwnership fun id =>
    { id, unitId := params.unitId, personId := params.personId, startDate := now }
  insertMembership fun id =>
    { id, personId := params.personId, buildingId := params.buildingId,
      unitId := some params.unitId, role := .owner, startedAt := now }
  commitKeeping keep
  if truthy params.pendingOwnerFirstName ∨ truthy params.pendingOwnerLastName then
    fillMissingPersonName params.personId params.pendingOwnerFirstName params.pendingOwnerLastName
      keep
  else pure ⟨⟩

/-- The columns of a unit that a hand-over resets. -/
def handedTo (newOwnerPhone : String) (unit : BuildingUnit) : BuildingUnit :=
  { unit with ownerPhone := some newOwnerPhone, ownerFullName := none, ownerInviteSentAt := none }

theorem handedTo_id (newOwnerPhone : String) (unit : BuildingUnit) :
    (handedTo newOwnerPhone unit).id = unit.id := rfl

/-- `transferOwnership`: the owners and their memberships end, and the unit waits for the new one.
-/
def transferOwnership (unitId : ℕ) (newOwnerPhone : String) (now : Time) : Call PUnit :=
  transaction do
    updateOwnerships (fun o => o.IsOf unitId) fun o =>
      { o with isCurrent := false, endDate := some now }
    updateMemberships (fun m => m.IsFor unitId .owner) (Membership.ended now) (Membership.ended_id now)
    updateUnitRow unitId (handedTo newOwnerPhone) (handedTo_id newOwnerPhone)

/-! ### Units -/

/-- The columns of `updateUnit`: a missing one is left alone, a null one is set to null. -/
structure UpdateUnitParams where
  floorNumber : Option (Option ℤ) := none
  areaSqm : Option (Option ℚ) := none
  parkingCount : Option (Option ℤ) := none
  storageCount : Option (Option ℤ) := none
  occupancyStatus : Option UnitOccupancyStatus := none
  ownerFullName : Option (Option String) := none
  ownerFirstName : Option (Option String) := none
  ownerLastName : Option (Option String) := none
  ownerPhone : Option (Option String) := none

/-- The unit with the columns that are given. -/
def UpdateUnitParams.apply (params : UpdateUnitParams) (unit : BuildingUnit) : BuildingUnit :=
  { unit with
    floorNumber := params.floorNumber.getD unit.floorNumber
    areaSqm := params.areaSqm.getD unit.areaSqm
    parkingCount := params.parkingCount.getD unit.parkingCount
    storageCount := params.storageCount.getD unit.storageCount
    occupancyStatus := params.occupancyStatus.getD unit.occupancyStatus
    ownerFullName := params.ownerFullName.getD unit.ownerFullName
    ownerFirstName := params.ownerFirstName.getD unit.ownerFirstName
    ownerLastName := params.ownerLastName.getD unit.ownerLastName
    ownerPhone := params.ownerPhone.getD unit.ownerPhone }

theorem UpdateUnitParams.apply_id (params : UpdateUnitParams) (unit : BuildingUnit) :
    (params.apply unit).id = unit.id := rfl

/-- `updateUnit`: an update by the id. -/
def updateUnit (unitId : ℕ) (params : UpdateUnitParams) : Call PUnit :=
  transaction (updateUnitRow unitId params.apply params.apply_id)

/-- `markOwnerInviteSent`. -/
def markOwnerInviteSent (unitId : ℕ) (now : Time) : Call PUnit :=
  transaction (updateUnitRow unitId fun u => { u with ownerInviteSentAt := some now })

/-! ### Membership requests -/

/-- What a request to join is made from. -/
structure CreateMembershipRequestParams where
  buildingId : ℕ
  personId : ℕ
  role : MembershipRole
  message : Option String := none

/-- `createMembershipRequest`: an insertion, whose foreign keys are checked. -/
def createMembershipRequest (params : CreateMembershipRequestParams) : Call PUnit := transaction do
  writeUnless []
    (unlessReferences fun s =>
      (s.persons.find? params.personId).isSome && (s.buildings.find? params.buildingId).isSome)
    (Store.onMembershipRequests (·.create fun id =>
      { id, buildingId := params.buildingId, personId := params.personId, role := params.role,
        message := params.message }))

/-- `updateMembershipRequestStatus`: an update by the id alone. -/
def updateMembershipRequestStatus (requestId : ℕ) (status : MembershipRequestStatus) :
    Call PUnit :=
  transaction do
    writeIf [(.row .membershipRequest requestId, .exclusive)]
      (fun s => (s.membershipRequests.find? requestId).isSome) .recordNotFound
      (Store.onMembershipRequests (·.modify requestId fun r => { r with status }))

/-- `createMembership`: a manager begins as a provisional one. -/
def createMembership (personId buildingId : ℕ) (role : MembershipRole) (now : Time) : Call PUnit :=
  transaction do
    insertMembership fun id =>
      { id, personId, buildingId, role,
        managerState := if role = .manager then some .provisional else none
        managerAssignmentType := if role = .manager then some .appointed else none
        startedAt := now }

/-! ### The manager -/

/-- Who is to be the manager, and why. -/
structure ChangeManagerParams where
  buildingId : ℕ
  newManagerPersonId : ℕ
  assignmentType : ManagerAssignmentType
  assignedById : Option ℕ

/-- A provisional assignment has still to be verified. -/
def ChangeManagerParams.managerState (params : ChangeManagerParams) : ManagerLifecycleState :=
  if params.assignmentType = .provisional then .provisional else .verified

/-- The former manager's row. -/
def retired (now : Time) (m : Membership) : Membership :=
  { m with isCurrent := false, endedAt := some now, managerState := some .former }

theorem retired_id (now : Time) (m : Membership) : (retired now m).id = m.id := rfl

/-- End the membership that was found, if one was. -/
def retireManager (now : Time) : Option Membership → Call PUnit
  | some current => updateMembership current.id (retired now) (retired_id now)
  | none => pure ⟨⟩

/-- The read of the current manager decides about the insertion after it, and locks
nothing. -/
def changeManager (params : ChangeManagerParams) (now : Time) : Call PUnit := transaction do
  let current ← queryUnder (fun _ => [(.managers params.buildingId, .exclusive)]) fun s =>
    s.currentManager params.buildingId
  retireManager now current
  insertMembership fun id =>
    { id, personId := params.newManagerPersonId, buildingId := params.buildingId, role := .manager,
      managerState := some params.managerState, managerAssignmentType := some params.assignmentType,
      assignedById := params.assignedById, startedAt := now }
  if params.managerState = .verified then
    updateBuilding params.buildingId fun b => { b with recoveryModeEnteredAt := none }
  else pure ⟨⟩

/-- `endManagement`: the membership ends. -/
def endManagement (membershipId : ℕ) (now : Time) : Call PUnit :=
  transaction (updateMembership membershipId (retired now) (retired_id now))

/-! ### Tenancies -/

/-- `createTenancy`: the tenancy, the membership, and the occupancy of the unit. -/
def createTenancy (unitId buildingId personId : ℕ) (now : Time) : Call PUnit := transaction do
  insertTenancy fun id => { id, unitId, personId, startDate := now }
  insertMembership fun id =>
    { id, personId, buildingId, unitId := some unitId, role := .tenant, startedAt := now }
  updateUnitRow unitId fun u => { u with occupancyStatus := .tenantOccupied }

/-- `giveTenancyNotice`: an update by the id. -/
def giveTenancyNotice (id : ℕ) (now : Time) : Call PUnit :=
  transaction (updateTenancy id fun t => { t with status := .noticeGiven, noticeGivenAt := some now })

/-- The columns of a tenancy that has ended. -/
def closed (now : Time) (terminationReason : Option String) (t : Tenancy) : Tenancy :=
  { t with
    isCurrent := false
    status := .ended
    endDate := some now
    terminationReason := terminationReason.or t.terminationReason }

theorem closed_id (now : Time) (terminationReason : Option String) (t : Tenancy) :
    (closed now terminationReason t).id = t.id := rfl

/-- `endTenancy`: the tenancy and the membership end, and the unit is vacant. -/
def endTenancy (id unitId personId : ℕ) (terminationReason : Option String) (now : Time) :
    Call PUnit := transaction do
  updateTenancy id (closed now terminationReason) (closed_id now terminationReason)
  updateMemberships (fun m => m.IsFor unitId .tenant ∧ m.personId = personId) (Membership.ended now)
    (Membership.ended_id now)
  updateUnitRow unitId fun u => { u with occupancyStatus := .vacant }

end BuildingRepository

end VielHome.Building
