import VielHome.Building.Repository

/-!
# `BuildingService`

The calls of the service that write. Each one reads, checks its policies and lets the
repository write; between two statements any other call may commit. What a call records
for the audit and which events it emits is left out.
-/

namespace VielHome.Building

open Relational Community
open Relational.ReadCommitted.Prog (query queryUnder writeUnless expect require transaction)

namespace BuildingService

/-! ### Buildings and units -/

/-- `findById`: a building with its blocks and units. -/
structure BuildingDetail where
  building : Building
  blocks : List Block
  units : List BuildingUnit
  deriving DecidableEq

/-- The building with its blocks and units. -/
def findById (buildingId : ℕ) (s : Store) : Option BuildingDetail :=
  (s.buildings.find? buildingId).map fun building =>
    { building
      blocks := s.blocks.rows.filter fun b => b.buildingId = buildingId
      units := s.units.rows.filter fun u => u.buildingId = buildingId }

/-- The building, or `404`. -/
def getById (buildingId : ℕ) : Call BuildingDetail := do
  let building ← query (findById buildingId)
  expect building (.notFound "Building not found.")

/-- The unit, when it is of the building. -/
def getOwnUnit (buildingId unitId : ℕ) : Call BuildingUnit := do
  let _ ← getById buildingId
  let unit ← query fun s => s.units.find? unitId
  let unit ← expect unit (.notFound "Unit not found.")
  require (unit.buildingId = buildingId) (.notFound "Unit not found.")
  pure unit

/-! ### Owners -/

/-- The loop of `linkOwnerAccountByPhone`. The units that are still to be linked stay under
their locks. -/
def linkUnits (personId : ℕ) (now : Time) : List BuildingRepository.UnlinkedUnit → Call PUnit
  | [] => pure ⟨⟩
  | unit :: rest => do
    BuildingRepository.linkOwnerToUnit (unit.params personId) now (rest.map fun u => .owners u.id)
    linkUnits personId now rest

/-- On every login. The units are found once, and linked one after the other. -/
def linkOwnerAccountByPhone (personId : ℕ) (phone : String) (now : Time) : Call (List ℕ) := do
  let units ← queryUnder
    (fun s => (BuildingRepository.unlinkedOwnerUnits phone s).map fun u => (.owners u.id, .exclusive))
    (BuildingRepository.unlinkedOwnerUnits phone)
  linkUnits personId now units
  pure (units.map BuildingRepository.UnlinkedUnit.buildingId)

/-- What a look at the owner of a unit that finds nobody would have to lock. -/
def lookedAt (unitId : ℕ) (s : Store) : List (Lock × Relational.ReadCommitted.Mode) :=
  if s.hasCurrentOwnership unitId then [] else [(.owners unitId, .exclusive)]

/-- The read of the current ownership decides about the insertion after it, and locks
nothing. -/
def claimOwnership (buildingId unitId personId : ℕ) (now : Time) : Call PUnit := do
  let unit ← getOwnUnit buildingId unitId
  let hasCurrentOwnership ← queryUnder (lookedAt unitId) fun s => s.hasCurrentOwnership unitId
  let caller ← query fun s => s.persons.find? personId
  let caller ← expect caller (.notFound "Person not found.")
  OwnershipClaimPolicy.assertEligible hasCurrentOwnership unit.ownerPhone caller.phone
  BuildingRepository.linkOwnerToUnit
    { unitId, buildingId, personId, pendingOwnerFirstName := unit.ownerFirstName,
      pendingOwnerLastName := unit.ownerLastName }
    now []

/-- The columns a client may set: of the invited owner only the legacy name and the phone. -/
structure UpdateUnitDto where
  floorNumber : Option (Option ℤ) := none
  areaSqm : Option (Option ℚ) := none
  parkingCount : Option (Option ℤ) := none
  storageCount : Option (Option ℤ) := none
  occupancyStatus : Option UnitOccupancyStatus := none
  ownerFullName : Option (Option String) := none
  ownerPhone : Option (Option String) := none

/-- What the request changes. -/
def UpdateUnitDto.params (dto : UpdateUnitDto) : BuildingRepository.UpdateUnitParams where
  floorNumber := dto.floorNumber
  areaSqm := dto.areaSqm
  parkingCount := dto.parkingCount
  storageCount := dto.storageCount
  occupancyStatus := dto.occupancyStatus
  ownerFullName := dto.ownerFullName
  ownerPhone := dto.ownerPhone

/-- `updateUnit`, of a unit of the building. -/
def updateUnit (buildingId unitId : ℕ) (dto : UpdateUnitDto) : Call PUnit := do
  let _ ← getOwnUnit buildingId unitId
  BuildingRepository.updateUnit unitId dto.params

/-- The owner of a unit, by a full name. -/
structure InviteOwnerDto where
  ownerFullName : String
  ownerPhone : String

/-- The first version of the invite leaves the structured names of the unit alone. -/
def inviteOwner (buildingId unitId : ℕ) (dto : InviteOwnerDto) (now : Time) : Call PUnit := do
  let _ ← getOwnUnit buildingId unitId
  BuildingRepository.updateUnit unitId
    { ownerFullName := some (some dto.ownerFullName), ownerPhone := some (some dto.ownerPhone) }
  BuildingRepository.markOwnerInviteSent unitId now

/-- The owner of a unit, by two names. -/
structure InviteOwnerV2Dto where
  ownerFirstName : String
  ownerLastName : String
  ownerPhone : String

/-- `inviteOwnerV2`: the names and the full name that they make, and the phone. -/
def inviteOwnerV2 (buildingId unitId : ℕ) (dto : InviteOwnerV2Dto) (now : Time) : Call PUnit := do
  let _ ← getOwnUnit buildingId unitId
  BuildingRepository.updateUnit unitId
    { ownerFirstName := some (some dto.ownerFirstName)
      ownerLastName := some (some dto.ownerLastName)
      ownerFullName := some (some s!"{dto.ownerFirstName} {dto.ownerLastName}")
      ownerPhone := some (some dto.ownerPhone) }
  BuildingRepository.markOwnerInviteSent unitId now

/-- Only the current owner hands the unit over. -/
def transferOwnership (buildingId unitId : ℕ) (newOwnerPhone : String) (actorPersonId : ℕ)
    (now : Time) : Call PUnit := do
  let _ ← getOwnUnit buildingId unitId
  let isOwner ← query fun s => s.isCurrentOwnerOfUnit unitId actorPersonId
  OwnershipTransferPolicy.assertCallerIsCurrentOwner isOwner
  BuildingRepository.transferOwnership unitId newOwnerPhone now

/-! ### Membership requests -/

/-- The roles that can be requested. -/
inductive RequestableRole
  | owner
  | manager
  deriving DecidableEq

/-- The role that is asked for. -/
def RequestableRole.role : RequestableRole → MembershipRole
  | owner => .owner
  | manager => .manager

/-- `requestMembership`: somebody asks to join the building. -/
def requestMembership (buildingId personId : ℕ) (role : RequestableRole)
    (message : Option String) : Call PUnit := do
  let _ ← getById buildingId
  BuildingRepository.createMembershipRequest { buildingId, personId, role := role.role, message }

/-- How a request is resolved. -/
inductive Resolution
  | approved
  | rejected
  deriving DecidableEq

/-- The status that an answer leads to. -/
def Resolution.status : Resolution → MembershipRequestStatus
  | approved => .approved
  | rejected => .rejected

/-- What a look at the current manager of a building that finds nobody would have to lock. -/
def lookedForManager (buildingId : ℕ) (s : Store) :
    List (Lock × Relational.ReadCommitted.Mode) :=
  if (s.currentManager buildingId).isSome then [] else [(.managers buildingId, .exclusive)]

/-- Approving a `MANAGER` request must not displace the current manager. The read locks
nothing. -/
def guardManagerRole (buildingId : ℕ) (role : MembershipRole) : Call PUnit :=
  if role = .manager then do
    let existing ← queryUnder (lookedForManager buildingId) fun s => s.currentManager buildingId
    ManagerAssignmentPolicy.assertNoActiveManager existing
  else pure ⟨⟩

/-- The status is committed before the guard of the membership runs, and whatever status the
request had is overwritten. -/
def resolveMembershipRequest (buildingId requestId : ℕ) (resolution : Resolution) (now : Time) :
    Call PUnit := do
  let request ← query fun s => s.membershipRequests.find? requestId
  let request ← expect request (.notFound "Membership request not found.")
  require (request.buildingId = buildingId) (.notFound "Membership request not found.")
  BuildingRepository.updateMembershipRequestStatus requestId resolution.status
  if resolution = .approved then do
    guardManagerRole buildingId request.role
    BuildingRepository.createMembership request.personId buildingId request.role now
  else pure ⟨⟩

/-! ### The manager -/

/-- `changeManager`: the checks on the manager that was read, and then the change. -/
def changeManager (params : BuildingRepository.ChangeManagerParams) (now : Time) : Call PUnit := do
  let _ ← getById params.buildingId
  let current ← query fun s => s.currentManager params.buildingId
  ManagerAssignmentPolicy.assertNotSelfHandoff (current.map Membership.personId)
    params.newManagerPersonId
  let candidateRoles ← query fun s => s.roles params.newManagerPersonId params.buildingId
  ManagerAssignmentPolicy.assertCandidateIsMember (!candidateRoles.isEmpty)
  BuildingRepository.changeManager params now

/-- `endManagement`: the management that was found ends. -/
def endManagement (buildingId : ℕ) (now : Time) : Call PUnit := do
  let current ← query fun s => s.currentManager buildingId
  let current ← ManagerAssignmentPolicy.assertHasActiveManager current
  BuildingRepository.endManagement current.id now

/-! ### Tenancies -/

/-- Who may register a tenancy, or manage one that exists. -/
def assertManagesUnit (buildingId unitId actorPersonId : ℕ) (requireOwnerOrManagerOnly : Bool)
    (tenantPersonId : Option ℕ) : Call PUnit := do
  let isOwner ← query fun s => s.isCurrentOwnerOfUnit unitId actorPersonId
  let roles ← query fun s => s.roles actorPersonId buildingId
  let isManager := decide (MembershipRole.manager ∈ roles)
  if requireOwnerOrManagerOnly then TenancyPolicy.assertCanCreate isOwner isManager
  else TenancyPolicy.assertCanManage isOwner isManager (tenantPersonId = some actorPersonId)

/-- `createTenancy`, of a unit that has an owner. -/
def createTenancy (buildingId unitId tenantPersonId actorPersonId : ℕ) (now : Time) :
    Call PUnit := do
  let _ ← getOwnUnit buildingId unitId
  assertManagesUnit buildingId unitId actorPersonId true none
  let hasOwner ← query fun s => s.hasCurrentOwnership unitId
  TenancyPolicy.assertUnitHasOwner hasOwner
  let existing ← query fun s => s.currentTenancyForUnit unitId
  TenancyPolicy.assertUnitAvailableForTenancy existing
  BuildingRepository.createTenancy unitId buildingId tenantPersonId now

/-- The tenancy, when its unit is of the building. -/
def getOwnTenancy (buildingId tenancyId : ℕ) : Call Tenancy := do
  let tenancy ← query fun s => s.tenancies.find? tenancyId
  let tenancy ← expect tenancy (.notFound "Tenancy not found.")
  let _ ← getOwnUnit buildingId tenancy.unitId
  pure tenancy

/-- `giveTenancyNotice`, by who manages the unit or rents it. -/
def giveTenancyNotice (buildingId tenancyId actorPersonId : ℕ) (now : Time) : Call PUnit := do
  let tenancy ← getOwnTenancy buildingId tenancyId
  assertManagesUnit buildingId tenancy.unitId actorPersonId false (some tenancy.personId)
  TenancyPolicy.assertCanGiveNotice tenancy.status
  BuildingRepository.giveTenancyNotice tenancyId now

/-- `endTenancy`, by who manages the unit or rents it. -/
def endTenancy (buildingId tenancyId : ℕ) (terminationReason : Option String)
    (actorPersonId : ℕ) (now : Time) : Call PUnit := do
  let tenancy ← getOwnTenancy buildingId tenancyId
  assertManagesUnit buildingId tenancy.unitId actorPersonId false (some tenancy.personId)
  TenancyPolicy.assertCanEnd tenancy.status
  BuildingRepository.endTenancy tenancyId tenancy.unitId tenancy.personId terminationReason now

end BuildingService

/-! ### Signing in -/

namespace AuthService

/-- `findPersonByPhone`. -/
def findPersonByPhone (phone : String) (s : Store) : Option Person :=
  s.persons.rows.find? fun p => p.phone = phone

/-- The created row is read back by its phone, which is unique. -/
def createPerson (phone : String) : Call Person := do
  transaction (writeUnless [(.phoneKey phone, .exclusive)]
    (fun s => if (findPersonByPhone phone s).isSome then some .uniqueConstraint else none)
    (Store.onPersons (·.create fun id => { id, phone })))
  let person ← query (findPersonByPhone phone)
  expect person .recordNotFound

/-- The person that was found, or a new one. -/
def findOrCreatePerson (phone : String) : Option Person → Call Person
  | some person => pure person
  | none => createPerson phone

/-- What an accepted code goes on to: the person's pending owner invites are linked. -/
def verifyOtp (phone : String) (now : Time) : Call PUnit := do
  let found ← query (findPersonByPhone phone)
  let person ← findOrCreatePerson phone found
  require (person.isSuspended = false)
    (.authorization "Your account has been suspended. Contact support for assistance.")
  let _ ← BuildingService.linkOwnerAccountByPhone person.id person.phone now
  pure ⟨⟩

end AuthService

end VielHome.Building
