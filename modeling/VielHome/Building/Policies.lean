import VielHome.Community.Locks

/-!
# Policies of the building module

The rules that the service checks before it writes: who may be handed the management, who
may hand over or claim a unit, who may register, notice or end a tenancy. A policy never
touches the store; it goes on or raises its error.
-/

namespace VielHome.Building

open Community
open Relational.ReadCommitted.Prog (require)

/-! ### `ManagerAssignmentPolicy` -/

namespace ManagerAssignmentPolicy

/-- A manager is a member of the building. -/
def assertCandidateIsMember (isMember : Bool) : Call PUnit :=
  require (isMember = true) (.businessRuleViolation
    "A person must already be a member of this building before they can be assigned as manager.")

/-- A manager does not take over from themselves. -/
def assertNotSelfHandoff (currentManagerPersonId : Option ℕ) (newManagerPersonId : ℕ) :
    Call PUnit :=
  require (currentManagerPersonId ≠ some newManagerPersonId)
    (.businessRuleViolation "This person is already the active manager.")

/-- There is no manager yet. -/
def assertNoActiveManager : Option Membership → Call PUnit
  | none => pure ⟨⟩
  | some existing => .fail (.conflict
      "This building already has an active manager. End the current management before assigning a new one."
      [("currentManagerMembershipId", toString existing.id)])

/-- The current manager, or the error that there is none. -/
def assertHasActiveManager (existing : Option Membership) : Call Membership :=
  Relational.ReadCommitted.Prog.expect existing
    (.businessRuleViolation "This building does not currently have an active manager.")

end ManagerAssignmentPolicy

/-! ### `OwnershipTransferPolicy` and `OwnershipClaimPolicy` -/

/-- Only the owner hands the unit over. -/
def OwnershipTransferPolicy.assertCallerIsCurrentOwner (isCurrentOwner : Bool) : Call PUnit :=
  require (isCurrentOwner = true)
    (.authorization "Only the unit's current owner may initiate an ownership transfer.")

/-- Present and not empty, as a condition on an optional string. -/
def truthy (s : Option String) : Bool := s.any fun s => s ≠ ""

/-- A unit without an owner is claimed with the phone that it is kept for. -/
def OwnershipClaimPolicy.assertEligible (hasCurrentOwnership : Bool)
    (unitOwnerPhone : Option String) (callerPhone : String) : Call PUnit := do
  require (hasCurrentOwnership = false)
    (.businessRuleViolation "This unit already has a registered owner.")
  require (truthy unitOwnerPhone = true ∧ unitOwnerPhone = some callerPhone)
    (.authorization
      "You are not the invited owner of this unit. Ask the building manager to register your phone number as this unit’s owner first.")

/-! ### `TenancyPolicy` -/

namespace TenancyPolicy

/-- The name of a status, as the messages have it. -/
def statusName : TenancyStatus → String
  | .active => "ACTIVE"
  | .noticeGiven => "NOTICE_GIVEN"
  | .ended => "ENDED"

/-- A tenancy with one of these goes on. -/
def OPEN_STATUSES : List TenancyStatus := [.active, .noticeGiven]

/-- The unit is not rented. -/
def assertUnitAvailableForTenancy (existingCurrentTenancy : Option Tenancy) : Call PUnit :=
  require (existingCurrentTenancy = none)
    (.businessRuleViolation "This unit already has an active tenancy.")

/-- The owner or the manager lets a unit. -/
def assertCanCreate (isCallerCurrentOwnerOfUnit callerIsManager : Bool) : Call PUnit :=
  require (isCallerCurrentOwnerOfUnit = true ∨ callerIsManager = true)
    (.authorization
      "Only the unit's current owner or the building manager may register a tenancy.")

/-- The owner, the manager or the tenant has to do with a tenancy. -/
def assertCanManage (isCallerCurrentOwnerOfUnit callerIsManager isCallerTheTenant : Bool) :
    Call PUnit :=
  require (isCallerCurrentOwnerOfUnit = true ∨ callerIsManager = true ∨ isCallerTheTenant = true)
    (.authorization
      "Only the unit's current owner, the building manager, or the tenant themselves may manage this tenancy.")

/-- A unit that is let has an owner. -/
def assertUnitHasOwner (hasCurrentOwnership : Bool) : Call PUnit :=
  require (hasCurrentOwnership = true)
    (.businessRuleViolation
      "This unit must have a registered owner before a tenancy can be created.")

/-- Notice is given once. -/
def assertCanGiveNotice (status : TenancyStatus) : Call PUnit :=
  require (status = .active) (.businessRuleViolation
    s!"Notice can only be given on an ACTIVE tenancy (current status: {statusName status}).")

/-- A tenancy ends once. -/
def assertCanEnd (status : TenancyStatus) : Call PUnit :=
  require (status ∈ OPEN_STATUSES)
    (.businessRuleViolation s!"Tenancy is already ended (status: {statusName status}).")

end TenancyPolicy

end VielHome.Building
