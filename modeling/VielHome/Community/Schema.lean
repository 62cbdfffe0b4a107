import VielHome.Relational.Table
import Mathlib.Data.Rat.Defs

/-!
# The tables of buildings and their people

One structure for each model of the schema that the building module, the governance module
and the back office share: buildings, units and people, who belongs to what, the votes of a
building, and the back office's cases about its manager. Row ids are natural numbers handed
out by the tables and instants are milliseconds. A nullable column is an `Option`. Columns
that no modelled operation reads or writes are left out.
-/

namespace VielHome.Community

open Relational

/-- An instant, in milliseconds. -/
abbrev Time := ℤ

/-! ### Enumerations -/

/-- What somebody is in a building. -/
inductive MembershipRole
  | owner
  | tenant
  | manager
  | boardMember
  | accountant
  deriving DecidableEq

/-- How far a manager has come. -/
inductive ManagerLifecycleState
  | candidate
  | provisional
  | verified
  | former
  | suspended
  deriving DecidableEq

/-- How a manager has become one. -/
inductive ManagerAssignmentType
  | provisional
  | elected
  | appointed
  | backofficeAssigned
  deriving DecidableEq

/-- What has become of a request to join. -/
inductive MembershipRequestStatus
  | pending
  | approved
  | rejected
  deriving DecidableEq

/-- Whether somebody still rents a unit. -/
inductive TenancyStatus
  | active
  | noticeGiven
  | ended
  deriving DecidableEq

/-- Who lives in a unit. -/
inductive UnitOccupancyStatus
  | vacant
  | ownerOccupied
  | tenantOccupied
  deriving DecidableEq

/-- What a unit is used for. -/
inductive UnitType
  | residential
  | commercial
  | parking
  | storage
  deriving DecidableEq

/-- How far the verification of a building has come. -/
inductive BuildingStatus
  | pending
  | underReview
  | verified
  | rejected
  | merged
  | pendingInformation
  deriving DecidableEq

/-- How far a vote has come. -/
inductive VoteStatus
  | draft
  | active
  | closed
  | cancelled
  deriving DecidableEq

/-- Which units a vote is for. -/
inductive VoteScopeType
  | entireBuilding
  | block
  | propertyType
  | selectedUnits
  deriving DecidableEq

/-- Why somebody may vote for a unit. -/
inductive VoteEligibilityType
  | owner
  | tenant
  deriving DecidableEq

/-- How a vote has ended. -/
inductive VoteResultStatus
  | passed
  | notPassed
  | quorumNotMet
  deriving DecidableEq

/-- How far the verification of a manager has come. -/
inductive ManagerVerificationStatus
  | pending
  | verified
  | rejected
  | suspended
  deriving DecidableEq

/-- What the staff decides about a manager. -/
inductive ManagerVerificationDecision
  | approve
  | reject
  | suspend
  | restore
  deriving DecidableEq

/-- Who has verified a manager. -/
inductive ManagerVerificationSource
  | ownerApproval
  | adminReview
  | election
  | recoveryAppointment
  deriving DecidableEq

/-- How urgent a case of the back office is. -/
inductive VerificationPriority
  | low
  | normal
  | high
  | critical
  deriving DecidableEq

/-- What is done to somebody after a fraud case. -/
inductive EnforcementActionType
  | warning
  | temporaryRestriction
  | verificationRevocation
  | accountSuspension
  deriving DecidableEq

/-- Whom it is done to. -/
inductive EnforcementTargetType
  | person
  | building
  | managerClaim
  deriving DecidableEq

/-- What has become of an appeal. -/
inductive EnforcementAppealStatus
  | none
  | pending
  | upheld
  | overturned
  deriving DecidableEq

/-- How far a fraud case has come. -/
inductive FraudCaseStatus
  | open
  | underInvestigation
  | confirmed
  | dismissed
  deriving DecidableEq

/-- Where a fraud case comes from. -/
inductive FraudCaseSource
  | systemSignal
  | userReport
  deriving DecidableEq

/-- What a fraud case is about. -/
inductive FraudSignalType
  | multipleManagerClaims
  | massRegistrations
  | suspiciousBuildingCreation
  | excessiveAppeals
  | abnormalActivity
  | other
  deriving DecidableEq

/-- What somebody does for the platform. -/
inductive PlatformStaffRole
  | reviewer
  | seniorReviewer
  | platformAdmin
  deriving DecidableEq

/-! ### Buildings, units and people -/

/-- A building. -/
structure Building where
  id : ℕ
  name : String
  addressLine : String
  postalCode : String
  createdById : ℕ
  status : BuildingStatus := .pending
  recoveryModeEnteredAt : Option Time := none
  deriving DecidableEq

/-- A block of a building. -/
structure Block where
  id : ℕ
  buildingId : ℕ
  name : String
  deriving DecidableEq

/-- What a building has settled for itself. -/
structure BuildingSettings where
  id : ℕ
  buildingId : ℕ
  allowTenantVoting : Bool := false
  deriving DecidableEq

/-- A unit of a building. -/
structure BuildingUnit where
  id : ℕ
  buildingId : ℕ
  blockId : Option ℕ := none
  floorId : Option ℕ := none
  floorNumber : Option ℤ := none
  unitNumber : String
  type : UnitType := .residential
  areaSqm : Option ℚ := none
  parkingCount : Option ℤ := none
  storageCount : Option ℤ := none
  occupancyStatus : UnitOccupancyStatus := .vacant
  ownerFullName : Option String := none
  ownerFirstName : Option String := none
  ownerLastName : Option String := none
  ownerPhone : Option String := none
  ownerInviteSentAt : Option Time := none
  createdAt : Time := 0
  deriving DecidableEq

/-- Somebody, known by a phone number. -/
structure Person where
  id : ℕ
  phone : String
  fullName : Option String := none
  firstName : Option String := none
  lastName : Option String := none
  isSuspended : Bool := false
  deriving DecidableEq

/-- Somebody has a role in a building, perhaps for one of its units. -/
structure Membership where
  id : ℕ
  personId : ℕ
  buildingId : ℕ
  unitId : Option ℕ := none
  role : MembershipRole
  managerState : Option ManagerLifecycleState := none
  managerAssignmentType : Option ManagerAssignmentType := none
  assignedById : Option ℕ := none
  startedAt : Time := 0
  endedAt : Option Time := none
  isCurrent : Bool := true
  deriving DecidableEq

/-- Somebody asks to join a building. -/
structure MembershipRequest where
  id : ℕ
  buildingId : ℕ
  personId : ℕ
  role : MembershipRole
  message : Option String := none
  status : MembershipRequestStatus := .pending
  deriving DecidableEq

/-- Somebody owns a unit. -/
structure Ownership where
  id : ℕ
  unitId : ℕ
  personId : ℕ
  startDate : Time := 0
  endDate : Option Time := none
  isCurrent : Bool := true
  deriving DecidableEq

/-- Somebody rents a unit. -/
structure Tenancy where
  id : ℕ
  unitId : ℕ
  personId : ℕ
  status : TenancyStatus := .active
  startDate : Time := 0
  endDate : Option Time := none
  noticeGivenAt : Option Time := none
  terminationReason : Option String := none
  isCurrent : Bool := true
  deriving DecidableEq

/-! ### Votes -/

/-- A vote in a building. -/
structure Vote where
  id : ℕ
  buildingId : ℕ
  title : String
  status : VoteStatus := .draft
  isManagerElection : Bool := false
  quorumPercent : Option ℤ := none
  startAt : Time
  endAt : Time
  createdById : ℕ
  publishedAt : Option Time := none
  closedAt : Option Time := none
  cancelledAt : Option Time := none
  cancelReason : Option String := none
  scopeType : VoteScopeType := .entireBuilding
  scopeBlockId : Option ℕ := none
  scopeUnitType : Option UnitType := none
  scopeUnitIds : List ℕ := []
  deriving DecidableEq

/-- An option of a vote. -/
structure VoteOption where
  id : ℕ
  voteId : ℕ
  label : String
  value : String
  sortOrder : ℕ := 0
  deriving DecidableEq

/-- Who may vote for a unit, as it was when the vote was opened. -/
structure VoteEligibilitySnapshot where
  id : ℕ
  voteId : ℕ
  unitId : ℕ
  eligiblePersonId : ℕ
  eligibilityType : VoteEligibilityType := .owner
  deriving DecidableEq

/-- What was voted for a unit. -/
structure Ballot where
  id : ℕ
  voteId : ℕ
  unitId : ℕ
  voterPersonId : ℕ
  selectedOptionId : ℕ
  deriving DecidableEq

/-- How a vote has ended, with its numbers. -/
structure VoteResult where
  id : ℕ
  voteId : ℕ
  totalEligibleCount : ℕ
  totalBallotCount : ℕ
  quorumMet : Bool
  winningOptionId : Option ℕ
  resultStatus : VoteResultStatus
  publishedAt : Option Time := none
  deriving DecidableEq

/-- Somebody may vote in place of the owner of a unit. -/
structure VoteProxy where
  id : ℕ
  unitId : ℕ
  buildingId : ℕ
  granterPersonId : ℕ
  proxyPersonId : ℕ
  isCurrent : Bool := true
  grantedAt : Time := 0
  revokedAt : Option Time := none
  deriving DecidableEq

/-! ### Cases of the back office -/

/-- The verification of somebody as a manager. -/
structure ManagerVerificationCase where
  id : ℕ
  buildingId : ℕ
  membershipId : ℕ
  candidateId : ℕ
  status : ManagerVerificationStatus := .pending
  verificationSource : Option ManagerVerificationSource := none
  decision : Option ManagerVerificationDecision := none
  priority : VerificationPriority := .normal
  requiredApprovalPercent : ℕ := 30
  isReverification : Bool := false
  reviewedById : Option ℕ := none
  reason : Option String := none
  decidedAt : Option Time := none
  createdAt : Time := 0
  deriving DecidableEq

/-- An owner approves of a manager. -/
structure ManagerVerificationApproval where
  id : ℕ
  caseId : ℕ
  ownerPersonId : ℕ
  deriving DecidableEq

/-- Somebody works for the platform. -/
structure PlatformStaff where
  id : ℕ
  personId : ℕ
  role : PlatformStaffRole
  isActive : Bool := true
  deriving DecidableEq

/-- A case of fraud that is looked into. -/
structure FraudCase where
  id : ℕ
  status : FraudCaseStatus := .open
  priority : VerificationPriority := .normal
  source : FraudCaseSource
  signalType : Option FraudSignalType := none
  reportedById : Option ℕ := none
  targetPersonId : Option ℕ := none
  targetBuildingId : Option ℕ := none
  description : Option String := none
  evidenceNotes : Option String := none
  assignedToId : Option ℕ := none
  reviewedById : Option ℕ := none
  reason : Option String := none
  isReopen : Bool := false
  previousCaseId : Option ℕ := none
  decidedAt : Option Time := none
  deriving DecidableEq

/-- What an enforcement action found, kept as JSON for an appeal. -/
inductive PreviousTargetState
  | person (isSuspended : Bool)
  | building (status : BuildingStatus)
  | managerClaim (managerState : Option ManagerLifecycleState)
      (recoveryModeEnteredAt : Option Time)
  deriving DecidableEq

/-- What was done to somebody after a fraud case. -/
structure EnforcementAction where
  id : ℕ
  fraudCaseId : ℕ
  type : EnforcementActionType
  targetType : EnforcementTargetType
  targetPersonId : Option ℕ := none
  targetBuildingId : Option ℕ := none
  targetMembershipId : Option ℕ := none
  reason : Option String := none
  issuedById : ℕ
  appealStatus : EnforcementAppealStatus := .none
  appealReason : Option String := none
  appealedAt : Option Time := none
  appealDecidedById : Option ℕ := none
  appealDecidedAt : Option Time := none
  idempotencyKey : Option String := none
  effectApplied : Bool := false
  previousTargetState : Option PreviousTargetState := none
  effectReversedAt : Option Time := none
  deriving DecidableEq

/-! ### The store -/

/-- The tables. -/
@[ext]
structure Store where
  buildings : Table Building Building.id
  blocks : Table Block Block.id
  settings : Table BuildingSettings BuildingSettings.id
  units : Table BuildingUnit BuildingUnit.id
  persons : Table Person Person.id
  memberships : Table Membership Membership.id
  membershipRequests : Table MembershipRequest MembershipRequest.id
  ownerships : Table Ownership Ownership.id
  tenancies : Table Tenancy Tenancy.id
  votes : Table Vote Vote.id
  voteOptions : Table VoteOption VoteOption.id
  snapshots : Table VoteEligibilitySnapshot VoteEligibilitySnapshot.id
  ballots : Table Ballot Ballot.id
  voteResults : Table VoteResult VoteResult.id
  voteProxies : Table VoteProxy VoteProxy.id
  cases : Table ManagerVerificationCase ManagerVerificationCase.id
  approvals : Table ManagerVerificationApproval ManagerVerificationApproval.id
  platformStaff : Table PlatformStaff PlatformStaff.id
  fraudCases : Table FraudCase FraudCase.id
  enforcementActions : Table EnforcementAction EnforcementAction.id

/-- The store before anything happened. -/
def Store.empty : Store where
  buildings := .empty
  blocks := .empty
  settings := .empty
  units := .empty
  persons := .empty
  memberships := .empty
  membershipRequests := .empty
  ownerships := .empty
  tenancies := .empty
  votes := .empty
  voteOptions := .empty
  snapshots := .empty
  ballots := .empty
  voteResults := .empty
  voteProxies := .empty
  cases := .empty
  approvals := .empty
  platformStaff := .empty
  fraudCases := .empty
  enforcementActions := .empty

end VielHome.Community
