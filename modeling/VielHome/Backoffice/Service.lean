import VielHome.Backoffice.Repository
import VielHome.Common.Text

/-!
# `ManagerVerificationService` and `FraudCaseService`

The calls of the back office that decide about a manager: the cases of the verification
queue, and the enforcement actions of the fraud center with their appeals. What a call
records for the audit and which events it emits is left out.
-/

namespace VielHome.Backoffice

open Relational Community
open Relational.ReadCommitted.Prog (query expect require)

/-! ### `ManagerVerificationService` -/

namespace ManagerVerificationService

/-- `initiateForProvisionalManager`: a case for a manager, urgent when it is not the first one. -/
def initiateForProvisionalManager (buildingId membershipId candidateId : ℕ)
    (isReverification : Option Bool) (now : Time) : Call PUnit :=
  BackOfficeRepository.createManagerVerificationCase
    { buildingId, membershipId, candidateId, isReverification,
      priority := if isReverification = some true then .high else .normal }
    now

/-- The case of a manager, or `404`. -/
def getCase (caseId : ℕ) : Call ManagerVerificationCase := do
  let kase ← query fun s => s.cases.find? caseId
  expect kase (.notFound "Manager verification case not found.")

/-- The open case, or the error that there is none any more, or never was one. -/
def assertHasOpenCase (buildingId : ℕ) :
    Option ManagerVerificationCase → Call ManagerVerificationCase
  | some kase => pure kase
  | none => do
    let latest ← query
      (BackOfficeRepository.findLatestManagerVerificationCaseForBuilding buildingId)
    require (latest = none) (.conflict "Manager verification case is no longer pending.")
    .fail (.notFound "No manager verification case for this building.")

/-- An owner approves the provisional manager. -/
def approveByOwner (buildingId callerPersonId : ℕ) (now : Time) :
    Call BackOfficeRepository.CastApproval := do
  let kase ← query (BackOfficeRepository.getOpenManagerVerificationCaseForBuilding buildingId)
  let kase ← assertHasOpenCase buildingId kase
  ManagerVerificationPolicy.assertCaseOpen kase.status
  ManagerVerificationPolicy.assertNotSelfApproving kase.candidateId callerPersonId
  let existing ← query
    (BackOfficeRepository.findManagerVerificationApproval kase.id callerPersonId)
  require (existing = none) (.duplicate "You have already approved this manager verification.")
  BackOfficeRepository.castManagerVerificationApprovalAtomically kase.id callerPersonId now

/-- `reason?.trim() || undefined`. -/
def normalizedReason (reason : Option String) : Option String :=
  (reason.map trim).filter (· ≠ "")

/-- The status of a case after a decision. -/
def decidedStatus (decision : ManagerVerificationDecision) : ManagerVerificationStatus :=
  match decision with
  | .approve => .verified
  | .reject => .rejected
  | .suspend | .restore => .suspended

/-- `decideCase`, about a case that was pending when it was read. -/
def decideCase (caseId : ℕ) (decision : ManagerVerificationDecision) (reviewerPersonId : ℕ)
    (reason : Option String) (now : Time) : Call PUnit := do
  let kase ← getCase caseId
  require (kase.status = .pending) (.conflict "Manager verification case is no longer pending.")
  BackOfficeRepository.decideManagerVerificationCaseAtomically
    { id := caseId, buildingId := kase.buildingId, membershipId := kase.membershipId,
      candidateId := kase.candidateId, status := decidedStatus decision, decision,
      verificationSource := if decision = .approve then some .adminReview else none,
      reviewedById := reviewerPersonId, reason := normalizedReason reason }
    now

/-- `restoreManagement`, of a manager who is suspended. -/
def restoreManagement (caseId reviewerPersonId : ℕ) (reason : Option String) (now : Time) :
    Call PUnit := do
  let suspended ← getCase caseId
  ManagerVerificationPolicy.assertCanRestore suspended.status
  BackOfficeRepository.restoreManagerVerificationCaseAtomically suspended.id reviewerPersonId
    (normalizedReason reason) now

/-- The candidate's latest case in the building. -/
def latestCaseOf (buildingId callerPersonId : ℕ) (s : Store) : Option ManagerVerificationCase :=
  (((BackOfficeRepository.listManagerVerificationCases s).filter fun k =>
    k.buildingId = buildingId ∧ k.candidateId = callerPersonId).insertionSort
      fun k k' => k'.createdAt ≤ k.createdAt).head?

/-- `appealCase`, of the candidate, against the latest case. -/
def appealCase (buildingId callerPersonId : ℕ) (now : Time) : Call PUnit := do
  let latest ← query (latestCaseOf buildingId callerPersonId)
  let latest ← expect latest (.notFound "No verification case found for this candidate.")
  let activeAppeal ← query
    (BackOfficeRepository.findActiveManagerVerificationReverification buildingId callerPersonId)
  require (activeAppeal = none) (.conflict "A manager verification appeal is already pending.")
  ManagerVerificationPolicy.assertCanAppeal latest.status callerPersonId latest.candidateId
  BackOfficeRepository.createManagerVerificationAppealAtomically latest.id callerPersonId now

end ManagerVerificationService

/-! ### `FraudCaseService` -/

namespace FraudCaseService

/-- The fraud case, or `404`. -/
def getCase (caseId : ℕ) : Call FraudCase := do
  let kase ← query fun s => s.fraudCases.find? caseId
  expect kase (.notFound "Fraud case not found.")

/-- The target of an action, as a client names it. -/
structure EnforceDto where
  type : EnforcementActionType
  targetType : EnforcementTargetType
  targetPersonId : Option ℕ := none
  targetBuildingId : Option ℕ := none
  targetMembershipId : Option ℕ := none
  reason : Option String := none

/-- The target is complete, and it is the one the case was confirmed for. -/
def assertTarget (dto : EnforceDto) (kase : FraudCase) : Call PUnit :=
  match dto.targetType with
  | .person => do
    require (dto.targetPersonId ≠ none ∧ dto.targetBuildingId = none ∧ dto.targetMembershipId = none)
      (.validation "PERSON requires only targetPersonId.")
    require (kase.targetPersonId = dto.targetPersonId)
      (.validation "The enforcement target must match the confirmed fraud case.")
  | .building => do
    require (dto.targetBuildingId ≠ none ∧ dto.targetPersonId = none ∧ dto.targetMembershipId = none)
      (.validation "BUILDING requires only targetBuildingId.")
    require (kase.targetBuildingId = dto.targetBuildingId)
      (.validation "The enforcement target must match the confirmed fraud case.")
  | .managerClaim => do
    require (dto.targetMembershipId ≠ none ∧ dto.targetBuildingId ≠ none ∧ dto.targetPersonId = none)
      (.validation "MANAGER_CLAIM requires targetMembershipId and targetBuildingId only.")
    require (kase.targetBuildingId = dto.targetBuildingId)
      (.validation "The enforcement target must match the confirmed fraud case.")

/-- The target is one that the action may be against, and that the case names. -/
def assertTargetMatchesType (dto : EnforceDto) (kase : FraudCase) : Call PUnit := do
  require (dto.type = .accountSuspension → dto.targetType = .person)
    (.validation "ACCOUNT_SUSPENSION may only target a PERSON.")
  require (dto.type = .verificationRevocation →
      dto.targetType = .building ∨ dto.targetType = .managerClaim)
    (.validation "VERIFICATION_REVOCATION may only target a BUILDING or MANAGER_CLAIM.")
  assertTarget dto kase

/-- `enforce`: the checks, and then the action with its effect. -/
def enforce (caseId : ℕ) (dto : EnforceDto) (issuedById : ℕ) (requestId : String) (now : Time) :
    Call PUnit := do
  let kase ← getCase caseId
  require (kase.status = .confirmed) (.businessRuleViolation
    "Enforcement actions may only be issued against a CONFIRMED fraud case.")
  assertTargetMatchesType dto kase
  let staff ← query (BackOfficeRepository.getActivePlatformStaff issuedById)
  let staff ← expect staff (.authorization "This action requires platform staff access.")
  FraudCasePolicy.assertCanIssueEnforcement dto.type staff.role
  BackOfficeRepository.createEnforcementActionWithEffect
    { fraudCaseId := caseId, type := dto.type, targetType := dto.targetType,
      targetPersonId := dto.targetPersonId, targetBuildingId := dto.targetBuildingId,
      targetMembershipId := dto.targetMembershipId, reason := dto.reason, issuedById,
      idempotencyKey := s!"{caseId}:{requestId}" }
    now

/-- The action, or `404`. -/
def getAction (actionId : ℕ) : Call EnforcementAction := do
  let action ← query fun s => s.enforcementActions.find? actionId
  expect action (.notFound "Enforcement action not found.")

/-- `appealEnforcement`, of who is concerned. -/
def appealEnforcement (actionId callerPersonId : ℕ) (reason : Option String) (now : Time) :
    Call PUnit := do
  let action ← getAction actionId
  let entitledAppellant ← query (BackOfficeRepository.resolveEnforcementAppellant action)
  FraudCasePolicy.assertCanAppealEnforcement action.appealStatus entitledAppellant callerPersonId
  BackOfficeRepository.requestEnforcementAppeal actionId reason now

/-- How an appeal is decided. -/
inductive AppealDecision
  | uphold
  | overturn
  deriving DecidableEq

/-- The status that a decision leads to. -/
def AppealDecision.status : AppealDecision → EnforcementAppealStatus
  | uphold => .upheld
  | overturn => .overturned

/-- `decideEnforcementAppeal`, about an appeal that was pending when it was read. -/
def decideEnforcementAppeal (actionId : ℕ) (decision : AppealDecision) (deciderPersonId : ℕ)
    (now : Time) : Call PUnit := do
  let action ← getAction actionId
  FraudCasePolicy.assertAppealDecidable action.appealStatus
  BackOfficeRepository.decideEnforcementAppeal actionId decision.status deciderPersonId now

end FraudCaseService

/-! ### `UserAdministrationService` -/

namespace UserAdministrationService

/-- A suspension or a reinstatement, whose reason is only recorded. -/
def changeSuspension (suspend : Bool) (targetPersonId actorPersonId : ℕ) (reason : String) :
    Call PUnit := do
  require (trim reason ≠ "")
    (.validation "A non-empty reason is required.")
  BackOfficeRepository.changePersonSuspensionAtomically { targetPersonId, actorPersonId, suspend }

/-- `suspend`. -/
def suspend (targetPersonId actorPersonId : ℕ) (reason : String) : Call PUnit :=
  changeSuspension true targetPersonId actorPersonId reason

/-- `reinstate`. -/
def reinstate (targetPersonId actorPersonId : ℕ) (reason : String) : Call PUnit :=
  changeSuspension false targetPersonId actorPersonId reason

end UserAdministrationService

end VielHome.Backoffice
