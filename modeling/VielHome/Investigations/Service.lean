import VielHome.Investigations.Repository

/-!
# `FraudCaseService` and `ComplianceCaseService`

The calls of an investigation: opening, assigning and deciding a case of either kind; adding
evidence to a fraud case, enforcing it and reopening it; and the sweep that opens compliance cases.
Every check is made on a read of its own, before the write. What a call records for the audit,
which events it emits, and what it returns is left out.
-/

namespace VielHome.Investigations

open Relational Community
open Relational.ReadCommitted.Prog (expect forEach query require)

/-- The statuses of a case that is not decided yet. -/
def OPEN_STATUSES : List FraudCaseStatus := [.open, .underInvestigation]

/-- A case with one of these is decided. -/
def TERMINAL_STATUSES : List FraudCaseStatus := [.confirmed, .dismissed]

/-- The name of a status, as the messages have it. -/
def statusName : FraudCaseStatus → String
  | .open => "OPEN"
  | .underInvestigation => "UNDER_INVESTIGATION"
  | .confirmed => "CONFIRMED"
  | .dismissed => "DISMISSED"

/-- How a case is decided. -/
inductive Decision
  | confirm
  | dismiss
  deriving DecidableEq

/-- The status that a decision leads to. -/
def Decision.status : Decision → FraudCaseStatus
  | confirm => .confirmed
  | dismiss => .dismissed

/-! ### `FraudCasePolicy` -/

namespace FraudCasePolicy

/-- Only a case that is not decided is looked into. -/
def assertInvestigable (status : FraudCaseStatus) : Call PUnit :=
  require (status ∈ OPEN_STATUSES)
    (.businessRuleViolation s!"Case is already decided (status: {statusName status}).")

/-- Only a case that is decided is opened again. -/
def assertCanReopen (status : FraudCaseStatus) : Call PUnit :=
  require (status ∈ TERMINAL_STATUSES)
    (.businessRuleViolation "Only a decided case (CONFIRMED or DISMISSED) may be reopened.")

end FraudCasePolicy

/-! ### `FraudCaseService` -/

namespace FraudCaseService

/-- `report`: a user reports somebody, or a building. -/
def report (targetPersonId targetBuildingId : Option ℕ) (description : String)
    (reporterPersonId : ℕ) : Call PUnit := do
  require (targetPersonId ≠ none ∨ targetBuildingId ≠ none)
    (.validation "A fraud report must target either a person or a building.")
  BackOfficeRepository.createFraudCase
    { source := .userReport, priority := .normal, reportedById := some reporterPersonId,
      targetPersonId, targetBuildingId, description := some description }

/-- What staff opens a case with. -/
structure OpenCaseDto where
  signalType : FraudSignalType
  targetPersonId : Option ℕ := none
  targetBuildingId : Option ℕ := none
  priority : Option VerificationPriority := none
  description : Option String := none

/-- `openCase`: the staff opens a case. -/
def openCase (params : OpenCaseDto) : Call PUnit := do
  require (params.targetPersonId ≠ none ∨ params.targetBuildingId ≠ none)
    (.validation "A fraud case must target either a person or a building.")
  BackOfficeRepository.createFraudCase
    { source := .systemSignal, signalType := some params.signalType,
      priority := params.priority.getD .normal, targetPersonId := params.targetPersonId,
      targetBuildingId := params.targetBuildingId, description := params.description }

/-- The fraud case, or `404`. -/
def getCase (caseId : ℕ) : Call FraudCase := do
  let kase ← query (BackOfficeRepository.findFraudCaseById caseId)
  expect kase (.notFound "Fraud case not found.")

/-- `assignCase`, to somebody of the staff who may look into it. -/
def assignCase (caseId assigneeId : ℕ) : Call PUnit := do
  let kase ← getCase caseId
  FraudCasePolicy.assertInvestigable kase.status
  let granted ← onCases (Cases.PermissionResolverService.resolve assigneeId)
  require (.fraudManage ∈ granted)
    (.validation "The assignee must be active platform staff with FRAUD_MANAGE.")
  BackOfficeRepository.assignFraudCase caseId assigneeId kase.status

/-- `addEvidence`, to a case that is not decided. -/
def addEvidence (caseId : ℕ) (evidenceNotes : String) (actorPersonId : ℕ) : Call PUnit := do
  let kase ← getCase caseId
  FraudCasePolicy.assertInvestigable kase.status
  BackOfficeRepository.addFraudCaseEvidence caseId evidenceNotes actorPersonId

/-- `decideCase`, about a case that is not decided. -/
def decideCase (caseId : ℕ) (decision : Decision) (reviewerPersonId : ℕ) (reason : Option String)
    (now : Time) : Call PUnit := do
  let kase ← getCase caseId
  FraudCasePolicy.assertInvestigable kase.status
  BackOfficeRepository.decideFraudCase
    { id := caseId, status := decision.status, reviewedById := reviewerPersonId, reason,
      expectedStatus := kase.status }
    now

/-- A decided case is not touched: a new one is opened that links to it. -/
def reopenCase (caseId : ℕ) (newEvidence : String) : Call PUnit := do
  let kase ← getCase caseId
  FraudCasePolicy.assertCanReopen kase.status
  BackOfficeRepository.createFraudCase
    { source := kase.source, signalType := kase.signalType, priority := kase.priority,
      reportedById := kase.reportedById, targetPersonId := kase.targetPersonId,
      targetBuildingId := kase.targetBuildingId, description := some newEvidence,
      isReopen := some true, previousCaseId := some kase.id }

/-- It reads and writes tables of the community only. -/
def enforce (caseId : ℕ) (dto : Backoffice.FraudCaseService.EnforceDto) (issuedById : ℕ)
    (requestId : String) (now : Time) : Call PUnit :=
  onCommunity (Backoffice.FraudCaseService.enforce caseId dto issuedById requestId now)

end FraudCaseService

/-! ### `ComplianceCasePolicy` -/

namespace ComplianceCasePolicy

/-- Only a compliance case that is not decided is looked into. -/
def assertInvestigable (status : FraudCaseStatus) : Call PUnit :=
  require (status ∈ OPEN_STATUSES)
    (.businessRuleViolation s!"Compliance case is already decided (status: {statusName status}).")

end ComplianceCasePolicy

/-! ### `ComplianceCaseService` -/

namespace ComplianceCaseService

/-- How many confirmed frauds are too many. -/
def REPEATED_FRAUD_THRESHOLD : ℕ := 3

/-- How many suspensions are too many. -/
def REPEATED_SUSPENSION_THRESHOLD : ℕ := 2

/-- How many rejected payments are too many. -/
def FINANCIAL_ANOMALY_THRESHOLD : ℕ := 3

/-- What staff opens a case with. -/
structure OpenDto where
  category : ComplianceCaseCategory
  subjectActorId : Option ℕ := none
  linkedEntityType : Option String := none
  linkedEntityId : Option String := none
  sourceAuditLogIds : Option (List String) := none
  description : String
  priority : Option VerificationPriority := none

/-- `open`: the staff opens a compliance case. -/
def «open» (params : OpenDto) (staffPersonId : ℕ) : Call PUnit :=
  BackOfficeRepository.createComplianceCase
    { category := params.category, priority := params.priority,
      subjectActorId := params.subjectActorId, linkedEntityType := params.linkedEntityType,
      linkedEntityId := params.linkedEntityId, sourceAuditLogIds := params.sourceAuditLogIds,
      description := params.description, openedById := some staffPersonId }

/-- The compliance case, or `404`. -/
def getCase (caseId : ℕ) : Call ComplianceCase := do
  let kase ← query (BackOfficeRepository.findComplianceCaseById caseId)
  expect kase (.notFound "Compliance case not found.")

/-- Whether a candidate is active, not suspended, and has the permission. -/
def resolveEligibleAssignee (personId : ℕ) (candidate : PlatformStaff × Person) : Call Bool :=
  if candidate.1.isActive = false ∨ candidate.2.isSuspended = true then pure false
  else do
    let granted ← onCases (Cases.PermissionResolverService.resolve personId)
    pure (decide (.complianceManage ∈ granted))

/-- The case may be given to this person. -/
def requireEligibleAssignee (personId : ℕ) : Call PUnit := do
  let staff ← query (BackOfficeRepository.findComplianceAssigneeCandidate personId)
  let staff ← expect staff (.notFound "Compliance assignee not found.")
  let eligible ← resolveEligibleAssignee personId staff
  require (eligible = true)
    (.businessRuleViolation "Assignee is not eligible for Compliance assignment.")

/-- `assign`: not to who has the case already. -/
def assign (caseId assignedToId : ℕ) : Call PUnit := do
  let kase ← getCase caseId
  ComplianceCasePolicy.assertInvestigable kase.status
  require (¬ (kase.status = .underInvestigation ∧ kase.assignedToId = some assignedToId))
    (.conflict "Compliance case is already assigned to this staff member.")
  requireEligibleAssignee assignedToId
  BackOfficeRepository.assignComplianceCase caseId assignedToId kase.status kase.assignedToId

/-- `decide`, about a case that is not decided. -/
def decide (caseId : ℕ) (decision : Decision) (deciderPersonId : ℕ) (reason : Option String)
    (now : Time) : Call PUnit := do
  let kase ← getCase caseId
  ComplianceCasePolicy.assertInvestigable kase.status
  BackOfficeRepository.decideComplianceCase
    { id := caseId, status := decision.status, decidedById := deciderPersonId,
      decisionReason := reason, expectedStatus := kase.status,
      expectedAssignedToId := kase.assignedToId }
    now

/-- A compliance case that nobody has opened, unless there is one already. -/
def autoOpen (category : ComplianceCaseCategory) (subjectActorId count : ℕ) (describedAs : String) :
    Call PUnit :=
  BackOfficeRepository.createAutoDetectedComplianceCase category subjectActorId
    s!"Auto-detected: {count} {describedAs} for this actor."

/-- The cases for the groups of one signal. -/
def openGroups (category : ComplianceCaseCategory) (describedAs : String)
    (groups : List (ℕ × ℕ)) : Call PUnit :=
  forEach groups fun g => autoOpen category g.1 g.2 describedAs

/-- `detectAnomalies`: a case for everybody who is conspicuous. -/
def detectAnomalies : Call PUnit := do
  let fraudGroups ← query
    (BackOfficeRepository.findPersonsWithRepeatedConfirmedFraud REPEATED_FRAUD_THRESHOLD)
  openGroups .repeatedFraud "CONFIRMED fraud cases" fraudGroups
  let suspensionGroups ← query
    (BackOfficeRepository.findPersonsWithRepeatedSuspensions REPEATED_SUSPENSION_THRESHOLD)
  openGroups .repeatedSuspension "ACCOUNT_SUSPENSION enforcement actions" suspensionGroups
  let financialGroups ← query
    (BackOfficeRepository.findActorsWithRepeatedRejectedPayments FINANCIAL_ANOMALY_THRESHOLD)
  openGroups .financialAnomaly "rejected-payment audit events" financialGroups

end ComplianceCaseService

end VielHome.Investigations
