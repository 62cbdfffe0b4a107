import VielHome.Investigations.Schema

/-!
# `BackOfficeRepository`, what it does with the cases of an investigation

A case is assigned and decided by an `updateMany` that has to match what the service has read: the
status, and of a compliance case also whom it is assigned to. Evidence is added to a fraud case
whatever its status is by then. A compliance case that was detected holds a key in a unique index
until it is decided.
-/

namespace VielHome.Investigations

open Relational Community
open Backoffice.BackOfficeRepository (present)
open Relational.ReadCommitted.Prog (claim query queryUnder transaction writeIf writeUnless)

namespace BackOfficeRepository

/-! ### Fraud cases -/

/-- What a fraud case is made from. -/
structure FraudCaseParams where
  source : FraudCaseSource
  signalType : Option FraudSignalType := none
  priority : VerificationPriority
  reportedById : Option ℕ := none
  targetPersonId : Option ℕ := none
  targetBuildingId : Option ℕ := none
  description : Option String := none
  isReopen : Option Bool := none
  previousCaseId : Option ℕ := none

/-- The case as it is stored. -/
def FraudCaseParams.row (params : FraudCaseParams) (id : ℕ) : FraudCase where
  id := id
  source := params.source
  signalType := params.signalType
  priority := params.priority
  reportedById := params.reportedById
  targetPersonId := params.targetPersonId
  targetBuildingId := params.targetBuildingId
  description := params.description
  isReopen := params.isReopen.getD false
  previousCaseId := params.previousCaseId

theorem FraudCaseParams.row_id (params : FraudCaseParams) (id : ℕ) : (params.row id).id = id := rfl

/-- Why the database refuses the row of a fraud case. -/
def refusesFraudCase (params : FraudCaseParams) (s : Store) : Option Failure :=
  unlessReferences (fun s =>
    present s.persons.find? params.reportedById && present s.persons.find? params.targetPersonId &&
      present s.buildings.find? params.targetBuildingId &&
      present s.fraudCases.find? params.previousCaseId) s.community

/-- `createFraudCase`: an insertion, whose foreign keys are checked. -/
def createFraudCase (params : FraudCaseParams) : Call PUnit :=
  transaction (writeUnless [] (refusesFraudCase params)
    (Store.onFraudCases (·.create params.row params.row_id)))

/-- `findFraudCaseById`. -/
def findFraudCaseById (id : ℕ) (s : Store) : Option FraudCase := s.fraudCases.find? id

/-- The fraud case is there, in this status. -/
def hasStatus (id : ℕ) (status : FraudCaseStatus) (s : Store) : Bool :=
  (findFraudCaseById id s).any fun k => k.status = status

/-- The case is looked into by somebody. -/
def investigated (assignedToId : ℕ) (k : FraudCase) : FraudCase :=
  { k with assignedToId := some assignedToId, status := .underInvestigation }

theorem investigated_id (assignedToId : ℕ) (k : FraudCase) :
    (investigated assignedToId k).id = k.id := rfl

/-- `assignFraudCase`: a compare-and-set on the status. -/
def assignFraudCase (id assignedToId : ℕ) (expectedStatus : FraudCaseStatus) : Call PUnit :=
  transaction (claim (.fraudCase id) (hasStatus id expectedStatus)
    (.conflict "Fraud case status changed; reload and retry.")
    (Store.onFraudCases (·.modify id (investigated assignedToId) (investigated_id assignedToId))))

/-- The case with its latest evidence. -/
def withEvidence (evidenceNotes : String) (k : FraudCase) : FraudCase :=
  { k with evidenceNotes := some evidenceNotes }

theorem withEvidence_id (evidenceNotes : String) (k : FraudCase) :
    (withEvidence evidenceNotes k).id = k.id := rfl

/-- Why the database refuses the row of a piece of evidence. -/
def refusesEvidence (id authorId : ℕ) (s : Store) : Option Failure :=
  unlessReferences
    (fun s => (s.fraudCases.find? id).isSome && (s.persons.find? authorId).isSome) s.community

/-- `addFraudCaseEvidence`: a line of evidence, which the case shows too. -/
def addFraudCaseEvidence (id : ℕ) (evidenceNotes : String) (authorId : ℕ) : Call PUnit :=
  transaction do
    writeUnless [] (refusesEvidence id authorId) (Store.onFraudCaseEvidence (·.create
      (fun i => { id := i, fraudCaseId := id, notes := evidenceNotes, authorId := some authorId })
      fun _ => rfl))
    writeIf [(.fraudCase id, .exclusive)] (fun s => (findFraudCaseById id s).isSome) .recordNotFound
      (Store.onFraudCases (·.modify id (withEvidence evidenceNotes) (withEvidence_id evidenceNotes)))

/-- A decision about a case, with the status that it was read with. -/
structure DecideFraudCaseParams where
  id : ℕ
  status : FraudCaseStatus
  reviewedById : ℕ
  reason : Option String := none
  expectedStatus : FraudCaseStatus

/-- The columns of a fraud case that is decided; no reason leaves the column alone. -/
def DecideFraudCaseParams.decided (params : DecideFraudCaseParams) (now : Time) (k : FraudCase) :
    FraudCase :=
  { k with
    status := params.status
    reviewedById := some params.reviewedById
    reason := params.reason.or k.reason
    decidedAt := some now }

theorem DecideFraudCaseParams.decided_id (params : DecideFraudCaseParams) (now : Time)
    (k : FraudCase) : (params.decided now k).id = k.id := rfl

/-- `decideFraudCase`: a compare-and-set on the status. -/
def decideFraudCase (params : DecideFraudCaseParams) (now : Time) : Call PUnit :=
  transaction (claim (.fraudCase params.id) (hasStatus params.id params.expectedStatus)
    (.conflict "Fraud case status changed; reload and retry.")
    (Store.onFraudCases (·.modify params.id (params.decided now) (params.decided_id now))))

/-! ### Compliance cases -/

/-- What a compliance case is made from. -/
structure ComplianceCaseParams where
  category : ComplianceCaseCategory
  status : Option FraudCaseStatus := none
  priority : Option VerificationPriority := none
  subjectActorId : Option ℕ := none
  linkedEntityType : Option String := none
  linkedEntityId : Option String := none
  sourceAuditLogIds : Option (List String) := none
  description : String
  isAutoDetected : Option Bool := none
  openedById : Option ℕ := none
  activeDetectionKey : Option String := none

/-- The case as it is stored. -/
def ComplianceCaseParams.row (params : ComplianceCaseParams) (id : ℕ) : ComplianceCase where
  id := id
  category := params.category
  status := params.status.getD .open
  priority := params.priority.getD .normal
  subjectActorId := params.subjectActorId
  linkedEntityType := params.linkedEntityType
  linkedEntityId := params.linkedEntityId
  sourceAuditLogIds := params.sourceAuditLogIds.getD []
  description := params.description
  isAutoDetected := params.isAutoDetected.getD false
  openedById := params.openedById
  activeDetectionKey := params.activeDetectionKey

theorem ComplianceCaseParams.row_id (params : ComplianceCaseParams) (id : ℕ) :
    (params.row id).id = id := rfl

/-- A compliance case holds the key. -/
def holdsKey (key : String) (s : Store) : Bool :=
  s.complianceCases.rows.any fun k => k.activeDetectionKey = some key

/-- Why the database refuses the row of a compliance case. -/
def refusesComplianceCase (params : ComplianceCaseParams) (s : Store) : Option Failure :=
  if params.activeDetectionKey.any (holdsKey · s) then some .uniqueConstraint
  else unlessReferences (fun s =>
    present s.persons.find? params.subjectActorId && present s.persons.find? params.openedById)
    s.community

/-- The entry of the unique index that a key is. -/
def keyLock (key : Option String) : List (Lock × ReadCommitted.Mode) :=
  (key.map fun key => (.detectionKey key, .exclusive)).toList

/-- `createComplianceCase`: an insertion, one for each key of a detection. -/
def createComplianceCase (params : ComplianceCaseParams) : Call PUnit :=
  transaction (writeUnless (keyLock params.activeDetectionKey) (refusesComplianceCase params)
    (Store.onComplianceCases (·.create params.row params.row_id)))

/-- The category as it stands in a key. -/
def categoryName : ComplianceCaseCategory → String
  | .repeatedFraud => "REPEATED_FRAUD"
  | .repeatedSuspension => "REPEATED_SUSPENSION"
  | .financialAnomaly => "FINANCIAL_ANOMALY"
  | .other => "OTHER"

/-- What names a detection while it is looked into. -/
def detectionKey (category : ComplianceCaseCategory) (subjectActorId : ℕ) : String :=
  s!"{categoryName category}:{subjectActorId}"

/-- A case that nobody has opened. -/
def detectedParams (category : ComplianceCaseCategory) (subjectActorId : ℕ) (description : String) :
    ComplianceCaseParams where
  category := category
  subjectActorId := some subjectActorId
  description := description
  isAutoDetected := some true
  activeDetectionKey := some (detectionKey category subjectActorId)

/-- A key that is held already is no error. -/
def createAutoDetectedComplianceCase (category : ComplianceCaseCategory) (subjectActorId : ℕ)
    (description : String) : Call PUnit :=
  (createComplianceCase (detectedParams category subjectActorId description)).tryCatch fun
    | .uniqueConstraint => pure ⟨⟩
    | e => .fail e

/-- `findComplianceCaseById`. -/
def findComplianceCaseById (id : ℕ) (s : Store) : Option ComplianceCase := s.complianceCases.find? id

/-- The compliance case is there, in this status and with this assignee. -/
def isExpected (id : ℕ) (status : FraudCaseStatus) (assignedToId : Option ℕ) (s : Store) : Bool :=
  (findComplianceCaseById id s).any fun k => k.status = status ∧ k.assignedToId = assignedToId

/-- The case is looked into by somebody. -/
def assigned (assignedToId : ℕ) (k : ComplianceCase) : ComplianceCase :=
  { k with assignedToId := some assignedToId, status := .underInvestigation }

theorem assigned_id (assignedToId : ℕ) (k : ComplianceCase) : (assigned assignedToId k).id = k.id :=
  rfl

/-- `assignComplianceCase`: a compare-and-set on the status and the assignee. -/
def assignComplianceCase (id assignedToId : ℕ) (expectedStatus : FraudCaseStatus)
    (expectedAssignedToId : Option ℕ) : Call PUnit :=
  transaction (claim (.complianceCase id) (isExpected id expectedStatus expectedAssignedToId)
    (.conflict "Compliance case status changed; reload and retry.")
    (Store.onComplianceCases (·.modify id (assigned assignedToId) (assigned_id assignedToId))))

/-- A decision about a case, with the status that it was read with. -/
structure DecideComplianceCaseParams where
  id : ℕ
  status : FraudCaseStatus
  decidedById : ℕ
  decisionReason : Option String := none
  expectedStatus : FraudCaseStatus
  expectedAssignedToId : Option ℕ

/-- The columns of a compliance case that is decided: it gives its key back. -/
def DecideComplianceCaseParams.decided (params : DecideComplianceCaseParams) (now : Time)
    (k : ComplianceCase) : ComplianceCase :=
  { k with
    status := params.status
    decidedById := some params.decidedById
    decisionReason := params.decisionReason.or k.decisionReason
    decidedAt := some now
    activeDetectionKey := none }

theorem DecideComplianceCaseParams.decided_id (params : DecideComplianceCaseParams) (now : Time)
    (k : ComplianceCase) : (params.decided now k).id = k.id := rfl

/-- Until it commits, an update that gives a key back keeps others from taking it. -/
def decideComplianceCase (params : DecideComplianceCaseParams) (now : Time) : Call PUnit :=
  transaction do
    queryUnder (fun s => keyLock ((findComplianceCaseById params.id s).bind
      ComplianceCase.activeDetectionKey)) fun _ => ()
    claim (.complianceCase params.id)
      (isExpected params.id params.expectedStatus params.expectedAssignedToId)
      (.conflict "Compliance case status changed; reload and retry.")
      (Store.onComplianceCases (·.modify params.id (params.decided now) (params.decided_id now)))

/-! ### Signals of an anomaly -/

/-- `groupBy` of the people a column names, with how often it names them, when that is often
enough. -/
def groupBy (people : List ℕ) (minCount : ℕ) : List (ℕ × ℕ) :=
  (people.dedup.map fun person => (person, people.count person)).filter fun g => minCount ≤ g.2

/-- `findPersonsWithRepeatedConfirmedFraud`: people and how often. -/
def findPersonsWithRepeatedConfirmedFraud (minCount : ℕ) (s : Store) : List (ℕ × ℕ) :=
  groupBy ((s.fraudCases.rows.filter fun k => k.status = .confirmed).filterMap
    FraudCase.targetPersonId) minCount

/-- `findPersonsWithRepeatedSuspensions`: people and how often. -/
def findPersonsWithRepeatedSuspensions (minCount : ℕ) (s : Store) : List (ℕ × ℕ) :=
  groupBy ((s.enforcementActions.rows.filter fun a => a.type = .accountSuspension).filterMap
    EnforcementAction.targetPersonId) minCount

/-- `findActorsWithRepeatedRejectedPayments`: people and how often. -/
def findActorsWithRepeatedRejectedPayments (minCount : ℕ) (s : Store) : List (ℕ × ℕ) :=
  groupBy ((s.auditLogs.rows.filter fun l => l.action = "PaymentRejected").filterMap
    AuditLog.actorId) minCount

/-! ### Assignees -/

/-- The staff row of a person, whether it is active or not, and the person. -/
def findComplianceAssigneeCandidate (personId : ℕ) (s : Store) : Option (PlatformStaff × Person) :=
  (s.platformStaff.rows.find? fun t => t.personId = personId).bind fun staff =>
    (s.persons.find? staff.personId).map fun person => (staff, person)

end BackOfficeRepository

end VielHome.Investigations
