import VielHome.BuildingVerification.Schema

/-!
# `BuildingVerificationService`

A new building is evaluated, which puts a case into the queue or approves it at once; a reviewer
decides an open case; and the creator of a rejected building appeals, which opens a case of its
own. Each call writes a case and then the status of the building, in two transactions. From the
read that it decides by until the last of these writes it relies on nobody else being at work on
the verification of the building. What a call records for the audit, which events it emits, and
what it returns is left out.
-/

namespace VielHome.BuildingVerification

open Relational
open Relational.ReadCommitted (Mode Prog)
open Relational.ReadCommitted.Prog (commitKeeping expect query queryUnder require transaction
  writeIf writeUnless)
open Community (BuildingStatus Time VerificationPriority)

/-! ### `BuildingVerificationPolicy` -/

namespace BuildingVerificationPolicy

/-- How doubtful a building is, and why. -/
structure BuildingRiskResult where
  score : ℕ
  flags : List String

/-- `evaluateRisk`: a building is doubtful when there is one like it. -/
def evaluateRisk (hasSimilarAddressBuilding : Bool) : BuildingRiskResult :=
  if hasSimilarAddressBuilding then
    { score := 50, flags := ["SIMILAR_ADDRESS_DIFFERENT_POSTAL_CODE"] }
  else { score := 0, flags := [] }

/-- `isAutoApproved`: there is nothing to doubt. -/
def isAutoApproved (riskScore : ℕ) : Bool := riskScore = 0

/-- A case with one of these is still to be decided. -/
def DECIDABLE_STATUSES : List BuildingStatus := [.pending, .underReview, .pendingInformation]

/-- The name of a status, as the messages have it. -/
def statusName : BuildingStatus → String
  | .pending => "PENDING"
  | .underReview => "UNDER_REVIEW"
  | .verified => "VERIFIED"
  | .rejected => "REJECTED"
  | .merged => "MERGED"
  | .pendingInformation => "PENDING_INFORMATION"

/-- A case is decided once. -/
def assertDecidable (status : BuildingStatus) : Call PUnit :=
  require (status ∈ DECIDABLE_STATUSES)
    (.businessRuleViolation s!"Case is already decided (status: {statusName status}).")

/-- Only who has created the building appeals, and only against a rejection. -/
def assertCanAppeal (status : BuildingStatus) (callerPersonId creatorId : ℕ) : Call PUnit := do
  require (status = .rejected)
    (.businessRuleViolation "Only a rejected building may be appealed.")
  require (callerPersonId = creatorId)
    (.authorization "Only the building's creator may submit an appeal.")

end BuildingVerificationPolicy

/-! ### The repositories -/

namespace BuildingRepository

/-- `findSimilarAddressBuildings`: is there one? -/
def hasSimilarAddressBuilding (city district mainStreet : String)
    (excludeBuildingId excludeCreatedById : ℕ) (s : Store) : Bool :=
  s.buildings.rows.any fun b => b.city = city ∧ b.district = district ∧
    b.mainStreet = mainStreet ∧ b.id ≠ excludeBuildingId ∧ b.createdById ≠ excludeCreatedById

/-- The building with another status. -/
def withStatus (status : BuildingStatus) (b : Building) : Building := { b with status }

theorem withStatus_id (status : BuildingStatus) (b : Building) : (withStatus status b).id = b.id :=
  rfl

/-- `updateBuildingStatus`: an update by the id. -/
def updateBuildingStatus (buildingId : ℕ) (status : BuildingStatus) : Call PUnit :=
  transaction (writeIf [(.row .building buildingId, .exclusive)]
    (fun s => (s.buildings.find? buildingId).isSome) .recordNotFound
    fun s => s.onBuildings (·.modify buildingId (withStatus status) (withStatus_id status)))

end BuildingRepository

namespace BackOfficeRepository

/-- What a case is made from. -/
structure CaseParams where
  buildingId : ℕ
  status : BuildingStatus
  priority : VerificationPriority
  riskScore : ℕ
  riskFlags : List String
  isAppeal : Bool := false
  previousCaseId : Option ℕ := none
  decision : Option BuildingVerificationDecision := none
  reason : Option String := none
  decidedAt : Option Time := none

/-- The case as it is stored. -/
def CaseParams.row (params : CaseParams) (id : ℕ) : BuildingVerificationCase where
  id := id
  buildingId := params.buildingId
  status := params.status
  priority := params.priority
  riskScore := params.riskScore
  riskFlags := params.riskFlags
  isAppeal := params.isAppeal
  previousCaseId := params.previousCaseId
  decision := params.decision
  reason := params.reason
  decidedAt := params.decidedAt

theorem CaseParams.row_id (params : CaseParams) (id : ℕ) : (params.row id).id = id := rfl

/-- `createBuildingVerificationCase`: an insertion, whose foreign key is checked. -/
def createBuildingVerificationCase (params : CaseParams) : Call PUnit := do
  writeUnless [(.verification params.buildingId, .exclusive)]
    (fun s => if (s.buildings.find? params.buildingId).isSome then none else some .foreignKey)
    fun s => s.onCases (·.create params.row params.row_id)
  commitKeeping [.verification params.buildingId]

/-- A decision about a case, as it is written. -/
structure DecisionParams where
  id : ℕ
  status : BuildingStatus
  decision : BuildingVerificationDecision
  reviewedById : ℕ
  reason : Option String

/-- The case after the decision. -/
def DecisionParams.apply (params : DecisionParams) (now : Time) (k : BuildingVerificationCase) :
    BuildingVerificationCase :=
  { k with
    status := params.status
    decision := some params.decision
    reviewedById := some params.reviewedById
    reason := params.reason.or k.reason
    decidedAt := some now }

theorem DecisionParams.apply_id (params : DecisionParams) (now : Time)
    (k : BuildingVerificationCase) : (params.apply now k).id = k.id := rfl

/-- An `update` by id, whatever the status of the case. -/
def decideBuildingVerificationCase (params : DecisionParams) (buildingId : ℕ) (now : Time) :
    Call PUnit := do
  writeIf [(.row .buildingVerificationCase params.id, .exclusive)]
    (fun s => (s.cases.find? params.id).isSome) .recordNotFound
    fun s => s.onCases (·.modify params.id (params.apply now) (params.apply_id now))
  commitKeeping [.verification buildingId]

end BackOfficeRepository

/-! ### `BuildingVerificationService` -/

namespace BuildingVerificationService

/-- A new building. -/
structure EvaluateParams where
  buildingId : ℕ
  city : String
  district : String
  mainStreet : String
  createdById : ℕ

/-- The case of a new building that was found to be at some risk. -/
def evaluated (buildingId : ℕ) (risk : BuildingVerificationPolicy.BuildingRiskResult)
    (now : Time) : BackOfficeRepository.CaseParams :=
  let autoApproved := BuildingVerificationPolicy.isAutoApproved risk.score
  { buildingId
    status := if autoApproved then .verified else .underReview
    priority := if 50 ≤ risk.score then .high else .normal
    riskScore := risk.score
    riskFlags := risk.flags
    decision := if autoApproved then some .approve else none
    reason := if autoApproved then some "Auto-approved: no risk flags." else none
    decidedAt := if autoApproved then some now else none }

/-- `evaluateNewBuilding`: a case for the building, decided at once where there is nothing to doubt.
-/
def evaluateNewBuilding (params : EvaluateParams) (now : Time) : Call PUnit := do
  let similar ← query (BuildingRepository.hasSimilarAddressBuilding params.city params.district
    params.mainStreet params.buildingId params.createdById)
  let kase := evaluated params.buildingId (BuildingVerificationPolicy.evaluateRisk similar) now
  BackOfficeRepository.createBuildingVerificationCase kase
  BuildingRepository.updateBuildingStatus params.buildingId kase.status

/-- The lock of a case that a call has found and is about to decide. -/
def deciding (found : Option BuildingVerificationCase) : List (Lock × Mode) :=
  match found with
  | some k =>
    if k.status ∈ BuildingVerificationPolicy.DECIDABLE_STATUSES then
      [(.verification k.buildingId, .exclusive)]
    else []
  | none => []

/-- The case, or `404`. -/
def getCase (caseId : ℕ) : Call BuildingVerificationCase := do
  let kase ← queryUnder (fun s => deciding (s.cases.find? caseId)) fun s => s.cases.find? caseId
  expect kase (.notFound "Building verification case not found.")

/-- The status that a decision leads to. -/
def DECISION_TO_STATUS : BuildingVerificationDecision → BuildingStatus
  | .approve => .verified
  | .reject => .rejected
  | .requestInformation => .pendingInformation

/-- `decideCase`, about a case that was still to be decided when it was read. -/
def decideCase (caseId : ℕ) (decision : BuildingVerificationDecision) (reviewerPersonId : ℕ)
    (reason : Option String) (now : Time) : Call PUnit := do
  let kase ← getCase caseId
  BuildingVerificationPolicy.assertDecidable kase.status
  BackOfficeRepository.decideBuildingVerificationCase
    { id := caseId, status := DECISION_TO_STATUS decision, decision,
      reviewedById := reviewerPersonId, reason }
    kase.buildingId now
  BuildingRepository.updateBuildingStatus kase.buildingId (DECISION_TO_STATUS decision)

/-- The lock of a building whose latest case a call has found and is about to appeal against. -/
def appealing (callerPersonId creatorId : ℕ) (latest : Option BuildingVerificationCase) :
    List (Lock × Mode) :=
  match latest with
  | some k =>
    if k.status = .rejected ∧ callerPersonId = creatorId then
      [(.verification k.buildingId, .exclusive)]
    else []
  | none => []

/-- The case that an appeal opens. -/
def appealOf (latest : BuildingVerificationCase) (buildingId : ℕ) :
    BackOfficeRepository.CaseParams where
  buildingId := buildingId
  status := .underReview
  priority := .normal
  riskScore := latest.riskScore
  riskFlags := latest.riskFlags
  isAppeal := true
  previousCaseId := some latest.id

/-- `appealCase`, of who has created the building. -/
def appealCase (buildingId callerPersonId : ℕ) : Call PUnit := do
  let building ← query fun s => s.buildings.find? buildingId
  let building ← expect building (.notFound "Building not found.")
  let latest ← queryUnder
    (fun s => appealing callerPersonId building.createdById (s.latestCase buildingId))
    fun s => s.latestCase buildingId
  let latest ← expect latest (.notFound "No verification case found for this building.")
  BuildingVerificationPolicy.assertCanAppeal latest.status callerPersonId building.createdById
  BackOfficeRepository.createBuildingVerificationCase (appealOf latest buildingId)
  BuildingRepository.updateBuildingStatus buildingId .underReview

end BuildingVerificationService

end VielHome.BuildingVerification
