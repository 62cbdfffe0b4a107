import VielHome.Backoffice.Policies
import VielHome.Building.Repository
import VielHome.Relational.OrderBy

/-!
# `BackOfficeRepository`

The statements about manager verification cases, their approvals and enforcement actions.
A transaction first takes an advisory lock that names its case. An `updateMany` of one row
whose count is checked is a claim on that row: the row is looked for in the snapshot of the
statement, and again once it is free. The look for a competing manager locks nothing.
-/

namespace VielHome.Backoffice

open Relational Community
open Relational.ReadCommitted (Mode)
open Relational.ReadCommitted.Prog (query queryUnder write writeIf writeUnless claim expect require
  transaction)

/-! ### Statements on one table -/

/-- `pg_advisory_xact_lock`. -/
def advisoryLock (lock : Lock) : Call PUnit := write [(lock, .exclusive)] id

/-- `managerVerificationCase.updateMany` of one case, which has to match. -/
def claimCase (id : ℕ) (p : ManagerVerificationCase → Bool) (e : Failure)
    (f : ManagerVerificationCase → ManagerVerificationCase)
    (h : ∀ k, (f k).id = k.id := by intro _; exact rfl) : Call PUnit :=
  claim (.row .managerVerificationCase id) (fun s => (s.cases.find? id).any p) e
    (Store.onCases (·.modify id f h))

/-- `membership.updateMany` of one membership, which has to match. -/
def claimMembership (id : ℕ) (p : Membership → Bool) (e : Failure) (f : Membership → Membership)
    (h : ∀ m, (f m).id = m.id := by intro _; exact rfl) : Call PUnit :=
  claim (.row .membership id) (fun s => (s.memberships.find? id).any p) e
    (Store.onMemberships (·.modify id f h))

/-- `building.updateMany` of one building, which has to match. -/
def claimBuilding (id : ℕ) (p : Building → Bool) (e : Failure) (f : Building → Building)
    (h : ∀ b, (f b).id = b.id := by intro _; exact rfl) : Call PUnit :=
  claim (.row .building id) (fun s => (s.buildings.find? id).any p) e
    (Store.onBuildings (·.modify id f h))

/-- `person.updateMany` of one person, which has to match. The columns that are written are
those of a suspension. -/
def claimPerson (id : ℕ) (p : Person → Bool) (e : Failure) (f : Person → Person)
    (h : ∀ r, (f r).id = r.id := by intro _; exact rfl) : Call PUnit := do
  let found ← queryUnder (fun _ => [(.suspension id, .exclusive)])
    fun s => (s.persons.find? id).any p
  require (found = true) e
  writeIf [(.row .person id, .exclusive)] (fun s => (s.persons.find? id).any p) e
    (Store.onPersons (·.modify id f h))

/-- `enforcementAction.updateMany` of one action, which has to match. -/
def claimAction (id : ℕ) (p : EnforcementAction → Bool) (e : Failure)
    (f : EnforcementAction → EnforcementAction)
    (h : ∀ a, (f a).id = a.id := by intro _; exact rfl) : Call PUnit :=
  claim (.row .enforcementAction id) (fun s => (s.enforcementActions.find? id).any p) e
    (Store.onEnforcementActions (·.modify id f h))

/-- `managerVerificationCase.create`. -/
def insertCase (mk : ℕ → ManagerVerificationCase)
    (h : ∀ id, (mk id).id = id := by intro _; exact rfl) : Call PUnit :=
  writeUnless []
    (unlessReferences fun s =>
      (s.buildings.find? (mk 0).buildingId).isSome &&
        (s.memberships.find? (mk 0).membershipId).isSome &&
        (s.persons.find? (mk 0).candidateId).isSome)
    (Store.onCases (·.create mk h))

namespace BackOfficeRepository

/-- `getActivePlatformStaff`. -/
def getActivePlatformStaff (personId : ℕ) (s : Store) : Option PlatformStaff :=
  s.platformStaff.rows.find? fun staff => staff.personId = personId ∧ staff.isActive = true

/-- An active `PLATFORM_ADMIN`. -/
def isActiveAdmin (staff : PlatformStaff) : Bool :=
  staff.role = .platformAdmin ∧ staff.isActive = true

/-- The person is an active `PLATFORM_ADMIN`. -/
def isAdmin (personId : ℕ) (s : Store) : Bool :=
  s.platformStaff.rows.any fun staff => staff.personId = personId ∧ isActiveAdmin staff = true

/-- An active `PLATFORM_ADMIN` whose person is not suspended. -/
def isUsableAdmin (s : Store) (staff : PlatformStaff) : Bool :=
  isActiveAdmin staff = true ∧
    (s.persons.find? staff.personId).any (fun r => r.isSuspended = false) = true

/-! ### Manager verification: cases -/

/-- What a case is made from. -/
structure CreateManagerVerificationCaseParams where
  buildingId : ℕ
  membershipId : ℕ
  candidateId : ℕ
  priority : VerificationPriority
  isReverification : Option Bool := none

/-- `createManagerVerificationCase`: an insertion. -/
def createManagerVerificationCase (params : CreateManagerVerificationCaseParams) (now : Time) :
    Call PUnit :=
  transaction (insertCase fun id =>
    { id, buildingId := params.buildingId, membershipId := params.membershipId,
      candidateId := params.candidateId, priority := params.priority,
      isReverification := params.isReverification.getD false, createdAt := now })

/-- `getOpenManagerVerificationCaseForBuilding`: a pending case of the building. -/
def getOpenManagerVerificationCaseForBuilding (buildingId : ℕ) (s : Store) :
    Option ManagerVerificationCase :=
  s.cases.rows.find? fun k => k.buildingId = buildingId ∧ k.status = .pending

/-- `findLatestManagerVerificationCaseForBuilding`. -/
def findLatestManagerVerificationCaseForBuilding (buildingId : ℕ) (s : Store) :
    Option ManagerVerificationCase :=
  ((s.cases.rows.filter fun k => k.buildingId = buildingId).insertionSort
    fun k k' => k'.createdAt ≤ k.createdAt).head?

/-- The position of a priority in its enumeration, by which it is sorted. -/
def priorityOrder : VerificationPriority → ℕ
  | .low => 0
  | .normal => 1
  | .high => 2
  | .critical => 3

/-- All cases, the most urgent first and among those the oldest first. -/
def listManagerVerificationCases (s : Store) : List ManagerVerificationCase :=
  s.cases.rows.insertionSort (ThenBy
    (fun k k' : ManagerVerificationCase => priorityOrder k'.priority ≤ priorityOrder k.priority)
    (fun k k' : ManagerVerificationCase => k.createdAt ≤ k'.createdAt))

/-- `findActiveManagerVerificationReverification`. -/
def findActiveManagerVerificationReverification (buildingId candidateId : ℕ) (s : Store) :
    Option ManagerVerificationCase :=
  s.cases.rows.find? fun k =>
    k.buildingId = buildingId ∧ k.candidateId = candidateId ∧ k.isReverification = true ∧
      k.status = .pending

/-- `findManagerVerificationApproval`: the approval of one owner. -/
def findManagerVerificationApproval (caseId ownerPersonId : ℕ) (s : Store) :
    Option ManagerVerificationApproval :=
  s.approvals.rows.find? fun a => a.caseId = caseId ∧ a.ownerPersonId = ownerPersonId

/-! ### Manager verification: decisions -/

/-- Some other membership is the current manager's. -/
def hasCompetingManager (buildingId membershipId : ℕ) (s : Store) : Bool :=
  s.memberships.rows.any fun m => m.IsManagerOf buildingId ∧ m.id ≠ membershipId

/-- What a look for a competing manager that finds none would have to lock. -/
def lookedForCompetingManager (buildingId membershipId : ℕ) (s : Store) : List (Lock × Mode) :=
  if hasCompetingManager buildingId membershipId s then [] else [(.managers buildingId, .exclusive)]

/-- The read decides about an update after it, and locks nothing. -/
def refuseCompetingManager (buildingId membershipId : ℕ) : Call PUnit := do
  let competing ← queryUnder (lookedForCompetingManager buildingId membershipId)
    (hasCompetingManager buildingId membershipId)
  require (competing = false) (.conflict "Another current manager exists for this building.")

/-- The columns of a verified manager's membership. -/
def verified (m : Membership) : Membership :=
  { m with managerState := some .verified, isCurrent := true, endedAt := none }

/-- The columns of the membership that a decision is about. -/
def decided (decision : ManagerVerificationDecision) (now : Time) (m : Membership) : Membership :=
  match decision with
  | .approve => verified m
  | .reject =>
    { m with managerState := some .former, isCurrent := false, endedAt := some now }
  | .suspend | .restore =>
    { m with managerState := some .suspended, isCurrent := true, endedAt := none }

theorem decided_id (decision : ManagerVerificationDecision) (now : Time) (m : Membership) :
    (decided decision now m).id = m.id := by
  cases decision <;> rfl

/-- The columns of the building that a decision is about. -/
def recoveryMode (entered : Option Time) (b : Building) : Building :=
  { b with recoveryModeEnteredAt := entered }

theorem recoveryMode_id (entered : Option Time) (b : Building) :
    (recoveryMode entered b).id = b.id := rfl

/-- A decision about a case, as it is written. -/
structure DecideParams where
  id : ℕ
  buildingId : ℕ
  membershipId : ℕ
  candidateId : ℕ
  status : ManagerVerificationStatus
  decision : ManagerVerificationDecision
  verificationSource : Option ManagerVerificationSource := none
  reviewedById : ℕ
  reason : Option String := none

/-- The columns of a case that is decided. -/
def DecideParams.apply (params : DecideParams) (now : Time) (k : ManagerVerificationCase) :
    ManagerVerificationCase :=
  { k with
    status := params.status
    decision := some params.decision
    verificationSource := params.verificationSource.or k.verificationSource
    reviewedById := some params.reviewedById
    reason := params.reason.or k.reason
    decidedAt := some now }

theorem DecideParams.apply_id (params : DecideParams) (now : Time) (k : ManagerVerificationCase) :
    (params.apply now k).id = k.id := rfl

/-- A rejection ends a membership, whoever else manages the building. -/
def DecideParams.refuseCompetingManager (params : DecideParams) : Call PUnit :=
  if params.decision ≠ .reject then
    BackOfficeRepository.refuseCompetingManager params.buildingId params.membershipId
  else pure ⟨⟩

/-- When the building has been in Recovery Mode since the decision. -/
def DecideParams.recoveryModeEnteredAt (params : DecideParams) (now : Time) : Option Time :=
  if params.decision = .approve then none else some now

/-- `decideManagerVerificationCaseAtomically`: a compare-and-set on the case, and what follows for
the manager. -/
def decideManagerVerificationCaseAtomically (params : DecideParams) (now : Time) : Call PUnit :=
  transaction do
    advisoryLock (.verificationCase params.id)
    claimCase params.id (fun k => k.status = .pending)
      (.conflict "Manager verification case status changed; reload and retry.")
      (params.apply now) (params.apply_id now)
    params.refuseCompetingManager
    claimMembership params.membershipId
      (fun m => m.buildingId = params.buildingId ∧ m.personId = params.candidateId)
      (.conflict "Manager membership changed; reload and retry.")
      (decided params.decision now) (decided_id params.decision now)
    claimBuilding params.buildingId (fun _ => true)
      (.conflict "Building changed; reload and retry.")
      (recoveryMode (params.recoveryModeEnteredAt now)) (recoveryMode_id _)

/-- A restored or appealed case for the same claim exists. -/
def hasReverification (suspended : ManagerVerificationCase)
    (p : ManagerVerificationCase → Bool) (s : Store) : Bool :=
  s.cases.rows.any fun k =>
    k.buildingId = suspended.buildingId ∧ k.membershipId = suspended.membershipId ∧
      k.candidateId = suspended.candidateId ∧ k.isReverification = true ∧ p k = true

/-- The suspended case stays as it is; a new case records the restoration. -/
def restoreManagerVerificationCaseAtomically (suspendedCaseId reviewerPersonId : ℕ)
    (reason : Option String) (now : Time) : Call PUnit :=
  transaction do
    advisoryLock (.verificationRestore suspendedCaseId)
    let suspended ← query fun s => s.cases.find? suspendedCaseId
    let suspended ← expect suspended
      (.conflict "Manager verification case changed; reload and retry.")
    require (suspended.status = .suspended)
      (.conflict "Manager verification case is no longer restorable.")
    let existing ← query (hasReverification suspended fun k => k.decision = some .restore)
    require (existing = false) (.conflict "Manager verification case was already restored.")
    insertCase fun id =>
      { id, buildingId := suspended.buildingId, membershipId := suspended.membershipId,
        candidateId := suspended.candidateId, priority := .normal, isReverification := true,
        status := .verified, decision := some .restore, verificationSource := some .adminReview,
        reviewedById := some reviewerPersonId, reason, decidedAt := some now, createdAt := now }
    refuseCompetingManager suspended.buildingId suspended.membershipId
    claimMembership suspended.membershipId
      (fun m => m.buildingId = suspended.buildingId ∧ m.personId = suspended.candidateId ∧
        m.managerState = some .suspended)
      (.conflict "Suspended manager membership changed; reload and retry.") verified
    claimBuilding suspended.buildingId (fun _ => true)
      (.conflict "Building changed; reload and retry.") (recoveryMode none) (recoveryMode_id none)

/-! ### Manager verification: approvals of the owners -/

/-- `managerVerificationApproval.create`, which turns a duplicate into its own error. -/
def insertApproval (caseId ownerPersonId : ℕ) : Call PUnit :=
  writeUnless [(.approvalKey caseId ownerPersonId, .exclusive)]
    (fun s =>
      if (findManagerVerificationApproval caseId ownerPersonId s).isSome then
        some (.duplicate "Owner approval was already recorded.")
      else unlessReferences
        (fun s => (s.cases.find? caseId).isSome && (s.persons.find? ownerPersonId).isSome) s)
    (Store.onApprovals (·.create fun id => { id, caseId, ownerPersonId }))

/-- How many approvals a case has. -/
def approverCount (caseId : ℕ) (s : Store) : ℕ :=
  (s.approvals.rows.filter fun a => a.caseId = caseId).length

/-- How many people own something in the building. -/
def totalOwners (buildingId : ℕ) (s : Store) : ℕ :=
  ((s.memberships.rows.filter fun m =>
    m.buildingId = buildingId ∧ m.role = .owner ∧ m.isCurrent = true).map
      Membership.personId).dedup.length

/-- What a cast approval has led to. -/
structure CastApproval where
  resolved : Bool
  approverCount : ℕ
  totalOwners : ℕ
  deriving DecidableEq

/-- The columns of a case that its owners have approved. -/
def approvedByOwners (requiredApprovalPercent approverCount totalOwners : ℕ) (now : Time)
    (k : ManagerVerificationCase) : ManagerVerificationCase :=
  { k with
    status := .verified
    decision := some .approve
    verificationSource := some .ownerApproval
    reason := some s!"Approved by {approverCount}/{totalOwners} current owners (>= {requiredApprovalPercent}% required)."
    decidedAt := some now }

theorem approvedByOwners_id (requiredApprovalPercent approverCount totalOwners : ℕ) (now : Time)
    (k : ManagerVerificationCase) :
    (approvedByOwners requiredApprovalPercent approverCount totalOwners now k).id = k.id := rfl

/-- The case, its membership and its building after the last approval that was needed. -/
def resolveByOwners (kase : ManagerVerificationCase) (approverCount totalOwners : ℕ) (now : Time) :
    Call PUnit := do
  claimCase kase.id (fun k => k.status = .pending)
    (.conflict "Manager verification case status changed; reload and retry.")
    (approvedByOwners kase.requiredApprovalPercent approverCount totalOwners now)
    (approvedByOwners_id _ _ _ now)
  refuseCompetingManager kase.buildingId kase.membershipId
  claimMembership kase.membershipId
    (fun m => m.buildingId = kase.buildingId ∧ m.personId = kase.candidateId)
    (.conflict "Manager membership changed.") verified
  claimBuilding kase.buildingId (fun _ => true)
    (.conflict "Building changed; reload and retry.") (recoveryMode none) (recoveryMode_id none)

/-- `castManagerVerificationApprovalAtomically`: an owner approves, and is counted once. -/
def castManagerVerificationApprovalAtomically (caseId ownerPersonId : ℕ) (now : Time) :
    Call CastApproval :=
  transaction do
    advisoryLock (.verificationCase caseId)
    let kase ← query fun s => s.cases.find? caseId
    let kase ← expect (kase.filter fun k => k.status = .pending)
      (.conflict "Manager verification case status changed; reload and retry.")
    let duplicate ← query (findManagerVerificationApproval caseId ownerPersonId)
    require (duplicate = none) (.duplicate "Owner approval was already recorded.")
    insertApproval caseId ownerPersonId
    let approverCount ← query (approverCount caseId)
    let totalOwners ← query (totalOwners kase.buildingId)
    if 0 < totalOwners ∧ totalOwners * kase.requiredApprovalPercent ≤ approverCount * 100 then do
      resolveByOwners kase approverCount totalOwners now
      pure { resolved := true, approverCount, totalOwners }
    else pure { resolved := false, approverCount, totalOwners }

/-- A rejected candidate's appeal is a new case. -/
def createManagerVerificationAppealAtomically (sourceCaseId callerPersonId : ℕ) (now : Time) :
    Call PUnit :=
  transaction do
    advisoryLock (.verificationAppeal sourceCaseId)
    let source ← query fun s => s.cases.find? sourceCaseId
    let source ← expect
      (source.filter fun k => k.status = .rejected ∧ k.candidateId = callerPersonId)
      (.conflict "Manager verification appeal source changed; reload and retry.")
    let existing ← query (hasReverification source fun k => k.status = .pending)
    require (existing = false) (.conflict "A manager verification appeal is already pending.")
    insertCase fun id =>
      { id, buildingId := source.buildingId, membershipId := source.membershipId,
        candidateId := source.candidateId, priority := .high, isReverification := true,
        createdAt := now }

/-! ### Enforcement actions -/

/-- What an action is made from. -/
structure EnforcementParams where
  fraudCaseId : ℕ
  type : EnforcementActionType
  targetType : EnforcementTargetType
  targetPersonId : Option ℕ := none
  targetBuildingId : Option ℕ := none
  targetMembershipId : Option ℕ := none
  reason : Option String := none
  issuedById : ℕ
  idempotencyKey : String

/-- What an action does to its target. -/
inductive EnforcementEffect
  | suspendAccount (personId : ℕ)
  | revokeBuilding (buildingId : ℕ)
  | revokeManagerClaim (membershipId buildingId : ℕ)
  deriving DecidableEq

/-- An action of this type against this target, as it is issued and as it is overturned. The
other actions are only recorded. -/
def enforcementEffect (type : EnforcementActionType) (targetType : EnforcementTargetType)
    (targetPersonId targetBuildingId targetMembershipId : Option ℕ) : Option EnforcementEffect :=
  match type, targetType, targetPersonId, targetBuildingId, targetMembershipId with
  | .accountSuspension, _, some personId, _, _ => some (.suspendAccount personId)
  | .verificationRevocation, .building, _, some buildingId, _ => some (.revokeBuilding buildingId)
  | .verificationRevocation, .managerClaim, _, some buildingId, some membershipId =>
    some (.revokeManagerClaim membershipId buildingId)
  | _, _, _, _, _ => none

/-- What the action does to its target, if anything. -/
def EnforcementParams.effect (params : EnforcementParams) : Option EnforcementEffect :=
  enforcementEffect params.type params.targetType params.targetPersonId params.targetBuildingId
    params.targetMembershipId

/-- What an action does when it is overturned. -/
def reversedEffect (action : EnforcementAction) : Option EnforcementEffect :=
  enforcementEffect action.type action.targetType action.targetPersonId action.targetBuildingId
    action.targetMembershipId

/-- The columns of a manager's membership that loses its verification: it stays current. -/
def suspendedClaim (m : Membership) : Membership := { m with managerState := some .suspended }

theorem suspendedClaim_id (m : Membership) : (suspendedClaim m).id = m.id := rfl

/-- What the read of a person that is to be suspended would have to lock: whether the person
is suspended, and for an admin which of them are usable. -/
def lookedForTarget (personId : ℕ) (s : Store) : List (Lock × Mode) :=
  (.suspension personId, .exclusive) ::
    if isAdmin personId s = true then [(.usableAdmins, .shared)] else []

/-- Apply the effect of an action, and return what it found. -/
def applyEffect (now : Time) : Option EnforcementEffect → Call (Option PreviousTargetState)
  | some (.suspendAccount personId) => do
    let target ← queryUnder (lookedForTarget personId) fun s => s.persons.find? personId
    let target ← expect target .recordNotFound
    Building.updatePerson target.id fun r => { r with isSuspended := true }
    pure (some (.person target.isSuspended))
  | some (.revokeBuilding buildingId) => do
    let target ← query fun s => s.buildings.find? buildingId
    let target ← expect target .recordNotFound
    Building.updateBuilding target.id fun b => { b with status := .rejected }
    pure (some (.building target.status))
  | some (.revokeManagerClaim membershipId buildingId) => do
    let membership ← query fun s => s.memberships.find? membershipId
    let membership ← expect membership .recordNotFound
    let building ← query fun s => s.buildings.find? buildingId
    let building ← expect building .recordNotFound
    require (membership.buildingId = building.id)
      (.validation "The manager claim does not belong to the target building.")
    Building.updateMembership membership.id suspendedClaim suspendedClaim_id
    Building.updateBuilding building.id (recoveryMode (some now)) (recoveryMode_id (some now))
    pure (some (.managerClaim membership.managerState building.recoveryModeEnteredAt))
  | none => pure none

/-- The action with a key, of which there is one. -/
def findEnforcementActionByKey (idempotencyKey : String) (s : Store) : Option EnforcementAction :=
  s.enforcementActions.rows.find? fun a => a.idempotencyKey = some idempotencyKey

/-- A reference that is null, or to a row that is there. -/
def present {α : Type} (find? : ℕ → Option α) : Option ℕ → Bool
  | some id => (find? id).isSome
  | none => true

/-- Why the database refuses the row of an action. -/
def refusesAction (params : EnforcementParams) (s : Store) : Option Failure :=
  if (findEnforcementActionByKey params.idempotencyKey s).isSome then some .uniqueConstraint
  else unlessReferences
    (fun s => (s.fraudCases.find? params.fraudCaseId).isSome &&
      (s.persons.find? params.issuedById).isSome && present s.persons.find? params.targetPersonId &&
      present s.buildings.find? params.targetBuildingId &&
      present s.memberships.find? params.targetMembershipId) s

/-- `enforcementAction.create`. -/
def insertAction (params : EnforcementParams) (previousTargetState : Option PreviousTargetState) :
    Call PUnit :=
  writeUnless [(.idempotencyKey params.idempotencyKey, .exclusive)] (refusesAction params)
    (Store.onEnforcementActions (·.create fun id =>
      { id, fraudCaseId := params.fraudCaseId, type := params.type, targetType := params.targetType,
        targetPersonId := params.targetPersonId, targetBuildingId := params.targetBuildingId,
        targetMembershipId := params.targetMembershipId, reason := params.reason,
        issuedById := params.issuedById, idempotencyKey := some params.idempotencyKey,
        effectApplied := params.effect.isSome, previousTargetState }))

/-- The effect and the record of an action commit together. -/
def issueAction (params : EnforcementParams) (now : Time) : Call PUnit := transaction do
  let previousTargetState ← applyEffect now params.effect
  insertAction params previousTargetState

/-- An action whose key was taken meanwhile is the one that has it. -/
def recoverAction (idempotencyKey : String) : Failure → Call PUnit
  | .uniqueConstraint => do
    let action ← query (findEnforcementActionByKey idempotencyKey)
    let _ ← expect action .recordNotFound
    pure ⟨⟩
  | e => .fail e

/-- `createEnforcementActionWithEffect`: an action that has the key already is returned instead. -/
def createEnforcementActionWithEffect (params : EnforcementParams) (now : Time) : Call PUnit := do
  let existing ← query (findEnforcementActionByKey params.idempotencyKey)
  if existing.isSome then pure ⟨⟩
  else (issueAction params now).tryCatch (recoverAction params.idempotencyKey)

/-- `requestEnforcementAppeal`: a compare-and-set on the appeal. -/
def requestEnforcementAppeal (id : ℕ) (appealReason : Option String) (now : Time) : Call PUnit :=
  transaction do
    claimAction id (fun a => a.appealStatus = .none)
      (.conflict "Enforcement appeal status changed; reload and retry.")
      fun a => { a with
        appealStatus := .pending
        appealReason := appealReason.or a.appealReason
        appealedAt := some now }

/-- The columns of an action whose appeal is decided. -/
def appealDecided (appealStatus : EnforcementAppealStatus) (appealDecidedById : ℕ) (now : Time)
    (a : EnforcementAction) : EnforcementAction :=
  { a with
    appealStatus
    appealDecidedById := some appealDecidedById
    appealDecidedAt := some now }

theorem appealDecided_id (appealStatus : EnforcementAppealStatus) (appealDecidedById : ℕ)
    (now : Time) (a : EnforcementAction) :
    (appealDecided appealStatus appealDecidedById now a).id = a.id := rfl

/-- A person as the action found it; a state that was not recorded leaves the column alone. -/
def restoredPerson (previous : Option PreviousTargetState) (r : Person) : Person :=
  match previous with
  | some (.person isSuspended) => { r with isSuspended }
  | _ => r

theorem restoredPerson_id (previous : Option PreviousTargetState) (r : Person) :
    (restoredPerson previous r).id = r.id := by
  unfold restoredPerson
  split <;> rfl

/-- The building has the status from before the action. -/
def restoredStatus (previous : Option PreviousTargetState) (b : Building) : Building :=
  match previous with
  | some (.building status) => { b with status }
  | _ => b

theorem restoredStatus_id (previous : Option PreviousTargetState) (b : Building) :
    (restoredStatus previous b).id = b.id := by
  unfold restoredStatus
  split <;> rfl

/-- The manager has the state from before the action. -/
def restoredClaim (previous : Option PreviousTargetState) (m : Membership) : Membership :=
  match previous with
  | some (.managerClaim managerState _) => { m with managerState }
  | _ => m

theorem restoredClaim_id (previous : Option PreviousTargetState) (m : Membership) :
    (restoredClaim previous m).id = m.id := by
  unfold restoredClaim
  split <;> rfl

/-- The building is in recovery mode as it was before the action. -/
def restoredRecoveryMode (previous : Option PreviousTargetState) (b : Building) : Building :=
  match previous with
  | some (.managerClaim _ recoveryModeEnteredAt) => { b with recoveryModeEnteredAt }
  | _ => b

theorem restoredRecoveryMode_id (previous : Option PreviousTargetState) (b : Building) :
    (restoredRecoveryMode previous b).id = b.id := by
  unfold restoredRecoveryMode
  split <;> rfl

/-- Undo the effect of an action on a target that nobody has changed since. -/
def reverseEffect (previous : Option PreviousTargetState) : Option EnforcementEffect → Call PUnit
  | some (.suspendAccount personId) =>
    claimPerson personId (fun r => r.isSuspended = true)
      (.conflict "The enforcement target changed after this action.") (restoredPerson previous)
      (restoredPerson_id previous)
  | some (.revokeBuilding buildingId) =>
    claimBuilding buildingId (fun b => b.status = .rejected)
      (.conflict "The enforcement target changed after this action.") (restoredStatus previous)
      (restoredStatus_id previous)
  | some (.revokeManagerClaim membershipId buildingId) => do
    -- the source looks at both counts after the second update; the first one alone decides too
    claimMembership membershipId (fun m => m.managerState = some .suspended)
      (.conflict "The enforcement target changed after this action.") (restoredClaim previous)
      (restoredClaim_id previous)
    claimBuilding buildingId (fun b => b.recoveryModeEnteredAt ≠ none)
      (.conflict "The enforcement target changed after this action.")
      (restoredRecoveryMode previous) (restoredRecoveryMode_id previous)
  | none => pure ⟨⟩

/-- `enforcementAction.update`. -/
def markReversed (actionId : ℕ) (now : Time) : Call PUnit :=
  writeIf [(.row .enforcementAction actionId, .exclusive)]
    (fun s => (s.enforcementActions.find? actionId).isSome) .recordNotFound
    (Store.onEnforcementActions (·.modify actionId fun a =>
      { a with effectReversedAt := some now }))

/-- Only an overturned action whose effect was applied, and not reversed before, is undone. -/
def undoAction (action : EnforcementAction) (appealStatus : EnforcementAppealStatus) (now : Time) :
    Call PUnit :=
  if appealStatus = .overturned ∧ action.effectApplied = true ∧ action.effectReversedAt = none then do
    reverseEffect action.previousTargetState (reversedEffect action)
    markReversed action.id now
  else pure ⟨⟩

/-- `decideEnforcementAppeal`: a compare-and-set on the appeal, and when it is overturned, what the
action has done is undone. -/
def decideEnforcementAppeal (id : ℕ) (appealStatus : EnforcementAppealStatus)
    (appealDecidedById : ℕ) (now : Time) : Call PUnit :=
  transaction do
    let action ← query fun s => s.enforcementActions.find? id
    let action ← expect action .recordNotFound
    claimAction id (fun a => a.appealStatus = .pending)
      (.conflict "Enforcement appeal status changed; reload and retry.")
      (appealDecided appealStatus appealDecidedById now) (appealDecided_id _ _ now)
    undoAction action appealStatus now

/-! ### Suspensions by staff -/

/-- Who of the staff stands above whom. -/
def PLATFORM_STAFF_RANK : PlatformStaffRole → ℕ
  | .reviewer => 1
  | .seniorReviewer => 2
  | .platformAdmin => 3

/-- Somebody is to be suspended, or no longer. -/
structure ChangePersonSuspensionParams where
  targetPersonId : ℕ
  actorPersonId : ℕ
  suspend : Bool

/-- The person, with the staff row it may have. -/
def findSuspensionTarget (personId : ℕ) (s : Store) : Option (Option PlatformStaff) :=
  (s.persons.find? personId).map fun _ =>
    s.platformStaff.rows.find? fun staff => staff.personId = personId

/-- Staff of this role may not change the suspension of the staff it is about. -/
def outranked (actorRole : PlatformStaffRole) (targetStaff : Option PlatformStaff) : Bool :=
  targetStaff.any fun staff => staff.isActive = true ∧ actorRole ≠ .platformAdmin ∧
    PLATFORM_STAFF_RANK actorRole ≤ PLATFORM_STAFF_RANK staff.role

/-- How many other admins are usable. -/
def otherUsableAdmins (staffId : ℕ) (s : Store) : ℕ :=
  (s.platformStaff.rows.filter fun staff =>
    staff.id ≠ staffId ∧ isUsableAdmin s staff = true).length

/-- The last usable admin is not suspended: the admins are counted one suspension at a time. -/
def refuseLastAdmin : Option PlatformStaff → Call PUnit
  | some staff =>
    if isActiveAdmin staff = true then do
      advisoryLock .platformAdminUsability
      let others ← queryUnder (fun _ => [(.usableAdmins, .exclusive)]) (otherUsableAdmins staff.id)
      require (others ≠ 0)
        (.conflict "The last active usable platform admin cannot be suspended.")
    else pure ⟨⟩
  | none => pure ⟨⟩

/-- The action is a suspension of the person that has not been taken back. -/
def suspends (personId : ℕ) (action : EnforcementAction) : Bool :=
  action.type = .accountSuspension ∧ action.targetPersonId = some personId ∧
    action.effectApplied = true ∧ action.effectReversedAt = none

/-- Nobody is reinstated whom an enforcement action suspends. -/
def refuseEnforced (personId : ℕ) : Call PUnit := do
  let enforced ← queryUnder (fun _ => [(.suspension personId, .exclusive)])
    fun s => s.enforcementActions.rows.any (suspends personId)
  require (enforced = false)
    (.conflict "Active account-suspension enforcement blocks reinstatement.")

/-- What has to be so before the flag of the person is changed. -/
def assertSuspensionChange (params : ChangePersonSuspensionParams)
    (targetStaff : Option PlatformStaff) : Call PUnit :=
  if params.suspend then refuseLastAdmin targetStaff else refuseEnforced params.targetPersonId

/-- The refresh tokens that a suspension revokes and the audit record are left out. -/
def changePersonSuspensionAtomically (params : ChangePersonSuspensionParams) : Call PUnit :=
  transaction do
    advisoryLock (.userAdmin params.targetPersonId)
    require (params.targetPersonId ≠ params.actorPersonId)
      (.conflict "Staff cannot change their own suspension state.")
    let actor ← query (getActivePlatformStaff params.actorPersonId)
    let target ← query (findSuspensionTarget params.targetPersonId)
    let targetStaff ← expect target (.notFound "Person not found.")
    let actor ← expect actor (.conflict "Active staff identity is required.")
    require (outranked actor.role targetStaff = false)
      (.conflict "Staff cannot target equal or higher-ranked staff.")
    assertSuspensionChange params targetStaff
    claimPerson params.targetPersonId (fun r => r.isSuspended = !params.suspend)
      (.conflict "Person suspension state changed.")
      fun r => { r with isSuspended := params.suspend }

/-- Who may appeal against an action. -/
def resolveEnforcementAppellant (action : EnforcementAction) (s : Store) : Option ℕ :=
  match action.targetType, action.targetMembershipId, action.targetBuildingId with
  | .person, _, _ => action.targetPersonId
  | .managerClaim, some membershipId, _ =>
    (s.memberships.find? membershipId).map Membership.personId
  | .building, _, some buildingId => (s.buildings.find? buildingId).map Building.createdById
  | _, _, _ => none

end BackOfficeRepository

end VielHome.Backoffice
