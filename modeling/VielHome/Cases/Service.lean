import VielHome.Cases.Repository

/-!
# `CasesService` and `SupportCaseService`

The calls that work on a case: assigning it, answering in it, resolving, closing, reopening and
merging it, and raising the priority of a support case. A call reads the case, checks it, and
writes later; a call that relies on the case being unmerged until then says so when it reads.
What a call records for the audit, which events it emits, and what it returns is left out.
-/

namespace VielHome.Cases

open Relational Community
open Relational.ReadCommitted.Prog (expect query queryUnder require)

/-! ### `CasesService` -/

namespace CasesService

/-- The roles of the management. -/
def PRIVILEGED_ROLES : List MembershipRole := [.manager, .boardMember, .accountant]

/-- One of the roles is of the management. -/
def hasPrivilegedRole (roles : List MembershipRole) : Bool := roles.any (· ∈ PRIVILEGED_ROLES)

/-- Somebody has a role of the management in the building. -/
def isPrivileged (personId buildingId : ℕ) : Call Bool :=
  query fun s => hasPrivilegedRole (s.roles personId buildingId)

/-- The case, if it is one of the building. `relies` says when the call goes on to a write that
relies on the case being unmerged. -/
def getCaseOrThrow (buildingId caseId : ℕ) (relies : Case → Bool) : Call Case := do
  let found ← queryUnder
    (fun s => reliedOn .buildingCase caseId (s.buildingCases.find? caseId) relies)
    fun s => s.buildingCases.find? caseId
  let found ← expect found (.notFound "Case not found.")
  require (found.buildingId = buildingId) (.notFound "Case not found.")
  pure found

/-- `getCase`, for who may see the case. -/
def getCase (buildingId caseId actorPersonId : ℕ) : Call Case := do
  let found ← getCaseOrThrow buildingId caseId fun _ => false
  let privileged ← isPrivileged actorPersonId buildingId
  CasePolicy.assertVisible found actorPersonId privileged
  pure found

/-- `assignCase`: the case that was read is given to somebody. -/
def assignCase (buildingId caseId assignedToId : ℕ) (note : Option String) (actorPersonId : ℕ) :
    Call PUnit := do
  let found ← getCaseOrThrow buildingId caseId fun _ => false
  CasePolicy.assertAssignableStatus found.status
  let assigneeRoles ← query fun s => s.roles assignedToId buildingId
  require (hasPrivilegedRole assigneeRoles = true) (.businessRuleViolation
    "The assignee must be a current Manager, Board Member, or Accountant of this building.")
  CasePolicy.assertAssignable found.isAgainstManager (decide (.manager ∈ assigneeRoles))
  CaseRepository.assignCase
    { caseId, assignedToId, assignedById := actorPersonId, note, expectedStatus := found.status }

/-- `addMessage`, of who may see the case. -/
def addMessage (buildingId caseId : ℕ) (message : String) (isInternal : Bool)
    (actorPersonId : ℕ) : Call PUnit := do
  let found ← getCaseOrThrow buildingId caseId fun _ => false
  let privileged ← isPrivileged actorPersonId buildingId
  CasePolicy.assertVisible found actorPersonId privileged
  CasePolicy.assertCanPostInternalMessage isInternal privileged
  CasePolicy.assertMessageable found.status
  CaseRepository.createMessage caseId actorPersonId message isInternal

/-- `resolveCase`, of a case that is not done. -/
def resolveCase (buildingId caseId : ℕ) (resolutionCode : CaseResolutionCode) : Call PUnit := do
  let found ← getCaseOrThrow buildingId caseId fun _ => false
  CasePolicy.assertResolvable found.status
  CaseRepository.resolveCase caseId found.status resolutionCode

/-- `closeCase`, of a case that is resolved. -/
def closeCase (buildingId caseId : ℕ) (now : Time) : Call PUnit := do
  let found ← getCaseOrThrow buildingId caseId fun _ => false
  CasePolicy.assertCloseable found.status
  CaseRepository.closeCase caseId now

/-- A closed case that has not been merged. -/
def closedUnmerged (c : Case) : Bool := c.status = .closed ∧ c.mergedIntoId = none

/-- `reopenCase`, by who has opened the case or is privileged. -/
def reopenCase (buildingId caseId actorPersonId : ℕ) : Call PUnit := do
  let found ← getCaseOrThrow buildingId caseId closedUnmerged
  let privileged ← isPrivileged actorPersonId buildingId
  require (found.createdById = actorPersonId ∨ privileged = true)
    (.authorization "Only the case creator or a privileged role may reopen this case.")
  CasePolicy.assertReopenable found.status
  require (found.mergedIntoId = none)
    (.businessRuleViolation "A merged case cannot be reopened.")
  CaseRepository.reopenCase caseId found.status

/-- Another case may be merged into this one. -/
def isTarget (target : Case) : Bool :=
  target.mergedIntoId = none ∧ ¬ (target.status = .resolved ∨ target.status = .closed)

/-- `mergeCase`, of a case that was not merged into one that was not merged either. -/
def mergeCase (buildingId caseId intoCaseId : ℕ) (now : Time) : Call PUnit := do
  require (caseId ≠ intoCaseId) (.validation "A case cannot be merged into itself.")
  let found ← getCaseOrThrow buildingId caseId fun _ => false
  require (found.mergedIntoId = none)
    (.validation "Cannot merge a case that is already merged.")
  CasePolicy.assertNotClosed found.status
  let target ← getCaseOrThrow buildingId intoCaseId isTarget
  require (target.mergedIntoId ≠ some caseId) (.validation "This merge would create a cycle.")
  require (target.mergedIntoId = none)
    (.validation "Cannot merge into a case that is already merged.")
  require (¬ (target.status = .resolved ∨ target.status = .closed))
    (.validation "Cannot merge into a terminal case.")
  CaseRepository.mergeCase caseId intoCaseId found.status now

end CasesService

/-! ### `PermissionResolverService` -/

namespace PermissionResolverService

/-- What a person may do: nothing, unless there is an active row of its staff. -/
def resolve (personId : ℕ) : Call (List PermissionKey) := do
  let staff ← query fun s =>
    s.platformStaff.rows.find? fun t => t.personId = personId ∧ t.isActive = true
  match staff with
  | none => pure []
  | some staff => query (BackOfficeRepository.getEffectivePermissionKeysForStaff staff.id)

end PermissionResolverService

/-! ### `SupportCaseService` -/

namespace SupportCaseService

/-- Any person may open a support case. -/
def «open» (priority : Option VerificationPriority) (createdById : ℕ) : Call PUnit :=
  BackOfficeRepository.createSupportCase (priority.getD .normal) createdById

/-- The support case. `relies` says when the call goes on to a write that relies on the case
being unmerged. -/
def getCase (caseId : ℕ) (relies : SupportCase → Bool) : Call SupportCase := do
  let kase ← queryUnder
    (fun s => reliedOn .supportCase caseId (s.supportCases.find? caseId) relies)
    fun s => s.supportCases.find? caseId
  expect kase (.notFound "Support case not found.")

/-- The support case of the caller, or `404`. -/
def getCaseForOwner (caseId callerPersonId : ℕ) (relies : SupportCase → Bool) :
    Call SupportCase := do
  let kase ← queryUnder
    (fun s => reliedOn .supportCase caseId
      (BackOfficeRepository.findSupportCaseForOwner caseId callerPersonId s) relies)
    (BackOfficeRepository.findSupportCaseForOwner caseId callerPersonId)
  match kase with
  | some kase => pure kase
  | none => do
    let existing ← getCase caseId fun _ => false
    SupportCasePolicy.assertVisibleToNonStaff existing.createdById callerPersonId
    .fail (.notFound "Support case not found.")

/-- `assign`, to somebody of the staff who may work on it. -/
def assign (caseId assigneeId : ℕ) : Call PUnit := do
  let kase ← getCase caseId fun _ => false
  SupportCasePolicy.assertActionable kase.status
  let granted ← PermissionResolverService.resolve assigneeId
  require (.supportManage ∈ granted)
    (.validation "The assignee must be active platform staff with SUPPORT_MANAGE.")
  BackOfficeRepository.assignSupportCase caseId assigneeId kase.status

/-- A message to the creator of the case makes an open case wait for an answer. -/
def awaitsAnswer (isInternal : Bool) (kase : SupportCase) : Bool :=
  kase.status = .open ∧ isInternal = false

/-- `addStaffMessage`: the staff answers, and waits for the user. -/
def addStaffMessage (caseId : ℕ) (body : String) (isInternal : Bool) (senderId : ℕ)
    (now : Time) : Call PUnit := do
  let kase ← getCase caseId (awaitsAnswer isInternal)
  SupportCasePolicy.assertActionable kase.status
  BackOfficeRepository.addSupportCaseMessage caseId senderId body isInternal
  if awaitsAnswer isInternal kase = true then
    BackOfficeRepository.updateSupportCaseStatus caseId .waitingUser now
  else pure ⟨⟩

/-- The case waits for an answer of its creator. -/
def isAnswered (kase : SupportCase) : Bool := kase.status = .waitingUser

/-- `replyAsCreator`: the user answers the staff. -/
def replyAsCreator (caseId : ℕ) (body : String) (callerPersonId : ℕ) (now : Time) :
    Call PUnit := do
  let kase ← getCaseForOwner caseId callerPersonId isAnswered
  SupportCasePolicy.assertActionable kase.status
  BackOfficeRepository.addSupportCaseMessage caseId callerPersonId body false
  if isAnswered kase = true then
    BackOfficeRepository.updateSupportCaseStatus caseId .inProgress now
  else pure ⟨⟩

/-- `resolve`, of a support case that is not done. -/
def resolve (caseId : ℕ) (resolutionCode : SupportCaseResolutionCode)
    (resolution : Option String) (now : Time) : Call PUnit := do
  let kase ← getCase caseId fun _ => false
  SupportCasePolicy.assertActionable kase.status
  BackOfficeRepository.resolveSupportCase caseId resolutionCode resolution kase.status now

/-- `close`, of a support case that is resolved. -/
def close (caseId : ℕ) (now : Time) : Call PUnit := do
  let kase ← getCase caseId fun _ => false
  SupportCasePolicy.assertResolvedForClose kase.status
  BackOfficeRepository.updateSupportCaseStatus caseId .closed now

/-- A closed case that has not been merged. -/
def closedUnmerged (kase : SupportCase) : Bool :=
  kase.status = .closed ∧ kase.mergedIntoId = none

/-- `reopen`, by who has opened the support case. -/
def reopen (caseId : ℕ) (reason : String) (actorPersonId : ℕ) : Call PUnit := do
  let kase ← getCaseForOwner caseId actorPersonId closedUnmerged
  require (kase.mergedIntoId = none) (.validation "A merged support case cannot be reopened.")
  SupportCasePolicy.assertCanReopen kase.status
  BackOfficeRepository.reopenSupportCase caseId kase.status
  BackOfficeRepository.addSupportCaseMessage caseId actorPersonId s!"Reopened: {reason}" false

/-- `escalate`: the support case is one step more urgent. -/
def escalate (caseId : ℕ) : Call PUnit := do
  let kase ← getCase caseId fun _ => false
  SupportCasePolicy.assertActionable kase.status
  let nextPriority ← SupportCasePolicy.nextEscalatedPriority kase.priority
  BackOfficeRepository.escalateSupportCasePriority caseId nextPriority

/-- Another case may be merged into this one. -/
def isTarget (target : SupportCase) : Bool :=
  target.mergedIntoId = none ∧ ¬ (target.status = .resolved ∨ target.status = .closed)

/-- `merge`, of a support case that was not merged into another one. -/
def merge (caseId intoCaseId : ℕ) (now : Time) : Call PUnit := do
  require (caseId ≠ intoCaseId) (.validation "A support case cannot be merged into itself.")
  let kase ← getCase caseId fun _ => false
  SupportCasePolicy.assertActionable kase.status
  require (kase.mergedIntoId = none) (.validation "Cannot merge an already merged case.")
  let target ← getCase intoCaseId isTarget
  require (target.mergedIntoId ≠ some caseId)
    (.validation "This support-case merge would create a cycle.")
  require (target.mergedIntoId = none) (.validation "Cannot merge into an already merged case.")
  require (¬ (target.status = .resolved ∨ target.status = .closed))
    (.validation "Cannot merge into a terminal case.")
  BackOfficeRepository.mergeSupportCase caseId intoCaseId kase.status now

end SupportCaseService

end VielHome.Cases
