import VielHome.Cases.Policies

/-!
# `CaseRepository`, and what `BackOfficeRepository` does with support cases

Every method is a transaction of its own. An `updateMany` of a case matches the status that the
service has read; some updates of a support case name the row only. A method that is called
between a read and the write that relies on it gives back all locks but the one of the case.
-/

namespace VielHome.Cases

open Relational Community
open Relational.ReadCommitted.Prog (claim commitKeeping query transaction write writeIf)

/-! ### `CaseRepository` -/

namespace CaseRepository

/-- The case is there, in this status. -/
def hasStatus (id : ℕ) (status : CaseStatus) (s : Store) : Bool :=
  (s.buildingCases.find? id).any fun c => c.status = status

/-- An assignment of a case, with the status that it was read with. -/
structure AssignCaseParams where
  caseId : ℕ
  assignedToId : ℕ
  assignedById : ℕ
  note : Option String := none
  expectedStatus : CaseStatus

/-- The assignment as it is stored. -/
def AssignCaseParams.assignment (params : AssignCaseParams) (id : ℕ) : CaseAssignment where
  id := id
  caseId := params.caseId
  assignedToId := params.assignedToId
  assignedById := params.assignedById
  note := params.note

theorem AssignCaseParams.assignment_id (params : AssignCaseParams) (id : ℕ) :
    (params.assignment id).id = id := rfl

/-- The case is worked on by somebody. -/
def assigned (assignedToId : ℕ) (c : Case) : Case :=
  { c with assigneeId := some assignedToId, status := .inProgress }

theorem assigned_id (assignedToId : ℕ) (c : Case) : (assigned assignedToId c).id = c.id := rfl

/-- `assignCase`: a compare-and-set on the status, and a line of the history. -/
def assignCase (params : AssignCaseParams) : Call PUnit := transaction do
  claim (.row .buildingCase params.caseId) (hasStatus params.caseId params.expectedStatus)
    (.conflict "Case status changed; reload and retry.") fun s =>
      s.onBuildingCases
        (·.modify params.caseId (assigned params.assignedToId) (assigned_id params.assignedToId))
  write [] fun s => s.onCaseAssignments (·.create params.assignment params.assignment_id)

/-- `createMessage`. -/
def createMessage (caseId senderId : ℕ) (message : String) (isInternal : Bool) : Call PUnit :=
  transaction (write [] fun s => s.onCaseMessages
    (·.create (fun id => { id, caseId, senderId, message, isInternal }) fun _ => rfl))

/-- The case is resolved, with a code. -/
def resolved (resolutionCode : CaseResolutionCode) (c : Case) : Case :=
  { c with status := .resolved, resolutionCode := some resolutionCode }

theorem resolved_id (resolutionCode : CaseResolutionCode) (c : Case) :
    (resolved resolutionCode c).id = c.id := rfl

/-- `resolveCase`: a compare-and-set on the status. -/
def resolveCase (id : ℕ) (expectedStatus : CaseStatus) (resolutionCode : CaseResolutionCode) :
    Call PUnit :=
  transaction (claim (.row .buildingCase id) (hasStatus id expectedStatus)
    (.conflict "Case status changed; reload and retry.") fun s =>
      s.onBuildingCases (·.modify id (resolved resolutionCode) (resolved_id resolutionCode)))

/-- The case is closed from now on. -/
def closed (now : Time) (c : Case) : Case := { c with status := .closed, closedAt := some now }

theorem closed_id (now : Time) (c : Case) : (closed now c).id = c.id := rfl

/-- `closeCase`: a compare-and-set on `RESOLVED`. -/
def closeCase (id : ℕ) (now : Time) : Call PUnit :=
  transaction (claim (.row .buildingCase id) (hasStatus id .resolved)
    (.conflict "Case is no longer resolved.") fun s =>
      s.onBuildingCases (·.modify id (closed now) (closed_id now)))

/-- The case is open again, as if it had not been resolved. -/
def reopened (c : Case) : Case :=
  { c with status := .open, closedAt := none, resolutionCode := none }

theorem reopened_id (c : Case) : (reopened c).id = c.id := rfl

/-- `reopenCase`: a compare-and-set on the status. -/
def reopenCase (id : ℕ) (expectedStatus : CaseStatus) : Call PUnit :=
  transaction (claim (.row .buildingCase id) (hasStatus id expectedStatus)
    (.conflict "Case status changed; reload and retry.") fun s =>
      s.onBuildingCases (·.modify id reopened reopened_id))

/-- The case is there, in this status, and not merged. -/
def mergeable (id : ℕ) (status : CaseStatus) (s : Store) : Bool :=
  (s.buildingCases.find? id).any fun c => c.status = status ∧ c.mergedIntoId = none

/-- The case is closed in favour of another one. -/
def merged (mergedIntoId : ℕ) (now : Time) (c : Case) : Case :=
  { c with mergedIntoId := some mergedIntoId, status := .closed, closedAt := some now }

theorem merged_id (mergedIntoId : ℕ) (now : Time) (c : Case) :
    (merged mergedIntoId now c).id = c.id := rfl

/-- `mergeCase`: a compare-and-set on the status of a case that was not merged. -/
def mergeCase (id mergedIntoId : ℕ) (expectedStatus : CaseStatus) (now : Time) : Call PUnit :=
  transaction (claimMerge .buildingCase id (mergeable id expectedStatus)
    (.conflict "Case status changed or was already merged.") fun s =>
      s.onBuildingCases (·.modify id (merged mergedIntoId now) (merged_id mergedIntoId now)))

end CaseRepository

/-! ### `BackOfficeRepository` -/

namespace BackOfficeRepository

/-- The support case is there, in this status. -/
def hasStatus (id : ℕ) (status : CaseStatus) (s : Store) : Bool :=
  (s.supportCases.find? id).any fun c => c.status = status

/-- `createSupportCase`. -/
def createSupportCase (priority : VerificationPriority) (createdById : ℕ) : Call PUnit :=
  transaction (write [] fun s => s.onSupportCases
    (·.create (fun id => { id, priority, createdById }) fun _ => rfl))

/-- `findSupportCaseForOwner`. -/
def findSupportCaseForOwner (id createdById : ℕ) (s : Store) : Option SupportCase :=
  (s.supportCases.find? id).filter fun c => c.createdById = createdById

/-- `getEffectivePermissionKeysForStaff`. -/
def getEffectivePermissionKeysForStaff (staffId : ℕ) (s : Store) : List PermissionKey :=
  (s.staffRoles.rows.filter fun r => r.staffId = staffId ∧ r.revokedAt = none).flatMap fun r =>
    (s.rolePermissions.rows.filter fun p => p.roleId = r.roleId ∧ p.revokedAt = none).map
      RolePermission.key

/-- The support case is worked on by somebody. -/
def supportAssigned (assignedToId : ℕ) (c : SupportCase) : SupportCase :=
  { c with assignedToId := some assignedToId, status := .inProgress }

theorem supportAssigned_id (assignedToId : ℕ) (c : SupportCase) :
    (supportAssigned assignedToId c).id = c.id := rfl

/-- `assignSupportCase`: a compare-and-set on the status. -/
def assignSupportCase (id assignedToId : ℕ) (expectedStatus : CaseStatus) : Call PUnit :=
  transaction (claim (.row .supportCase id) (hasStatus id expectedStatus)
    (.conflict "Support case status changed; reload and retry.") fun s =>
      s.onSupportCases
        (·.modify id (supportAssigned assignedToId) (supportAssigned_id assignedToId)))

/-- An `update` by id of a support case, whose row has to be there. -/
def updateSupportCase (id : ℕ) (f : SupportCase → SupportCase) (h : ∀ c, (f c).id = c.id) :
    Call PUnit :=
  transaction (writeIf [(.row .supportCase id, .exclusive)]
    (fun s => (s.supportCases.find? id).isSome) .recordNotFound
    fun s => s.onSupportCases (·.modify id f h))

/-- The support case with another status, and the time when it is done. -/
def withStatus (status : CaseStatus) (now : Time) (c : SupportCase) : SupportCase :=
  { c with
    status
    resolvedAt := if status = .resolved then some now else c.resolvedAt
    closedAt := if status = .closed then some now else c.closedAt }

theorem withStatus_id (status : CaseStatus) (now : Time) (c : SupportCase) :
    (withStatus status now c).id = c.id := rfl

/-- `updateSupportCaseStatus`: an update by the id alone. -/
def updateSupportCaseStatus (id : ℕ) (status : CaseStatus) (now : Time) : Call PUnit :=
  updateSupportCase id (withStatus status now) (withStatus_id status now)

/-- The support case is resolved, with a code. -/
def supportResolved (resolutionCode : SupportCaseResolutionCode) (resolution : Option String)
    (now : Time) (c : SupportCase) : SupportCase :=
  { c with
    status := .resolved
    resolutionCode := some resolutionCode
    resolution := resolution.or c.resolution
    resolvedAt := some now }

theorem supportResolved_id (resolutionCode : SupportCaseResolutionCode)
    (resolution : Option String) (now : Time) (c : SupportCase) :
    (supportResolved resolutionCode resolution now c).id = c.id := rfl

/-- `resolveSupportCase`: a compare-and-set on the status. -/
def resolveSupportCase (id : ℕ) (resolutionCode : SupportCaseResolutionCode)
    (resolution : Option String) (expectedStatus : CaseStatus) (now : Time) : Call PUnit :=
  transaction (claim (.row .supportCase id) (hasStatus id expectedStatus)
    (.conflict "Support case status changed; reload and retry.") fun s =>
      s.onSupportCases (·.modify id (supportResolved resolutionCode resolution now)
        (supportResolved_id resolutionCode resolution now)))

/-- The support case is open again. -/
def supportReopened (c : SupportCase) : SupportCase :=
  { c with status := .open, resolvedAt := none, closedAt := none }

theorem supportReopened_id (c : SupportCase) : (supportReopened c).id = c.id := rfl

/-- `reopenSupportCase`: a compare-and-set on the status. -/
def reopenSupportCase (id : ℕ) (expectedStatus : CaseStatus) : Call PUnit :=
  transaction (claim (.row .supportCase id) (hasStatus id expectedStatus)
    (.conflict "Support case status changed; reload and retry.") fun s =>
      s.onSupportCases (·.modify id supportReopened supportReopened_id))

/-- The support case is more urgent. -/
def escalated (priority : VerificationPriority) (c : SupportCase) : SupportCase :=
  { c with priority }

theorem escalated_id (priority : VerificationPriority) (c : SupportCase) :
    (escalated priority c).id = c.id := rfl

/-- `escalateSupportCasePriority`: an update by the id alone. -/
def escalateSupportCasePriority (id : ℕ) (priority : VerificationPriority) : Call PUnit :=
  updateSupportCase id (escalated priority) (escalated_id priority)

/-- The support case is there, in this status, and not merged. -/
def mergeable (id : ℕ) (status : CaseStatus) (s : Store) : Bool :=
  (s.supportCases.find? id).any fun c => c.status = status ∧ c.mergedIntoId = none

/-- The support case is closed in favour of another one. -/
def supportMerged (mergedIntoId : ℕ) (now : Time) (c : SupportCase) : SupportCase :=
  { c with mergedIntoId := some mergedIntoId, status := .closed, closedAt := some now }

theorem supportMerged_id (mergedIntoId : ℕ) (now : Time) (c : SupportCase) :
    (supportMerged mergedIntoId now c).id = c.id := rfl

/-- `mergeSupportCase`: a compare-and-set on the status of a case that was not merged. -/
def mergeSupportCase (id mergedIntoId : ℕ) (expectedStatus : CaseStatus) (now : Time) :
    Call PUnit :=
  transaction (claimMerge .supportCase id (mergeable id expectedStatus)
    (.conflict "Support case changed or was already merged.") fun s =>
      s.onSupportCases
        (·.modify id (supportMerged mergedIntoId now) (supportMerged_id mergedIntoId now)))

/-- `addSupportCaseMessage`: an insertion. -/
def addSupportCaseMessage (caseId senderId : ℕ) (body : String) (isInternal : Bool) :
    Call PUnit := do
  write [] fun s => s.onSupportCaseMessages
    (·.create (fun id => { id, caseId, senderId, body, isInternal }) fun _ => rfl)
  commitKeeping [.merge .supportCase caseId]

end BackOfficeRepository

end VielHome.Cases
