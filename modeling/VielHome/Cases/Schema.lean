import VielHome.Common.AppError
import VielHome.Community.Current
import VielHome.Relational.ReadCommitted
import Mathlib.Tactic.Simps.Basic

/-!
# The tables of the two case systems

The cases of a building (requests and complaints) with their assignments and messages, the
support cases of the back office with theirs, and the permissions of its staff. Both kinds of
case go through the same statuses, and a case of either kind may be merged into another one.
Columns that no modelled operation reads or writes are left out.
-/

namespace VielHome.Cases

open Relational Community
open Relational.ReadCommitted (Database Event Mode Prog)

/-- How far a case has come. -/
inductive CaseStatus
  | open
  | inProgress
  | waitingUser
  | resolved
  | closed
  deriving DecidableEq

/-- Whether a case is shown to everybody in the building. -/
inductive CaseVisibility
  | publicCase
  | privateCase
  deriving DecidableEq

/-- How a case was resolved. -/
inductive CaseResolutionCode
  | completed
  | rejected
  | duplicate
  | invalid
  | externalResolution
  | other
  deriving DecidableEq

/-- How a support case was resolved. -/
inductive SupportCaseResolutionCode
  | userError
  | configurationIssue
  | bugFixed
  | duplicateRequest
  | notReproducible
  | other
  deriving DecidableEq

/-- The permissions that an assignee of a case needs, and all the others. -/
inductive PermissionKey
  | supportManage
  | fraudManage
  | complianceManage
  | other
  deriving DecidableEq

/-- A case of a building. -/
structure Case where
  id : ℕ
  buildingId : ℕ
  status : CaseStatus := .open
  visibility : CaseVisibility := .privateCase
  isAgainstManager : Bool := false
  resolutionCode : Option CaseResolutionCode := none
  createdById : ℕ
  assigneeId : Option ℕ := none
  closedAt : Option Time := none
  mergedIntoId : Option ℕ := none
  deriving DecidableEq

/-- A case was given to somebody. -/
structure CaseAssignment where
  id : ℕ
  caseId : ℕ
  assignedToId : ℕ
  assignedById : ℕ
  note : Option String := none
  deriving DecidableEq

/-- A message about a case. -/
structure CaseMessage where
  id : ℕ
  caseId : ℕ
  senderId : ℕ
  message : String
  isInternal : Bool := false
  deriving DecidableEq

/-- A case that somebody has opened with the staff. -/
structure SupportCase where
  id : ℕ
  status : CaseStatus := .open
  priority : VerificationPriority := .normal
  createdById : ℕ
  assignedToId : Option ℕ := none
  resolutionCode : Option SupportCaseResolutionCode := none
  resolution : Option String := none
  mergedIntoId : Option ℕ := none
  resolvedAt : Option Time := none
  closedAt : Option Time := none
  deriving DecidableEq

/-- A message about a support case. -/
structure SupportCaseMessage where
  id : ℕ
  caseId : ℕ
  senderId : ℕ
  body : String
  isInternal : Bool := false
  deriving DecidableEq

/-- Somebody of the staff has a role. -/
structure StaffRole where
  id : ℕ
  staffId : ℕ
  roleId : ℕ
  revokedAt : Option Time := none
  deriving DecidableEq

/-- A role has a permission. -/
structure RolePermission where
  id : ℕ
  roleId : ℕ
  key : PermissionKey
  revokedAt : Option Time := none
  deriving DecidableEq

/-- The tables of the community, and those of the cases. -/
structure Store extends Community.Store where
  buildingCases : Table Case Case.id
  caseAssignments : Table CaseAssignment CaseAssignment.id
  caseMessages : Table CaseMessage CaseMessage.id
  supportCases : Table SupportCase SupportCase.id
  supportCaseMessages : Table SupportCaseMessage SupportCaseMessage.id
  staffRoles : Table StaffRole StaffRole.id
  rolePermissions : Table RolePermission RolePermission.id

/-- The store before anything happened. -/
def Store.empty : Store where
  toStore := Community.Store.empty
  buildingCases := .empty
  caseAssignments := .empty
  caseMessages := .empty
  supportCases := .empty
  supportCaseMessages := .empty
  staffRoles := .empty
  rolePermissions := .empty

/-! ### Writes to one table -/

namespace Store

/-- A change of the cases. -/
@[simps buildingCases supportCases]
def onBuildingCases (f : Table Case Case.id → Table Case Case.id) (s : Store) : Store :=
  { s with buildingCases := f s.buildingCases }

/-- A change of the assignments. -/
@[simps buildingCases supportCases]
def onCaseAssignments
    (f : Table CaseAssignment CaseAssignment.id → Table CaseAssignment CaseAssignment.id)
    (s : Store) : Store :=
  { s with caseAssignments := f s.caseAssignments }

/-- A change of the messages. -/
@[simps buildingCases supportCases]
def onCaseMessages (f : Table CaseMessage CaseMessage.id → Table CaseMessage CaseMessage.id)
    (s : Store) : Store :=
  { s with caseMessages := f s.caseMessages }

/-- A change of the support cases. -/
@[simps buildingCases supportCases]
def onSupportCases (f : Table SupportCase SupportCase.id → Table SupportCase SupportCase.id)
    (s : Store) : Store :=
  { s with supportCases := f s.supportCases }

/-- A change of their messages. -/
@[simps buildingCases supportCases]
def onSupportCaseMessages
    (f : Table SupportCaseMessage SupportCaseMessage.id →
      Table SupportCaseMessage SupportCaseMessage.id)
    (s : Store) : Store :=
  { s with supportCaseMessages := f s.supportCaseMessages }

end Store

/-! ### Calls and their locks -/

/-- The two case systems, each with its table. -/
inductive TableName
  | buildingCase
  | supportCase
  deriving DecidableEq

/-- What a statement locks: a row that is updated, which the database enforces; and whether a
case is merged, which nothing enforces. -/
inductive Lock
  | row (table : TableName) (id : ℕ)
  | merge (table : TableName) (id : ℕ)
  deriving DecidableEq

/-- The database makes a statement wait for the lock. -/
def Lock.enforced : Lock → Bool
  | row _ _ => true
  | merge _ _ => false

/-- A program of statements on the tables. -/
abbrev Call (α : Type) : Type := Prog Store Lock Failure α

/-- The tables, the sessions that run a call each, and the locks they hold. -/
abbrev Sessions (ι α : Type) : Type := Database ι Store Lock Failure α

/-- The sessions after some events, each call about to start on the store. -/
def runCalls {ι α : Type} [DecidableEq ι] (s : Store) (calls : ι → Call α)
    (es : List (Event ι Failure)) : Sessions ι α :=
  Relational.runFrom (Database.next Lock.enforced) (Database.start s calls) es

/-- The lock of a case that a call has found and will rely on being unmerged. -/
def reliedOn {κ : Type} (table : TableName) (id : ℕ) (found : Option κ) (relies : κ → Bool) :
    List (Lock × Mode) :=
  if found.any relies then [(.merge table id, .shared)] else []

/-- An `updateMany` of one case, which has to match, that merges the case. -/
def claimMerge (table : TableName) (id : ℕ) (matched : Store → Bool) (e : Failure)
    (f : Store → Store) : Call PUnit := do
  let found ← Prog.query matched
  Prog.require (found = true) e
  Prog.writeIf [(.row table id, .exclusive), (.merge table id, .exclusive)] matched e f

end VielHome.Cases
