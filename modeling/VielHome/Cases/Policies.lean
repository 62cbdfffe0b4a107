import VielHome.Cases.Schema

/-!
# Policies of the cases

What the services check before they touch a case. A policy goes on or raises its error.
-/

namespace VielHome.Cases

open Community
open Relational.ReadCommitted.Prog (require)

/-! ### `CasePolicy` -/

namespace CasePolicy

/-- A case with one of these is worked on. -/
def ACTIVE_STATUSES : List CaseStatus := [.open, .inProgress, .waitingUser]

/-- A private case is shown to who has opened it, to who has it, and to the privileged. -/
def assertVisible (c : Case) (requesterPersonId : ℕ) (isPrivileged : Bool) : Call PUnit :=
  require (c.visibility = .publicCase ∨ c.createdById = requesterPersonId ∨
      c.assigneeId = some requesterPersonId ∨ isPrivileged = true)
    (.authorization "You do not have access to this case.")

/-- Only the privileged write internal notes. -/
def assertCanPostInternalMessage (isInternal isPrivileged : Bool) : Call PUnit :=
  require (¬ (isInternal = true ∧ isPrivileged = false))
    (.authorization "Only a privileged role may post an internal note.")

/-- Nothing is done with a closed case. -/
def assertNotClosed (status : CaseStatus) : Call PUnit :=
  require (status ≠ .closed) (.businessRuleViolation "This case is closed.")

/-- Only a case that is worked on is assigned. -/
def assertAssignableStatus (status : CaseStatus) : Call PUnit :=
  require (status ∈ ACTIVE_STATUSES)
    (.businessRuleViolation "Only an active case may be assigned.")

/-- Only a case that is worked on gets messages. -/
def assertMessageable (status : CaseStatus) : Call PUnit :=
  require (status ∈ ACTIVE_STATUSES) (.businessRuleViolation
    "A resolved or closed case must be reopened before adding messages.")

/-- A complaint against the manager is not assigned to a manager. -/
def assertAssignable (isAgainstManager assigneeHoldsManagerRole : Bool) : Call PUnit :=
  require (¬ (isAgainstManager = true ∧ assigneeHoldsManagerRole = true)) (.businessRuleViolation
    "A complaint against the manager cannot be assigned to the manager — route it to a board member instead.")

/-- The name of a status, as the messages have it. -/
def statusName : CaseStatus → String
  | .open => "open"
  | .inProgress => "in_progress"
  | .waitingUser => "waiting_user"
  | .resolved => "resolved"
  | .closed => "closed"

/-- A case that is done is not resolved again. -/
def assertResolvable (status : CaseStatus) : Call PUnit :=
  require (¬ (status = .resolved ∨ status = .closed))
    (.businessRuleViolation s!"This case is already {statusName status}.")

/-- A case is resolved before it is closed. -/
def assertCloseable (status : CaseStatus) : Call PUnit :=
  require (status = .resolved) (.businessRuleViolation "Only a resolved case may be closed.")

/-- Only a case that is done is opened again. -/
def assertReopenable (status : CaseStatus) : Call PUnit :=
  require (status = .resolved ∨ status = .closed)
    (.businessRuleViolation "Only a resolved or closed case can be reopened.")

end CasePolicy

/-! ### `SupportCasePolicy` -/

namespace SupportCasePolicy

/-- A support case with one of these is done. -/
def CLOSED_STATUSES : List CaseStatus := [.resolved, .closed]

/-- Nothing but opening it again is done with a support case that is done. -/
def assertActionable (status : CaseStatus) : Call PUnit :=
  require (status ∉ CLOSED_STATUSES) (.businessRuleViolation
    "This support case is resolved or closed. Reopen it first.")

/-- A support case is resolved before it is closed. -/
def assertResolvedForClose (status : CaseStatus) : Call PUnit :=
  require (status = .resolved)
    (.businessRuleViolation "Only a resolved support case may be closed.")

/-- Only a support case that is done is opened again. -/
def assertCanReopen (status : CaseStatus) : Call PUnit :=
  require (status ∈ CLOSED_STATUSES)
    (.businessRuleViolation "Only a resolved or closed support case may be reopened.")

/-- One step up in `PRIORITY_ORDER`. -/
def nextEscalatedPriority : VerificationPriority → Call VerificationPriority
  | .low => pure .normal
  | .normal => pure .high
  | .high => pure .critical
  | .critical => .fail (.businessRuleViolation "This support case is already at CRITICAL priority.")

/-- Who is not of the staff sees the support cases of their own. -/
def assertVisibleToNonStaff (createdById callerPersonId : ℕ) : Call PUnit :=
  require (createdById = callerPersonId)
    (.authorization "You do not have access to this support case.")

end SupportCasePolicy

end VielHome.Cases
