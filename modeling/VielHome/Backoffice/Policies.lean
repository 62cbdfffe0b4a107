import VielHome.Community.Locks

/-!
# Policies of the back office

What the services check before they touch a manager verification case or an enforcement
action. A policy goes on or raises its error.
-/

namespace VielHome.Backoffice

open Community
open Relational.ReadCommitted.Prog (require)

/-! ### `ManagerVerificationPolicy` -/

namespace ManagerVerificationPolicy

/-- The name of a status, as the messages have it. -/
def statusName : ManagerVerificationStatus → String
  | .pending => "PENDING"
  | .verified => "VERIFIED"
  | .rejected => "REJECTED"
  | .suspended => "SUSPENDED"

/-- Only a pending case is decided. -/
def assertCaseOpen (status : ManagerVerificationStatus) : Call PUnit :=
  require (status = .pending)
    (.businessRuleViolation s!"Case is already decided (status: {statusName status}).")

/-- Nobody approves of themselves. -/
def assertNotSelfApproving (candidateId callerPersonId : ℕ) : Call PUnit :=
  require (candidateId ≠ callerPersonId)
    (.authorization "A candidate manager cannot approve their own verification.")

/-- Only the candidate appeals, and only a rejection. -/
def assertCanAppeal (status : ManagerVerificationStatus) (callerPersonId candidateId : ℕ) :
    Call PUnit := do
  require (status = .rejected)
    (.businessRuleViolation "Only a rejected manager verification may be appealed.")
  require (callerPersonId = candidateId)
    (.authorization "Only the rejected candidate may submit an appeal.")

/-- Only a manager who is suspended is restored. -/
def assertCanRestore (status : ManagerVerificationStatus) : Call PUnit :=
  require (status = .suspended) (.businessRuleViolation
    s!"Only a suspended manager verification can be restored (status: {statusName status}).")

end ManagerVerificationPolicy

/-! ### `FraudCasePolicy` -/

namespace FraudCasePolicy

/-- The name of an appeal's status, as the messages have it. -/
def appealStatusName : EnforcementAppealStatus → String
  | .none => "NONE"
  | .pending => "PENDING"
  | .upheld => "UPHELD"
  | .overturned => "OVERTURNED"

/-- The name of an action's type, as the messages have it. -/
def actionTypeName : EnforcementActionType → String
  | .warning => "WARNING"
  | .temporaryRestriction => "TEMPORARY_RESTRICTION"
  | .verificationRevocation => "VERIFICATION_REVOCATION"
  | .accountSuspension => "ACCOUNT_SUSPENSION"

/-- Only who is concerned appeals, and only once. -/
def assertCanAppealEnforcement (appealStatus : EnforcementAppealStatus)
    (entitledAppellantId : Option ℕ) (callerPersonId : ℕ) : Call PUnit := do
  require (entitledAppellantId = some callerPersonId)
    (.authorization "Only the person an enforcement action was issued against may appeal it.")
  require (appealStatus = .none) (.businessRuleViolation
    s!"This enforcement action already has an appeal (status: {appealStatusName appealStatus}).")

/-- Only a pending appeal is decided. -/
def assertAppealDecidable (appealStatus : EnforcementAppealStatus) : Call PUnit :=
  require (appealStatus = .pending) (.businessRuleViolation
    s!"Appeal is not pending (status: {appealStatusName appealStatus}).")

/-- The types that only a platform admin may issue. -/
def ADMIN_ONLY_ACTION_TYPES : List EnforcementActionType := [.accountSuspension]

/-- Some actions are for the administrators of the platform. -/
def assertCanIssueEnforcement (type : EnforcementActionType) (staffRole : PlatformStaffRole) :
    Call PUnit :=
  require (¬ (type ∈ ADMIN_ONLY_ACTION_TYPES ∧ staffRole ≠ .platformAdmin)) (.authorization
    s!"Issuing a(n) {actionTypeName type} enforcement action requires PLATFORM_ADMIN.")

end FraudCasePolicy

end VielHome.Backoffice
