import Mathlib.Tactic.Common

/-!
# Errors

Every error the application raises on purpose is an `AppError`, one of a fixed list of
codes with a message and details. The database client raises its own errors, which the
services recognise by their code: a violated unique constraint (`P2002`), a violated
foreign key (`P2003`), and a row that an `update` or a `findUniqueOrThrow` did not find
(`P2025`). A violated check of a table, and a value that the client refuses to send or the database
to store, have no code. A `Failure` is one or the other.
-/

namespace VielHome

/-- The error codes of the API. -/
inductive AppErrorCode
  | validation
  | authorization
  | notFound
  | conflict
  | businessRuleViolation
  | incompatibleChargeFund
  | deprecatedChargeKind
  | chargeFundSelectionRequired
  | duplicate
  | rateLimit
  | serviceUnavailable
  | unexpected
  deriving DecidableEq

/-- An error the application raises on purpose. -/
structure AppError where
  code : AppErrorCode
  message : String
  details : List (String × String) := []
  deriving DecidableEq

/-- What aborts a service call or a transaction. -/
inductive Failure
  | app (error : AppError)
  | uniqueConstraint
  | foreignKey
  | recordNotFound
  | checkConstraint
  | invalidArgument
  deriving DecidableEq

namespace Failure

/-- `ValidationError`. -/
def validation (message : String) : Failure := app ⟨.validation, message, []⟩

/-- `AuthorizationError`. -/
def authorization (message : String) : Failure := app ⟨.authorization, message, []⟩

/-- `NotFoundAppError`. -/
def notFound (message : String) : Failure := app ⟨.notFound, message, []⟩

/-- `ConflictError`. -/
def conflict (message : String) (details : List (String × String) := []) : Failure :=
  app ⟨.conflict, message, details⟩

/-- `BusinessRuleViolationError`. -/
def businessRuleViolation (message : String) : Failure := app ⟨.businessRuleViolation, message, []⟩

/-- `DuplicateError`. -/
def duplicate (message : String) : Failure := app ⟨.duplicate, message, []⟩

/-- `RateLimitError`. -/
def rateLimit (message : String) : Failure := app ⟨.rateLimit, message, []⟩

/-- `ServiceUnavailableError`. -/
def serviceUnavailable (message : String) : Failure := app ⟨.serviceUnavailable, message, []⟩

/-- `UnexpectedAppError`. -/
def unexpected (message : String) : Failure := app ⟨.unexpected, message, []⟩

/-- `IncompatibleChargeFundError`. -/
def incompatibleChargeFund (message : String) (details : List (String × String)) : Failure :=
  app ⟨.incompatibleChargeFund, message, details⟩

/-- `DeprecatedChargeKindError`. -/
def deprecatedChargeKind (message : String) : Failure := app ⟨.deprecatedChargeKind, message, []⟩

/-- `ChargeFundSelectionRequiredError`. -/
def chargeFundSelectionRequired (message : String) (details : List (String × String)) : Failure :=
  app ⟨.chargeFundSelectionRequired, message, details⟩

end Failure

end VielHome
