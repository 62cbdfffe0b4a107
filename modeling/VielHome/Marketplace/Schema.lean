import VielHome.Common.AppError
import VielHome.Community.Schema
import VielHome.Relational.Optimistic

/-!
# The listings of the marketplace

A `ServiceProvider` is what its owner has submitted, a `Listing`, and where it stands in the review.
Columns that no modelled operation reads or writes are left out.
-/

namespace VielHome.Marketplace

open Relational
open Relational.ReadCommitted (Logged Prog)
open Community (Time)

/-- How far a listing has come. -/
inductive ServiceProviderStatus
  | pending
  | approved
  | rejected
  | archived
  deriving DecidableEq

/-- The name of a status, as the messages have it. -/
def ServiceProviderStatus.name : ServiceProviderStatus → String
  | pending => "PENDING"
  | approved => "APPROVED"
  | rejected => "REJECTED"
  | archived => "ARCHIVED"

/-- What a listing offers. -/
inductive ServiceProviderCategory
  | maintenance
  | professionalManagement
  | insurance
  | other
  deriving DecidableEq

/-- What an owner submits. -/
structure Listing where
  name : String
  category : ServiceProviderCategory
  description : Option String := none
  contactPhone : Option String := none
  contactEmail : Option String := none
  city : Option String := none
  deriving DecidableEq

/-- A listing with its history. -/
structure ServiceProvider extends Listing where
  id : ℕ
  status : ServiceProviderStatus := .pending
  submittedById : ℕ
  submittedAt : Time
  reviewedById : Option ℕ := none
  reviewedAt : Option Time := none
  reason : Option String := none
  deriving DecidableEq

/-- The tables. -/
structure Store where
  serviceProviders : Table ServiceProvider ServiceProvider.id

/-- The store before anything happened. -/
def Store.empty : Store := ⟨.empty⟩

end VielHome.Marketplace
