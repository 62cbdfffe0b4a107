import VielHome.Marketplace.Schema

/-!
# `MarketplaceService`

An owner submits a listing, edits it while it is rejected, and resubmits it; the staff decides
about it and archives it. Each call but `submit` reads the listing, checks its status, and then
updates the row by its id, whatever it has become by then. What a call records for the audit,
which events it emits, and what it returns is left out.
-/

namespace VielHome.Marketplace

open Relational
open Relational.ReadCommitted (Logged Prog)
open Relational.ReadCommitted.Prog (expect read require send)
open Community (Time)

/-! ### The repository -/

namespace MarketplaceRepository

/-- What a new listing is made from. -/
structure CreateParams extends Listing where
  submittedById : ℕ
  deriving DecidableEq

/-- The listing as it is stored, still to be decided about. -/
def CreateParams.row (params : CreateParams) (now : Time) (id : ℕ) : ServiceProvider where
  toListing := params.toListing
  id := id
  submittedById := params.submittedById
  submittedAt := now

theorem CreateParams.row_id (params : CreateParams) (now : Time) (id : ℕ) :
    (params.row now id).id = id := rfl

/-- `create`. -/
def createProvider (params : CreateParams) (now : Time) (s : Store) : Store where
  serviceProviders := s.serviceProviders.create (params.row now) (params.row_id now)

/-- `findUnique` by the id. -/
def findById (id : ℕ) (s : Store) : Option ServiceProvider := s.serviceProviders.find? id

/-- A decision about a listing. -/
structure DecideParams where
  id : ℕ
  status : ServiceProviderStatus
  reviewedById : ℕ
  reason : Option String
  deriving DecidableEq

/-- The listing after the decision. A decision without a reason leaves the last one. -/
def DecideParams.apply (params : DecideParams) (now : Time) (p : ServiceProvider) :
    ServiceProvider :=
  { p with
    status := params.status
    reviewedById := some params.reviewedById
    reason := params.reason.or p.reason
    reviewedAt := some now }

theorem DecideParams.apply_id (params : DecideParams) (now : Time) (p : ServiceProvider) :
    (params.apply now p).id = p.id := rfl

/-- `update` with the decision, by the id alone. -/
def decide (params : DecideParams) (now : Time) (s : Store) : Store where
  serviceProviders := s.serviceProviders.modify params.id (params.apply now) (params.apply_id now)

/-- The fields of an edit: one that is not sent is kept, and an optional one that is sent as
`null` is cleared. -/
structure ListingFields where
  name : Option String := none
  category : Option ServiceProviderCategory := none
  description : Option (Option String) := none
  contactPhone : Option (Option String) := none
  contactEmail : Option (Option String) := none
  city : Option (Option String) := none
  deriving DecidableEq

/-- The listing with the fields that are given. -/
def ListingFields.apply (fields : ListingFields) (p : ServiceProvider) : ServiceProvider :=
  { p with
    name := fields.name.getD p.name
    category := fields.category.getD p.category
    description := fields.description.getD p.description
    contactPhone := fields.contactPhone.getD p.contactPhone
    contactEmail := fields.contactEmail.getD p.contactEmail
    city := fields.city.getD p.city }

theorem ListingFields.apply_id (fields : ListingFields) (p : ServiceProvider) :
    (fields.apply p).id = p.id := rfl

/-- `update` of the fields that are given, by the id alone. -/
def updateListing (id : ℕ) (fields : ListingFields) (s : Store) : Store where
  serviceProviders := s.serviceProviders.modify id fields.apply fields.apply_id

/-- The listing goes back to the staff. -/
def resubmitted (now : Time) (p : ServiceProvider) : ServiceProvider :=
  { p with status := .pending, submittedAt := now }

theorem resubmitted_id (now : Time) (p : ServiceProvider) : (resubmitted now p).id = p.id := rfl

/-- `update` to `PENDING`, by the id alone. -/
def resubmit (id : ℕ) (now : Time) (s : Store) : Store where
  serviceProviders := s.serviceProviders.modify id (resubmitted now) (resubmitted_id now)

/-- The listing is no longer offered. -/
def archived (p : ServiceProvider) : ServiceProvider := { p with status := .archived }

theorem archived_id (p : ServiceProvider) : (archived p).id = p.id := rfl

/-- `update` to `ARCHIVED`, by the id alone. -/
def archive (id : ℕ) (s : Store) : Store where
  serviceProviders := s.serviceProviders.modify id archived archived_id

end MarketplaceRepository

/-- A write of a call, with the listing that the call has read before it. -/
inductive Write
  | createProvider (params : MarketplaceRepository.CreateParams) (now : Time)
  | updateListing (provider : ServiceProvider) (fields : MarketplaceRepository.ListingFields)
  | resubmit (provider : ServiceProvider) (now : Time)
  | decide (provider : ServiceProvider) (params : MarketplaceRepository.DecideParams) (now : Time)
  | archive (provider : ServiceProvider)
  deriving DecidableEq

/-- What a write does to the table. -/
def Write.apply : Write → Store → Store
  | createProvider params now => MarketplaceRepository.createProvider params now
  | updateListing provider fields => MarketplaceRepository.updateListing provider.id fields
  | resubmit provider now => MarketplaceRepository.resubmit provider.id now
  | decide _ params now => MarketplaceRepository.decide params now
  | archive provider => MarketplaceRepository.archive provider.id

/-- A call: reads and writes of the store, one after the other. -/
abbrev Call := Prog (Logged Store Write) Empty Failure

/-! ### `ServiceProviderPolicy` -/

namespace ServiceProviderPolicy

/-- Only a pending listing is decided about. -/
def assertReviewable (status : ServiceProviderStatus) : Call PUnit :=
  require (status = .pending)
    (.businessRuleViolation s!"Listing is already reviewed (status: {status.name}).")

/-- Only a rejected listing is edited. -/
def assertEditable (status : ServiceProviderStatus) : Call PUnit :=
  require (status = .rejected) (.businessRuleViolation
    s!"Listing cannot be edited from its current status (status: {status.name}).")

/-- Only a rejected listing is submitted again. -/
def assertResubmittable (status : ServiceProviderStatus) : Call PUnit :=
  require (status = .rejected) (.businessRuleViolation
    s!"Listing cannot be resubmitted from its current status (status: {status.name}).")

/-- Only an approved listing is archived. -/
def assertArchivable (status : ServiceProviderStatus) : Call PUnit :=
  require (status = .approved)
    (.businessRuleViolation s!"Only an APPROVED listing can be archived (status: {status.name}).")

end ServiceProviderPolicy

/-! ### `MarketplaceService` -/

namespace MarketplaceService

/-- A new listing, which is checked against nothing. -/
def submit (callerPersonId : ℕ) (dto : Listing) (now : Time) : Call PUnit :=
  send Write.apply (.createProvider { dto with submittedById := callerPersonId } now)

/-- The owner edits a listing that was rejected. -/
def updateListing (id callerPersonId : ℕ) (dto : MarketplaceRepository.ListingFields) :
    Call PUnit := do
  let found ← read (MarketplaceRepository.findById id)
  let provider ← expect found (.notFound "Service provider not found.")
  require (provider.submittedById = callerPersonId)
    (.authorization "Only the listing owner may edit it.")
  ServiceProviderPolicy.assertEditable provider.status
  send Write.apply (.updateListing provider dto)

/-- The owner submits a rejected listing again. -/
def resubmit (id callerPersonId : ℕ) (now : Time) : Call PUnit := do
  let found ← read (MarketplaceRepository.findById id)
  let provider ← expect found (.notFound "Service provider not found.")
  require (provider.submittedById = callerPersonId)
    (.authorization "Only the listing owner may resubmit it.")
  ServiceProviderPolicy.assertResubmittable provider.status
  send Write.apply (.resubmit provider now)

/-- The listing, or `404`. -/
def getCase (id : ℕ) : Call ServiceProvider := do
  let found ← read (MarketplaceRepository.findById id)
  expect found (.notFound "Service provider not found.")

/-- What the staff decides. -/
inductive Decision
  | approve
  | reject
  deriving DecidableEq

/-- The decision of the staff, about a listing that was pending when it was read. -/
def decide (id : ℕ) (decision : Decision) (reviewerPersonId : ℕ) (reason : Option String)
    (now : Time) : Call PUnit := do
  let provider ← getCase id
  ServiceProviderPolicy.assertReviewable provider.status
  let status := if decision = .approve then .approved else .rejected
  send Write.apply (.decide provider { id, status, reviewedById := reviewerPersonId, reason } now)

/-- The listing is approved, without a reason. -/
def approve (id reviewerPersonId : ℕ) (now : Time) : Call PUnit :=
  decide id .approve reviewerPersonId none now

/-- The listing is rejected, with a reason. -/
def reject (id reviewerPersonId : ℕ) (reason : String) (now : Time) : Call PUnit :=
  decide id .reject reviewerPersonId (some reason) now

/-- An approved listing is archived. -/
def archive (id : ℕ) : Call PUnit := do
  let provider ← getCase id
  ServiceProviderPolicy.assertArchivable provider.status
  send Write.apply (.archive provider)

end MarketplaceService

/-- The calls on listings. -/
inductive MarketplaceCall
  | submit (callerPersonId : ℕ) (dto : Listing) (now : Time)
  | updateListing (id callerPersonId : ℕ) (dto : MarketplaceRepository.ListingFields)
  | resubmit (id callerPersonId : ℕ) (now : Time)
  | decide (id : ℕ) (decision : MarketplaceService.Decision) (reviewerPersonId : ℕ)
      (reason : Option String) (now : Time)
  | archive (id : ℕ)

/-- The method of the service that the call is made to. -/
def MarketplaceCall.call : MarketplaceCall → Call PUnit
  | submit callerPersonId dto now => MarketplaceService.submit callerPersonId dto now
  | updateListing id callerPersonId dto => MarketplaceService.updateListing id callerPersonId dto
  | resubmit id callerPersonId now => MarketplaceService.resubmit id callerPersonId now
  | decide id decision reviewerPersonId reason now =>
    MarketplaceService.decide id decision reviewerPersonId reason now
  | archive id => MarketplaceService.archive id

end VielHome.Marketplace
