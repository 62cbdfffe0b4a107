import VielHome.Common.AppError
import VielHome.Common.Ranges
import VielHome.Community.Schema
import VielHome.Relational.Optimistic

/-!
# The subscriptions

A building has one subscription, with a plan and a status, the dates at which a trial, a paid period
and a grace period end, and a log of the changes of its plan and its status. Feature grants are left
out.
-/

namespace VielHome.Subscriptions

open Relational
open Community (Time)

/-- What a building has subscribed to. -/
inductive SubscriptionPlan
  | free
  | pro
  | enterprise
  deriving DecidableEq

/-- How far a subscription has come. -/
inductive SubscriptionStatus
  | trial
  | active
  | expired
  | cancelled
  deriving DecidableEq

/-- The subscription of a building. -/
structure Subscription where
  id : ℕ
  buildingId : ℕ
  plan : SubscriptionPlan := .free
  status : SubscriptionStatus := .trial
  trialEndsAt : Option Time := none
  gracePeriodDays : ℤ := 7
  currentPeriodEndsAt : Option Time := none
  gracePeriodEndsAt : Option Time := none
  cancelledAt : Option Time := none
  deriving DecidableEq

/-- The columns of a change that are `null` say nothing about it. -/
structure SubscriptionChange where
  subscriptionId : ℕ
  fromPlan : Option SubscriptionPlan := none
  toPlan : Option SubscriptionPlan := none
  fromStatus : Option SubscriptionStatus := none
  toStatus : Option SubscriptionStatus := none
  changedById : Option ℕ := none
  reason : Option String := none
  deriving DecidableEq

/-- A line of the history. -/
structure SubscriptionChangeLog extends SubscriptionChange where
  id : ℕ
  deriving DecidableEq

/-- The tables. A building has one subscription. -/
structure Store where
  subscriptions : Table Subscription Subscription.id
  changeLogs : Table SubscriptionChangeLog SubscriptionChangeLog.id
  buildingId_unique : ∀ r ∈ subscriptions, ∀ r' ∈ subscriptions, r.buildingId = r'.buildingId → r = r'

/-! ### The repository -/

namespace SubscriptionRepository

/-- `findSubscriptionByBuildingId`. -/
def findSubscriptionByBuildingId (buildingId : ℕ) (s : Store) : Option Subscription :=
  s.subscriptions.rows.find? fun r => r.buildingId = buildingId

/-- The rows that `findSubscriptionsDueForEvaluation` selects. -/
def Due (now : Time) (r : Subscription) : Prop :=
  (r.status = .trial ∧ ∃ t ∈ r.trialEndsAt, t ≤ now) ∨
  (r.status = .active ∧ ∃ t ∈ r.currentPeriodEndsAt, t ≤ now) ∨
  (r.status = .expired ∧ ∃ t ∈ r.gracePeriodEndsAt, t ≤ now)

instance (now : Time) : DecidablePred (Due now) := fun r => by
  unfold Due
  infer_instance

/-- The buildings of the subscriptions with a pending time-based transition. -/
def findSubscriptionsDueForEvaluation (now : Time) (s : Store) : List ℕ :=
  (s.subscriptions.rows.filter fun r => Due now r).map Subscription.buildingId

/-- An update of one row that keeps its id and its building. -/
def modify (id : ℕ) (f : Subscription → Subscription) (hid : ∀ r, (f r).id = r.id)
    (hbuilding : ∀ r, (f r).buildingId = r.buildingId) (s : Store) : Store where
  subscriptions := s.subscriptions.modify id f hid
  changeLogs := s.changeLogs
  buildingId_unique := by
    have hkeeps : ∀ r : Subscription, (if r.id = id then f r else r).buildingId = r.buildingId := by
      intro r
      split
      · exact hbuilding r
      · rfl
    intro r hr r' hr' h
    obtain ⟨a, ha, rfl⟩ := (Table.mem_modify (h := hid)).mp hr
    obtain ⟨b, hb, rfl⟩ := (Table.mem_modify (h := hid)).mp hr'
    rw [hkeeps, hkeeps] at h
    rw [s.buildingId_unique a ha b hb h]

/-- `updateSubscriptionPlan`: an update by the id. -/
def updateSubscriptionPlan (id : ℕ) (plan : SubscriptionPlan) (s : Store) : Store :=
  modify id (fun r => { r with plan }) (fun _ => rfl) (fun _ => rfl) s

/-- What is written of a status. -/
structure UpdateStatusParams where
  id : ℕ
  status : SubscriptionStatus
  cancelledAt : Option Time := none
  gracePeriodEndsAt : Option Time
  deriving DecidableEq

/-- The row after the update; the date of a cancellation is kept when none is given. -/
def UpdateStatusParams.apply (params : UpdateStatusParams) (r : Subscription) : Subscription :=
  { r with
    status := params.status
    cancelledAt := params.cancelledAt.or r.cancelledAt
    gracePeriodEndsAt := params.gracePeriodEndsAt }

/-- `updateSubscriptionStatus`: an update by the id. -/
def updateSubscriptionStatus (params : UpdateStatusParams) (s : Store) : Store :=
  modify params.id params.apply (fun _ => rfl) (fun _ => rfl) s

/-- `createSubscriptionChangeLog`. -/
def createSubscriptionChangeLog (change : SubscriptionChange) (s : Store) : Store :=
  { s with
    changeLogs := s.changeLogs.create (fun id => { change with id }) fun _ => rfl }

end SubscriptionRepository

/-- A write of a call, with the subscription that the call had read. A status that is written after
the plan, as the second part of one change, `completes` it. -/
inductive Write
  | plan (read : Subscription) (plan : SubscriptionPlan)
  | status (read : Subscription) (completes : Bool)
      (params : SubscriptionRepository.UpdateStatusParams)
  | log (change : SubscriptionChange)
  deriving DecidableEq

/-- What a write does to the tables. -/
def Write.apply : Write → Store → Store
  | plan read p => SubscriptionRepository.updateSubscriptionPlan read.id p
  | status _ _ params => SubscriptionRepository.updateSubscriptionStatus params
  | log change => SubscriptionRepository.createSubscriptionChangeLog change

end VielHome.Subscriptions
