import VielHome.Subscriptions.Schema

/-!
# `SubscriptionService`

The staff changes the plan and the status of a subscription; a sweep of the scheduler, or the staff,
makes the changes that have become due. Every change is a read of the subscription, an update of its
row, and an entry of the change log, each a statement of its own. One `now` stands for the clock
during a call. The audit and what a call returns are left out.
-/

namespace VielHome.Subscriptions

open Relational
open Relational.ReadCommitted (Logged Prog)
open Relational.ReadCommitted.Prog (expect forEach read send tryCatch)
open Community (Time)
open SubscriptionRepository (findSubscriptionByBuildingId findSubscriptionsDueForEvaluation)

/-- A call: reads and writes of the store, one after the other. -/
abbrev Call := Prog (Logged Store Write) Empty Failure

namespace SubscriptionService

/-- `24 * 60 * 60 * 1000`. -/
def dayMs : ℤ := 24 * 60 * 60 * 1000

/-- The subscription of the building, or `404`. -/
def getForBuilding (buildingId : ℕ) : Call Subscription := do
  let subscription ← read (findSubscriptionByBuildingId buildingId)
  expect subscription (.notFound "This building has no subscription record.")

/-- `changePlan`: the plan, and a line of the history. -/
def changePlan (buildingId : ℕ) (newPlan : SubscriptionPlan) (actorPersonId : ℕ)
    (reason : Option String) : Call PUnit := do
  let subscription ← getForBuilding buildingId
  send Write.apply (.plan subscription newPlan)
  send Write.apply (.log
    { subscriptionId := subscription.id, fromPlan := some subscription.plan,
      toPlan := some newPlan, changedById := some actorPersonId, reason })

/-- The end of a grace period that begins now. -/
def graceEnd (subscription : Subscription) (now : Time) : Time :=
  now + subscription.gracePeriodDays * dayMs

/-- What `changeStatus` sets. -/
def statusParams (subscription : Subscription) (newStatus : SubscriptionStatus) (now : Time) :
    SubscriptionRepository.UpdateStatusParams where
  id := subscription.id
  status := newStatus
  cancelledAt := if newStatus = .cancelled then some now else none
  gracePeriodEndsAt :=
    if newStatus = .expired then some (graceEnd subscription now) else none

/-- The client refuses to write an invalid date. -/
def changeStatus (buildingId : ℕ) (newStatus : SubscriptionStatus) (actorPersonId : Option ℕ)
    (reason : Option String) (now : Time) : Call PUnit := do
  let subscription ← getForBuilding buildingId
  Prog.require (newStatus = .expired → IsDate (graceEnd subscription now)) .invalidArgument
  send Write.apply (.status subscription false (statusParams subscription newStatus now))
  send Write.apply (.log
    { subscriptionId := subscription.id, fromStatus := some subscription.status,
      toStatus := some newStatus, changedById := actorPersonId, reason })

/-- The end of a trial or of a grace period: the plan, the status, and one entry for both. -/
def downgrade (subscription : Subscription) (fromStatus : SubscriptionStatus)
    (actorPersonId : Option ℕ) (reason : String) : Call PUnit := do
  send Write.apply (.plan subscription .free)
  send Write.apply (.status subscription true
    { id := subscription.id, status := .active, gracePeriodEndsAt := none })
  send Write.apply (.log
    { subscriptionId := subscription.id, fromPlan := some subscription.plan, toPlan := some .free,
      fromStatus := some fromStatus, toStatus := some .active, changedById := actorPersonId,
      reason := some reason })

/-- `evaluateExpiry`: a trial, a paid period or a grace period that is over comes to its end. -/
def evaluateExpiry (buildingId : ℕ) (actorPersonId : Option ℕ) (now : Time) : Call PUnit := do
  let subscription ← getForBuilding buildingId
  if subscription.status = .trial ∧ ∃ t ∈ subscription.trialEndsAt, t ≤ now then
    downgrade subscription .trial actorPersonId
      "Trial expired — downgraded to Free (07.04 Exception Case)."
  else if subscription.status = .active ∧ ∃ t ∈ subscription.currentPeriodEndsAt, t ≤ now then
    changeStatus buildingId .expired actorPersonId
      (some "Paid period ended — Grace Period started.") now
  else if subscription.status = .expired ∧ ∃ t ∈ subscription.gracePeriodEndsAt, t ≤ now then
    downgrade subscription .expired actorPersonId
      "Grace Period ended — downgraded to Free (04.04 Rule 12)."
  else pure ⟨⟩

/-- The sweep of the scheduler; an evaluation that fails leaves the others to go on. -/
def evaluateAllDueExpiries (now : Time) : Call PUnit := do
  let due ← read (findSubscriptionsDueForEvaluation now)
  forEach due fun buildingId =>
    (evaluateExpiry buildingId none now).tryCatch fun _ => pure ⟨⟩

end SubscriptionService

end VielHome.Subscriptions
