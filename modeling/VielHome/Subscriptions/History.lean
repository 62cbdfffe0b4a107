import VielHome.Relational.Batches
import VielHome.Subscriptions.Expiry

/-!
# The history of a subscription

Replayed in the order of their creation, the entries of the change log should lead from one plan and
status to the next and end in the stored ones (`Reconstructs`). Each change is an update of the row
followed by an entry about what its call had read, so this holds when changes are made in turn: every
one of them finds the plan and the status that its call had read, and no update waits for its entry
at that moment (`reconstructs_of_inTurn`). Nothing enforces it: two changes of the plan at the same
time leave two entries that start from the same plan (`not_reconstructs_twice`).
-/

namespace VielHome.Subscriptions

open Relational
open Relational.ReadCommitted (Database EndsLast Event Logged Prog)
open Community (Time)
open SubscriptionRepository (findSubscriptionByBuildingId)
open SubscriptionService (statusParams)

variable {t t' : Store} {r r' : Subscription} {buildingId : ℕ} {change : SubscriptionChange}

/-! ### Replaying the log -/

/-- What the entries so far say about the plan and the status. -/
structure Recorded where
  plan : Option SubscriptionPlan := none
  status : Option SubscriptionStatus := none
  deriving DecidableEq

/-- What a line of the history says, where it says something. -/
def Recorded.after (recorded : Recorded) (change : SubscriptionChange) : Recorded where
  plan := change.toPlan.or recorded.plan
  status := change.toStatus.or recorded.status

/-- The change starts from what is recorded. -/
def Recorded.Agrees (recorded : Recorded) (change : SubscriptionChange) : Prop :=
  (∀ plan ∈ change.fromPlan, recorded.plan = some plan) ∧
    ∀ status ∈ change.fromStatus, recorded.status = some status

instance (recorded : Recorded) : DecidablePred recorded.Agrees := fun change =>
  inferInstanceAs (Decidable ((∀ plan ∈ change.fromPlan, recorded.plan = some plan) ∧
    ∀ status ∈ change.fromStatus, recorded.status = some status))

/-- What the history says in the end. -/
def replay (recorded : Recorded) (changes : List SubscriptionChange) : Recorded :=
  changes.foldl Recorded.after recorded

/-- Every change starts from what the changes before it leave. -/
def IsChain : Recorded → List SubscriptionChange → Prop
  | _, [] => True
  | recorded, change :: changes =>
    recorded.Agrees change ∧ IsChain (recorded.after change) changes

instance IsChain.decidable : (recorded : Recorded) → DecidablePred (IsChain recorded)
  | _, [] => inferInstanceAs (Decidable True)
  | recorded, change :: changes =>
    have := IsChain.decidable (recorded.after change) changes
    inferInstanceAs (Decidable (recorded.Agrees change ∧
      IsChain (recorded.after change) changes))

theorem isChain_append {recorded : Recorded} {changes : List SubscriptionChange} :
    IsChain recorded (changes ++ [change]) ↔
      IsChain recorded changes ∧ (replay recorded changes).Agrees change := by
  induction changes generalizing recorded with
  | nil => exact and_comm
  | cons c changes ih =>
    rw [List.cons_append, IsChain, IsChain, ih, and_assoc]
    rfl

theorem replay_append {recorded : Recorded} {changes : List SubscriptionChange} :
    replay recorded (changes ++ [change]) = (replay recorded changes).after change := by
  rw [replay, List.foldl_append]
  rfl

/-- The changes of a subscription, in the order of their creation. -/
def history (subscriptionId : ℕ) (t : Store) : List SubscriptionChange :=
  (t.changeLogs.rows.filter fun entry => entry.subscriptionId = subscriptionId).map
    SubscriptionChangeLog.toSubscriptionChange

/-- The log of the subscription of the building is a chain that ends in its plan and its status. -/
def Reconstructs (buildingId : ℕ) (t : Store) : Prop :=
  ∀ r ∈ findSubscriptionByBuildingId buildingId t, IsChain {} (history r.id t) ∧
    replay {} (history r.id t) = ⟨some r.plan, some r.status⟩

instance (buildingId : ℕ) : DecidablePred (Reconstructs buildingId) := fun t =>
  inferInstanceAs (Decidable (∀ r ∈ findSubscriptionByBuildingId buildingId t,
    IsChain {} (history r.id t) ∧ replay {} (history r.id t) = ⟨some r.plan, some r.status⟩))

theorem history_createSubscriptionChangeLog :
    history change.subscriptionId (SubscriptionRepository.createSubscriptionChangeLog change t) =
      history change.subscriptionId t ++ [change] := by
  change ((t.changeLogs.rows ++ [_]).filter _).map _ = _
  rw [List.filter_append, List.map_append]
  simp [history]

/-- A change of the row and an entry about it keep the log in step with the row. -/
theorem Reconstructs.changed (h : Reconstructs buildingId t)
    (hr : findSubscriptionByBuildingId buildingId t = some r) (hrow : Rewrites r r' t t')
    (hbuilding : r'.buildingId = r.buildingId) (hlogs : t'.changeLogs = t.changeLogs)
    (hid : change.subscriptionId = r.id)
    (hagrees : (Recorded.mk (some r.plan) (some r.status)).Agrees change)
    (hafter : (Recorded.mk (some r.plan) (some r.status)).after change =
      ⟨some r'.plan, some r'.status⟩) :
    Reconstructs buildingId (SubscriptionRepository.createSubscriptionChangeLog change t') := by
  intro found hfound
  have hb : r.buildingId = buildingId := by simpa using List.find?_some hr
  have hr' : findSubscriptionByBuildingId buildingId t' = some r' := by
    rw [← hb, ← hbuilding]
    exact findSubscriptionByBuildingId_eq hrow.find?
  obtain rfl : r' = found := Option.some.inj (hr'.symm.trans hfound)
  have hrid : r'.id = r.id := Table.key_of_find? hrow.find?
  have hhistory : history r.id t' = history r.id t := by rw [history, history, hlogs]
  obtain ⟨hchain, hreplay⟩ := h r hr
  rw [hrid, ← hid, history_createSubscriptionChangeLog, hid, hhistory, isChain_append,
    replay_append, hreplay]
  exact ⟨⟨hchain, hagrees⟩, hafter⟩

/-! ### Changes -/

/-- The row has the plan and the status that were read. -/
def SameState (read : Subscription) (t : Store) : Prop :=
  ∃ r ∈ findSubscriptionByBuildingId read.buildingId t,
    r.id = read.id ∧ r.plan = read.plan ∧ r.status = read.status

instance (read : Subscription) : DecidablePred (SameState read) := fun t =>
  inferInstanceAs (Decidable (∃ r ∈ findSubscriptionByBuildingId read.buildingId t,
    r.id = read.id ∧ r.plan = read.plan ∧ r.status = read.status))

/-- The update finds the plan and the status that its call has read. -/
def Write.Current : Write → Store → Prop
  | .plan read _, t => SameState read t
  | .status read _ _, t => SameState read t
  | .log _, _ => True

instance : (w : Write) → DecidablePred w.Current
  | .plan read _ => inferInstanceAs (DecidablePred (SameState read))
  | .status read _ _ => inferInstanceAs (DecidablePred (SameState read))
  | .log _ => fun _ => inferInstanceAs (Decidable True)

/-- The first update of a change. -/
def Write.Begins : Write → Prop
  | .plan _ _ => True
  | .status _ completes _ => completes = false
  | .log _ => False

/-- The entry of a change. -/
def Write.Ends : Write → Prop
  | .log _ => True
  | _ => False

instance : DecidablePred Write.Begins
  | .plan _ _ => inferInstanceAs (Decidable True)
  | .status _ completes _ => inferInstanceAs (Decidable (completes = false))
  | .log _ => inferInstanceAs (Decidable False)

instance : DecidablePred Write.Ends
  | .plan _ _ => inferInstanceAs (Decidable False)
  | .status _ _ _ => inferInstanceAs (Decidable False)
  | .log _ => inferInstanceAs (Decidable True)

/-- What a call sends when it has read the subscription of the building. -/
inductive Change (buildingId : ℕ) : Write → List Write → Prop
  | plan (read : Subscription) (newPlan : SubscriptionPlan) (changedById : Option ℕ)
      (reason : Option String) (hread : read.buildingId = buildingId) :
      Change buildingId (.plan read newPlan) [.log
        { subscriptionId := read.id, fromPlan := some read.plan, toPlan := some newPlan,
          changedById, reason }]
  | status (read : Subscription) (newStatus : SubscriptionStatus) (changedById : Option ℕ)
      (reason : Option String) (now : Time) (hread : read.buildingId = buildingId) :
      Change buildingId (.status read false (statusParams read newStatus now)) [.log
        { subscriptionId := read.id, fromStatus := some read.status, toStatus := some newStatus,
          changedById, reason }]
  | downgrade (read : Subscription) (changedById : Option ℕ) (reason : Option String)
      (hread : read.buildingId = buildingId) :
      Change buildingId (.plan read .free) [.status read true
          { id := read.id, status := .active, gracePeriodEndsAt := none }, .log
        { subscriptionId := read.id, fromPlan := some read.plan, toPlan := some .free,
          fromStatus := some read.status, toStatus := some .active, changedById, reason }]

theorem Change.shape {w : Write} {ws : List Write} (h : Change buildingId w ws) :
    w.Begins ∧ EndsLast Write.Ends w ws := by
  cases h with
  | plan => exact ⟨trivial, id, trivial⟩
  | status => exact ⟨rfl, id, trivial⟩
  | downgrade => exact ⟨trivial, id, id, trivial⟩

/-- A change that is made on its own, and finds what its call has read, keeps the log in step with
the row. -/
theorem Change.reconstructs {s : Logged Store Write} {w : Write} {ws : List Write}
    (h : Change buildingId w ws) (hs : Reconstructs buildingId s.data) (hw : w.Current s.data) :
    Reconstructs buildingId
      ((w :: ws).foldl (fun s w => s.make Write.apply w) s).data := by
  have hfind : ∀ {r}, r ∈ findSubscriptionByBuildingId buildingId s.data →
      s.data.subscriptions.find? r.id = some r := fun hr =>
    Table.find?_of_mem (Table.mem_rows.mp (List.mem_of_find?_eq_some hr))
  cases h with
  | plan read newPlan changedById reason hread =>
    obtain ⟨r, hr, hid, hplan, hstatus⟩ := hw
    rw [hread] at hr
    have hrow : Rewrites r { r with plan := newPlan } s.data
        (SubscriptionRepository.updateSubscriptionPlan read.id newPlan s.data) := by
      rw [← hid]
      exact Rewrites.modify (hfind hr)
    refine hs.changed hr hrow rfl rfl hid.symm ⟨?_, fun _ h => (nomatch h)⟩ rfl
    rintro _ ⟨⟩
    rw [hplan]
  | status read newStatus changedById reason now hread =>
    obtain ⟨r, hr, hid, hplan, hstatus⟩ := hw
    rw [hread] at hr
    have hrow : Rewrites r ((statusParams read newStatus now).apply r) s.data
        (SubscriptionRepository.updateSubscriptionStatus (statusParams read newStatus now)
          s.data) := by
      refine rewrites_updateStatus ?_ hid.symm
      change s.data.subscriptions.find? read.id = some r
      rw [← hid]
      exact hfind hr
    refine hs.changed hr hrow rfl rfl hid.symm ⟨fun _ h => (nomatch h), ?_⟩ rfl
    rintro _ ⟨⟩
    rw [hstatus]
  | downgrade read changedById reason hread =>
    obtain ⟨r, hr, hid, hplan, hstatus⟩ := hw
    rw [hread] at hr
    have hfree : Rewrites r { r with plan := .free } s.data
        (SubscriptionRepository.updateSubscriptionPlan read.id .free s.data) := by
      rw [← hid]
      exact Rewrites.modify (hfind hr)
    have hrid : ({ r with plan := .free } : Subscription).id = r.id := rfl
    -- the downgrade writes the row twice: the plan first, then the status
    have hactive : Rewrites { r with plan := .free } (downgraded r)
        (SubscriptionRepository.updateSubscriptionPlan read.id .free s.data)
        (SubscriptionRepository.updateSubscriptionStatus
          { id := read.id, status := .active, gracePeriodEndsAt := none }
          (SubscriptionRepository.updateSubscriptionPlan read.id .free s.data)) := by
      refine rewrites_updateStatus ?_ hid.symm
      rw [← hid] at hfree ⊢
      exact hfree.find?
    have hrow := Rewrites.trans hrid hfree hactive
    refine hs.changed hr hrow rfl rfl hid.symm ⟨?_, ?_⟩ rfl
    · rintro _ ⟨⟩
      rw [hplan]
    · rintro _ ⟨⟩
      rw [hstatus]

/-! ### Calls -/

/-- The calls on the subscription of a building. -/
inductive SubscriptionCall
  | changePlan (newPlan : SubscriptionPlan) (actorPersonId : ℕ) (reason : Option String)
  | changeStatus (newStatus : SubscriptionStatus) (actorPersonId : Option ℕ)
      (reason : Option String) (now : Time)
  | evaluateExpiry (actorPersonId : Option ℕ) (now : Time)

/-- The method of the service that the call is made to. -/
def SubscriptionCall.call (buildingId : ℕ) : SubscriptionCall → Call PUnit
  | changePlan newPlan actorPersonId reason =>
    SubscriptionService.changePlan buildingId newPlan actorPersonId reason
  | changeStatus newStatus actorPersonId reason now =>
    SubscriptionService.changeStatus buildingId newStatus actorPersonId reason now
  | evaluateExpiry actorPersonId now =>
    SubscriptionService.evaluateExpiry buildingId actorPersonId now

theorem batches_getForBuilding {f : Subscription → Call PUnit}
    (h : ∀ r, r.buildingId = buildingId → (f r).Batches Write.apply (Change buildingId) id) :
    (SubscriptionService.getForBuilding buildingId >>= f).Batches Write.apply (Change buildingId)
      id := by
  rw [SubscriptionService.getForBuilding, Prog.bind_assoc]
  refine Prog.Batches.read fun s => Prog.Batches.expect fun r hr => h r ?_
  have hb := List.find?_some hr
  exact of_decide_eq_true hb

theorem batches_changeStatus (newStatus : SubscriptionStatus) (actorPersonId : Option ℕ)
    (reason : Option String) (now : Time) :
    (SubscriptionService.changeStatus buildingId newStatus actorPersonId reason now).Batches
      Write.apply (Change buildingId) id :=
  batches_getForBuilding fun r hr => Prog.Batches.require fun _ => Prog.Batches.of_owes
    (.status r newStatus actorPersonId reason now hr) (Prog.Owes.send_bind (Prog.Owes.send _))

theorem batches_downgrade (hr : r.buildingId = buildingId) (actorPersonId : Option ℕ)
    (reason : String) :
    (SubscriptionService.downgrade r r.status actorPersonId reason).Batches Write.apply
      (Change buildingId) id :=
  Prog.Batches.of_owes (.downgrade r actorPersonId (some reason) hr)
    (Prog.Owes.send_bind (Prog.Owes.send_bind (Prog.Owes.send _)))

/-- Every call reads, and then sends one change or none. -/
theorem SubscriptionCall.batches (c : SubscriptionCall) :
    (c.call buildingId).Batches Write.apply (Change buildingId) id := by
  cases c with
  | changePlan newPlan actorPersonId reason =>
    exact batches_getForBuilding fun r hr => Prog.Batches.of_owes
      (.plan r newPlan (some actorPersonId) reason hr) (Prog.Owes.send_bind (Prog.Owes.send _))
  | changeStatus newStatus actorPersonId reason now =>
    exact batches_changeStatus newStatus actorPersonId reason now
  | evaluateExpiry actorPersonId now =>
    refine batches_getForBuilding fun r hr => ?_
    split
    case isTrue htrial =>
      rw [← htrial.1]
      exact batches_downgrade hr actorPersonId _
    case isFalse =>
      split
      case isTrue => exact batches_changeStatus _ _ _ _
      case isFalse =>
        split
        case isTrue hexpired =>
          rw [← hexpired.1]
          exact batches_downgrade hr actorPersonId _
        case isFalse => exact Prog.Batches.done _

/-- The calls before any of them has run. -/
def startCalls {ι : Type} (buildingId : ℕ) (store : Store) (calls : ι → SubscriptionCall) :
    Database ι (Logged Store Write) Empty Failure PUnit :=
  .start ⟨store, []⟩ fun i => (calls i).call buildingId

/-- The state after some events of the calls. -/
def runCalls {ι : Type} [DecidableEq ι] (buildingId : ℕ) (store : Store)
    (calls : ι → SubscriptionCall) (es : List (Event ι Failure)) :
    Database ι (Logged Store Write) Empty Failure PUnit :=
  runFrom (Database.next Empty.elim) (startCalls buildingId store calls) es

/-- Any number of changes of one subscription, statement by statement in any order: when no call is
under way, the log is a chain that ends in the stored plan and status, as long as every change
begins with an update that finds the plan and the status which its call has read, and begins only
when the last change has its entry. -/
theorem reconstructs_of_inTurn {ι : Type} [DecidableEq ι] (buildingId : ℕ) {store : Store}
    (hstore : Reconstructs buildingId store) (calls : ι → SubscriptionCall)
    {es : List (Event ι Failure)}
    (hes : EachStep (Database.next Empty.elim)
      (Database.InTurn Write.Begins Write.Ends Write.Current) (startCalls buildingId store calls)
      es)
    (hidle : ∀ i, (∀ e ∈ es, e.session ≠ i) ∨
      ((runCalls buildingId store calls es).session i).rest.ended = true) :
    Reconstructs buildingId (runCalls buildingId store calls es).store.data :=
  Database.holds_of_inTurn (P := fun s => Reconstructs buildingId s.data)
    (fun _ _ h => h.shape) (fun _ _ _ hs h hw => h.reconstructs hs hw)
    (fun i => (calls i).batches) (fun _ h => (nomatch h)) hstore hes hidle

/-! ### Two changes of the plan -/

/-- A building with a new subscription, and the entry of its creation. -/
def newBuilding : Store :=
  { (oneSubscription (fun id => { id, buildingId := 4 }) fun _ => rfl).data with
    changeLogs := Table.empty.create fun id =>
      { id, subscriptionId := 0, toPlan := some .free, toStatus := some .trial } }

/-- Two members of the staff change the plan. -/
def twoPlans : Fin 2 → SubscriptionCall
  | 0 => .changePlan .pro 7 none
  | 1 => .changePlan .enterprise 8 none

theorem reconstructs_of_inTurn_twice : Reconstructs 4
    (runCalls 4 newBuilding twoPlans
      (List.replicate 5 (Event.step 0) ++ List.replicate 5 (Event.step 1))).store.data :=
  reconstructs_of_inTurn 4 (by decide +kernel) twoPlans (by decide +kernel)
    fun i => Or.inr (by revert i; decide +kernel)

/-- Both read the plan before either has changed it: the second entry starts from a plan that is not
the stored one any more. -/
theorem not_reconstructs_twice :
    let d := runCalls 4 newBuilding twoPlans ([Event.step 0, Event.step 1] ++
      List.replicate 4 (Event.step 0) ++ List.replicate 4 (Event.step 1))
    (∀ i, (d.session i).rest.ended = true) ∧ ¬ Reconstructs 4 d.store.data := by
  decide +kernel

end VielHome.Subscriptions
