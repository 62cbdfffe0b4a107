import Mathlib.Data.Nat.Lattice
import Mathlib.Data.Int.ConditionallyCompleteOrder
import Mathlib.Order.Monotone.Basic
import VielHome.Subscriptions.Service

/-!
# Expiry

What a sweep does to one subscription (`evaluated`), and what many sweeps do. A trial or a grace
period ends in the plan `FREE` and the status `ACTIVE`, but the end of the paid period stays in the
row. So a row settles after its downgrade exactly when no later sweep finds a paid period that is
over: where one does, the free subscription expires and is downgraded again and again. And a grace
period of so many days that its end is no `Date` never begins: the sweeps select the row again and
again, and do not change it.
-/

namespace VielHome.Subscriptions

open Relational
open Relational.ReadCommitted (Logged Prog)
open Community (Time)
open SubscriptionRepository (Due findSubscriptionByBuildingId findSubscriptionsDueForEvaluation)
open SubscriptionService (dayMs evaluateAllDueExpiries evaluateExpiry graceEnd statusParams)

variable {s : Logged Store Write} {r : Subscription} {id buildingId : ℕ} {now : Time}

/-! ### One sweep -/

/-- The end of a trial or of a grace period. -/
def downgraded (r : Subscription) : Subscription :=
  { r with plan := .free, status := .active, gracePeriodEndsAt := none }

/-- What an evaluation makes of a subscription: nothing where the grace period has no end. -/
def evaluated (now : Time) (r : Subscription) : Subscription :=
  if Due now r then
    if r.status = .active then
      if IsDate (graceEnd r now) then (statusParams r .expired now).apply r else r
    else downgraded r
  else r

theorem evaluated_of_not_due (h : ¬ Due now r) : evaluated now r = r := if_neg h

theorem due_active (h : r.status = .active) :
    Due now r ↔ ∃ t ∈ r.currentPeriodEndsAt, t ≤ now := by
  simp [Due, h]

/-- A subscription that is due changes its status, if its grace period can begin. -/
theorem evaluated_ne (h : Due now r) (hdate : r.status = .active → IsDate (graceEnd r now)) :
    evaluated now r ≠ r := by
  intro heq
  rw [evaluated, if_pos h] at heq
  split at heq
  case isTrue hactive =>
    rw [if_pos (hdate hactive)] at heq
    have hstatus : SubscriptionStatus.expired = r.status := congrArg Subscription.status heq
    rw [hactive] at hstatus
    exact absurd hstatus (by decide)
  case isFalse hactive => exact hactive (congrArg Subscription.status heq).symm

theorem evaluated_buildingId : (evaluated now r).buildingId = r.buildingId := by
  unfold evaluated
  split
  · split
    · split <;> rfl
    · rfl
  · rfl

/-- The subscription of the building. -/
theorem findSubscriptionByBuildingId_eq {t : Store} (hr : t.subscriptions.find? id = some r) :
    findSubscriptionByBuildingId r.buildingId t = some r := by
  have hmem : r ∈ t.subscriptions := Table.mem_of_find? hr
  have hsome : (t.subscriptions.rows.find? fun r' => r'.buildingId = r.buildingId).isSome := by
    rw [List.find?_isSome]
    exact ⟨r, hmem, by simp⟩
  obtain ⟨r', hr'⟩ := Option.isSome_iff_exists.mp hsome
  have hbuilding : r'.buildingId = r.buildingId := by simpa using List.find?_some hr'
  rw [findSubscriptionByBuildingId, hr', t.buildingId_unique r' (List.mem_of_find?_eq_some hr') r
    hmem hbuilding]

/-- From one store to the next the subscription `r` is rewritten, and no other one. -/
def Rewrites (r r' : Subscription) (t t' : Store) : Prop :=
  ∀ k, t'.subscriptions.find? k = if k = r.id then some r' else t.subscriptions.find? k

theorem Rewrites.modify {t : Store} (hr : t.subscriptions.find? r.id = some r)
    {f : Subscription → Subscription} {hid : ∀ r, (f r).id = r.id}
    {hbuilding : ∀ r, (f r).buildingId = r.buildingId} :
    Rewrites r (f r) t (SubscriptionRepository.modify r.id f hid hbuilding t) := by
  intro k
  change (t.subscriptions.modify r.id f hid).find? k = _
  rw [Table.find?_modify]
  split
  case isTrue hk => rw [hk, hr, Option.map_some]
  case isFalse => rfl

theorem Rewrites.refl {t : Store} (hr : t.subscriptions.find? r.id = some r) :
    Rewrites r r t t := by
  intro k
  split
  case isTrue hk => rw [hk, hr]
  case isFalse => rfl

theorem rewrites_updateStatus {t : Store} {params : SubscriptionRepository.UpdateStatusParams}
    (hr : t.subscriptions.find? params.id = some r) (hid : params.id = r.id) :
    Rewrites r (params.apply r) t (SubscriptionRepository.updateSubscriptionStatus params t) := by
  rw [hid] at hr
  rw [SubscriptionRepository.updateSubscriptionStatus, hid]
  exact Rewrites.modify hr

theorem Rewrites.trans {r' r'' : Subscription} {t t' t'' : Store} (hid : r'.id = r.id)
    (h : Rewrites r r' t t') (h' : Rewrites r' r'' t' t'') : Rewrites r r'' t t'' := by
  intro k
  rw [h' k, h k, hid]
  split <;> rfl

theorem Rewrites.find? {r' : Subscription} {t t' : Store} (h : Rewrites r r' t t') :
    t'.subscriptions.find? r.id = some r' := by
  rw [h, if_pos rfl]

theorem solo_getForBuilding_bind {f : Subscription → Call PUnit} {c : Logged Store Write}
    (hr : findSubscriptionByBuildingId buildingId s.data = some r) :
    (SubscriptionService.getForBuilding buildingId >>= f).solo c s = (f r).solo c s := by
  rw [SubscriptionService.getForBuilding, Prog.bind_assoc, Prog.solo_read_bind,
    Prog.solo_expect_bind, hr]

theorem solo_downgrade (hr : s.data.subscriptions.find? r.id = some r)
    (fromStatus : SubscriptionStatus) (actorPersonId : Option ℕ) (reason : String) :
    ∃ s', (SubscriptionService.downgrade r fromStatus actorPersonId reason).solo s s =
        (.ok ⟨⟩, s', s') ∧ Rewrites r (downgraded r) s.data s'.data := by
  refine ⟨_, rfl, ?_⟩
  have hplan : Rewrites r { r with plan := .free } s.data
      (SubscriptionRepository.updateSubscriptionPlan r.id .free s.data) := Rewrites.modify hr
  have hid : ({ r with plan := .free } : Subscription).id = r.id := rfl
  exact Rewrites.trans hid hplan (rewrites_updateStatus hplan.find? rfl)

theorem solo_changeStatus (hr : s.data.subscriptions.find? r.id = some r)
    {newStatus : SubscriptionStatus} {now : Time}
    (hdate : newStatus = .expired → IsDate (graceEnd r now)) (actorPersonId : Option ℕ)
    (reason : Option String) :
    ∃ s', (SubscriptionService.changeStatus r.buildingId newStatus actorPersonId reason now).solo s
        s = (.ok ⟨⟩, s', s') ∧
      Rewrites r ((statusParams r newStatus now).apply r) s.data s'.data := by
  rw [SubscriptionService.changeStatus,
    solo_getForBuilding_bind (findSubscriptionByBuildingId_eq hr), Prog.require_bind, if_pos hdate]
  exact ⟨_, rfl, rewrites_updateStatus hr rfl⟩

theorem solo_changeStatus_refused (hr : s.data.subscriptions.find? r.id = some r) {now : Time}
    (hdate : ¬ IsDate (graceEnd r now)) (actorPersonId : Option ℕ) (reason : Option String) :
    (SubscriptionService.changeStatus r.buildingId .expired actorPersonId reason now).solo s s =
      (.error .invalidArgument, s, s) := by
  rw [SubscriptionService.changeStatus,
    solo_getForBuilding_bind (findSubscriptionByBuildingId_eq hr), Prog.require_bind,
    if_neg fun h => hdate (h rfl), Prog.solo_fail]

/-- An evaluation rewrites the subscription of its building. -/
theorem solo_evaluateExpiry (hr : s.data.subscriptions.find? r.id = some r)
    (actorPersonId : Option ℕ) (now : Time) :
    ∃ outcome s', (evaluateExpiry r.buildingId actorPersonId now).solo s s = (outcome, s', s') ∧
      Rewrites r (evaluated now r) s.data s'.data := by
  rw [evaluateExpiry, solo_getForBuilding_bind (findSubscriptionByBuildingId_eq hr)]
  split
  case isTrue htrial =>
    have hdue : Due now r := Or.inl htrial
    rw [evaluated, if_pos hdue, if_neg (by rw [htrial.1]; decide)]
    exact ⟨_, solo_downgrade hr _ _ _⟩
  case isFalse htrial =>
    split
    case isTrue hactive =>
      have hdue : Due now r := Or.inr (Or.inl hactive)
      rw [evaluated, if_pos hdue, if_pos hactive.1]
      split
      case isTrue hdate => exact ⟨_, solo_changeStatus hr (fun _ => hdate) _ _⟩
      case isFalse hdate => exact ⟨_, s, solo_changeStatus_refused hr hdate _ _, Rewrites.refl hr⟩
    case isFalse hactive =>
      split
      case isTrue hexpired =>
        have hdue : Due now r := Or.inr (Or.inr hexpired)
        rw [evaluated, if_pos hdue, if_neg (by rw [hexpired.1]; decide)]
        exact ⟨_, solo_downgrade hr _ _ _⟩
      case isFalse hexpired =>
        rw [evaluated_of_not_due fun h => h.elim htrial fun h => h.elim hactive hexpired]
        exact ⟨_, s, rfl, Rewrites.refl hr⟩

/-- Evaluations of different buildings, one after the other: each subscription is evaluated when its
building is one of them. -/
theorem solo_forEach_evaluateExpiry (now : Time) {buildingIds : List ℕ} (hnodup : buildingIds.Nodup)
    (hknown : ∀ b ∈ buildingIds, ∃ r ∈ s.data.subscriptions, r.buildingId = b) :
    ∃ s', (Prog.forEach buildingIds fun b =>
        (evaluateExpiry b none now).tryCatch fun _ => pure ⟨⟩).solo s s = (.ok ⟨⟩, s', s') ∧
      ∀ k, s'.data.subscriptions.find? k = (s.data.subscriptions.find? k).map fun r =>
        if r.buildingId ∈ buildingIds then evaluated now r else r := by
  -- the store changes with each building, its other subscriptions do not
  induction buildingIds generalizing s with
  | nil => exact ⟨s, rfl, fun k => by simp⟩
  | cons b buildingIds ih =>
    obtain ⟨r, hr, rfl⟩ := hknown b List.mem_cons_self
    obtain ⟨hb, htail⟩ := List.nodup_cons.mp hnodup
    obtain ⟨outcome, s₁, hsolo, hrewrites⟩ := solo_evaluateExpiry (Table.find?_of_mem hr) none now
    have hid : (evaluated now r).id = r.id := Table.key_of_find? hrewrites.find?
    have hstill : ∀ b ∈ buildingIds, ∃ r ∈ s₁.data.subscriptions, r.buildingId = b := by
      intro b hbmem
      obtain ⟨r', hr', rfl⟩ := hknown b (List.mem_cons_of_mem _ hbmem)
      have hne : r'.id ≠ r.id := by
        intro heq
        rw [Table.eq_of_key_eq hr' hr heq] at hbmem
        exact hb hbmem
      refine ⟨r', Table.mem_of_find? (k := r'.id) ?_, rfl⟩
      rw [hrewrites, if_neg hne]
      exact Table.find?_of_mem hr'
    obtain ⟨s₂, hrest, hfind⟩ := ih htail hstill
    refine ⟨s₂, ?_, fun k => ?_⟩
    · rw [Prog.forEach_cons, Prog.solo_bind, Prog.solo_tryCatch, hsolo]
      -- the loop goes on when one building fails
      cases outcome with
      | ok u => exact hrest
      | error e => exact hrest
    · rw [hfind, hrewrites]
      split
      case isTrue hk =>
        have hrow : s.data.subscriptions.find? k = some r := hk ▸ Table.find?_of_mem hr
        rw [hrow, Option.map_some, Option.map_some, if_pos List.mem_cons_self, evaluated_buildingId,
          if_neg hb]
      case isFalse hk =>
        refine Option.map_congr fun r' hr' => ?_
        have hne : r'.buildingId ≠ r.buildingId := by
          intro heq
          rw [s.data.buildingId_unique r' (Table.mem_of_find? hr') r hr heq] at hr'
          exact hk (Table.key_of_find? hr').symm
        simp only [List.mem_cons, hne, false_or]

/-- The sweep evaluates every subscription, and only those that are due change. -/
theorem find?_sweep (now : Time) (s : Logged Store Write) (k : ℕ) :
    ((evaluateAllDueExpiries now).exec s).data.subscriptions.find? k =
      (s.data.subscriptions.find? k).map (evaluated now) := by
  have hnodup : (findSubscriptionsDueForEvaluation now s.data).Nodup := by
    refine List.Nodup.map_on (fun r hr r' hr' h => ?_)
      ((List.Nodup.of_map _ s.data.subscriptions.nodup).filter _)
    exact s.data.buildingId_unique r (List.mem_of_mem_filter hr) r' (List.mem_of_mem_filter hr') h
  have hknown : ∀ b ∈ findSubscriptionsDueForEvaluation now s.data,
      ∃ r ∈ s.data.subscriptions, r.buildingId = b := by
    intro b hb
    obtain ⟨r, hr, rfl⟩ := List.mem_map.mp hb
    exact ⟨r, List.mem_of_mem_filter hr, rfl⟩
  obtain ⟨s', hsolo, hfind⟩ := solo_forEach_evaluateExpiry now hnodup hknown
  rw [Prog.exec, evaluateAllDueExpiries, Prog.solo_read_bind, hsolo, hfind]
  refine Option.map_congr fun r hr => ?_
  split
  case isTrue => rfl
  case isFalse hb =>
    refine (evaluated_of_not_due fun hdue => hb ?_).symm
    exact List.mem_map.mpr ⟨r, List.mem_filter.mpr ⟨Table.mem_of_find? hr,
      decide_eq_true hdue⟩, rfl⟩

/-- The subscriptions that the query of a sweep selects are those that are due. -/
theorem selected_iff (hr : s.data.subscriptions.find? id = some r) :
    r.buildingId ∈ findSubscriptionsDueForEvaluation now s.data ↔ Due now r := by
  have hmem : r ∈ s.data.subscriptions := Table.mem_of_find? hr
  constructor
  · intro hb
    obtain ⟨r', hr', hbuilding⟩ := List.mem_map.mp hb
    obtain ⟨hmem', hdue⟩ := List.mem_filter.mp hr'
    rw [← s.data.buildingId_unique r' hmem' r hmem hbuilding]
    exact of_decide_eq_true hdue
  · exact fun hdue => List.mem_map.mpr ⟨r, List.mem_filter.mpr ⟨hmem, decide_eq_true hdue⟩, rfl⟩

/-! ### Many sweeps -/

/-- The store after the first `n` sweeps. -/
def sweeps (times : ℕ → Time) (s : Logged Store Write) : ℕ → Logged Store Write
  | 0 => s
  | n + 1 => (evaluateAllDueExpiries (times n)).exec (sweeps times s n)

/-- The subscription after the first `n` sweeps. -/
def swept (times : ℕ → Time) (r : Subscription) : ℕ → Subscription
  | 0 => r
  | n + 1 => evaluated (times n) (swept times r n)

variable {times : ℕ → Time}

theorem find?_sweeps (hr : s.data.subscriptions.find? id = some r) (n : ℕ) :
    (sweeps times s n).data.subscriptions.find? id = some (swept times r n) := by
  induction n with
  | zero => exact hr
  | succ n ih => rw [sweeps, find?_sweep, ih, Option.map_some, swept]

/-- What no sweep changes. -/
theorem swept_kept (n : ℕ) :
    (swept times r n).trialEndsAt = r.trialEndsAt ∧
      (swept times r n).currentPeriodEndsAt = r.currentPeriodEndsAt ∧
      (swept times r n).gracePeriodDays = r.gracePeriodDays := by
  induction n with
  | zero => exact ⟨rfl, rfl, rfl⟩
  | succ n ih =>
    rw [swept]
    unfold evaluated
    split
    · split
      · split <;> exact ih
      · exact ih
    · exact ih

theorem due_of_changed {n : ℕ} (h : swept times r (n + 1) ≠ swept times r n) :
    Due (times n) (swept times r n) := by_contra fun hdue => h (evaluated_of_not_due hdue)

theorem changed_of_due {n : ℕ} (hdue : Due (times n) (swept times r n))
    (hactive : (swept times r n).status ≠ .active) : swept times r (n + 1) ≠ swept times r n :=
  evaluated_ne hdue fun h => absurd h hactive

/-- Sweeps that do not find the subscription due leave it. -/
theorem swept_eq_of_not_due {a n : ℕ} (han : a ≤ n)
    (h : ∀ k, a ≤ k → k < n → ¬ Due (times k) (swept times r a)) :
    swept times r n = swept times r a := by
  induction n, han using Nat.le_induction with
  | base => rfl
  | succ n han ih =>
    have hn : swept times r n = swept times r a := ih fun k hak hk => h k hak (Nat.lt_succ_of_lt hk)
    have hdue : ¬ Due (times n) (swept times r n) := by
      rw [hn]
      exact h n han (Nat.lt_succ_self n)
    rw [swept, evaluated_of_not_due hdue, hn]

/-- A subscription that would be due by some sweep is first found due as it is. -/
theorem exists_first_due {a n : ℕ} (han : a ≤ n) (hdue : Due (times n) (swept times r a)) :
    ∃ i, a ≤ i ∧ i ≤ n ∧ swept times r i = swept times r a ∧ Due (times i) (swept times r i) ∧
      ∀ k, a ≤ k → k < i → ¬ Due (times k) (swept times r a) := by
  classical
  have hex : ∃ i, a ≤ i ∧ Due (times i) (swept times r a) := ⟨n, han, hdue⟩
  obtain ⟨hstart, hfirst⟩ := Nat.find_spec hex
  have hbefore : ∀ k, a ≤ k → k < Nat.find hex → ¬ Due (times k) (swept times r a) :=
    fun k hak hk h => Nat.find_min hex hk ⟨hak, h⟩
  have hi := swept_eq_of_not_due hstart hbefore
  exact ⟨Nat.find hex, hstart, Nat.find_min' hex ⟨han, hdue⟩, hi, by rwa [hi], hbefore⟩

/-- A subscription that some sweep finds due is first found due as it is. -/
theorem exists_due_before {a n : ℕ} (han : a ≤ n) (hdue : Due (times n) (swept times r n)) :
    ∃ i, a ≤ i ∧ i ≤ n ∧ swept times r i = swept times r a ∧ Due (times i) (swept times r i) ∧
      ∀ k, a ≤ k → k < i → ¬ Due (times k) (swept times r a) := by
  by_cases hex : ∃ i, a ≤ i ∧ i ≤ n ∧ Due (times i) (swept times r a)
  · obtain ⟨i, hai, hin, hi⟩ := hex
    obtain ⟨j, haj, hji, hj⟩ := exists_first_due hai hi
    exact ⟨j, haj, hji.trans hin, hj⟩
  · have hn := swept_eq_of_not_due han fun k hak hk h => hex ⟨k, hak, hk.le, h⟩
    exact absurd ⟨n, han, le_rfl, hn ▸ hdue⟩ hex

/-- The change is the end of a trial or of a grace period. -/
def IsDowngrade (r r' : Subscription) : Prop :=
  r' ≠ r ∧ (r.status = .trial ∨ r.status = .expired) ∧ r'.plan = .free ∧ r'.status = .active

theorem isDowngrade_iff {n : ℕ} :
    IsDowngrade (swept times r n) (swept times r (n + 1)) ↔
      Due (times n) (swept times r n) ∧ (swept times r n).status ≠ .active := by
  rw [IsDowngrade]
  constructor
  · rintro ⟨hchanged, hstatus, -⟩
    refine ⟨due_of_changed hchanged, fun hactive => ?_⟩
    rw [hactive] at hstatus
    exact absurd hstatus (by decide)
  · rintro ⟨hdue, hactive⟩
    have hafter : swept times r (n + 1) = downgraded (swept times r n) := by
      rw [swept, evaluated, if_pos hdue, if_neg hactive]
    refine ⟨changed_of_due hdue hactive, ?_, by rw [hafter]; rfl, by rw [hafter]; rfl⟩
    rcases hdue with h | h | h
    · exact Or.inl h.1
    · exact absurd h.1 hactive
    · exact Or.inr h.1

/-- After a downgrade the subscription is active, and falls due when the paid period is over. -/
theorem due_after_downgrade {n : ℕ} {now : Time} (hdue : Due (times n) (swept times r n))
    (hactive : (swept times r n).status ≠ .active) :
    Due now (swept times r (n + 1)) ↔ ∃ t ∈ r.currentPeriodEndsAt, t ≤ now := by
  have hafter : swept times r (n + 1) = downgraded (swept times r n) := by
    rw [swept, evaluated, if_pos hdue, if_neg hactive]
  have hperiod : (swept times r n).currentPeriodEndsAt = r.currentPeriodEndsAt :=
    (swept_kept n).2.1
  rw [Due, hafter]
  simp [downgraded, hperiod]

/-- After the end of a paid period the subscription falls due when the grace period is over. -/
theorem due_after_expiry (now : Time) {n : ℕ} (hdue : Due (times n) (swept times r n))
    (hactive : (swept times r n).status = .active)
    (hdate : IsDate (times n + r.gracePeriodDays * dayMs)) :
    (swept times r (n + 1)).status = .expired ∧ (Due now (swept times r (n + 1)) ↔
      times n + r.gracePeriodDays * dayMs ≤ now) := by
  have hdays : (swept times r n).gracePeriodDays = r.gracePeriodDays := (swept_kept n).2.2
  have hend : graceEnd (swept times r n) (times n) = times n + r.gracePeriodDays * dayMs := by
    rw [graceEnd, hdays]
  have hafter : swept times r (n + 1) =
      (statusParams (swept times r n) .expired (times n)).apply (swept times r n) := by
    rw [swept, evaluated, if_pos hdue, if_pos hactive, if_pos (hend ▸ hdate)]
  rw [Due, hafter]
  simp [statusParams, SubscriptionRepository.UpdateStatusParams.apply, hend]

/-- A downgrade falls due at a sweep, and a later one finds the paid period over. -/
def ExpiresAgain (times : ℕ → Time) (r : Subscription) : Prop :=
  ∃ i j, i < j ∧ ∃ period ∈ r.currentPeriodEndsAt,
    match r.status with
    | .trial => (∃ t ∈ r.trialEndsAt, t ≤ times i) ∧ period ≤ times j
    | .active => period ≤ times i ∧ times i + r.gracePeriodDays * dayMs ≤ times j
    | .expired => (∃ t ∈ r.gracePeriodEndsAt, t ≤ times i) ∧ period ≤ times j
    | .cancelled => False

/-- The first sweep that finds the paid period over cannot begin the grace period, whose end is no
`Date`. -/
def GraceRefused (times : ℕ → Time) (r : Subscription) : Prop :=
  r.status = .active ∧ ∃ i, ∃ period ∈ r.currentPeriodEndsAt, period ≤ times i ∧
    (∀ k < i, times k < period) ∧ ¬ IsDate (times i + r.gracePeriodDays * dayMs)

/-- Where the grace period can begin, the end of the paid period is a change. -/
theorem isDate_of_first_due (hgrace : ¬ GraceRefused times r) {i : ℕ} (hactive : r.status = .active)
    (hdue : Due (times i) r) (hfirst : ∀ k < i, ¬ Due (times k) r) :
    IsDate (times i + r.gracePeriodDays * dayMs) := by
  by_contra hdate
  obtain ⟨period, hperiod, hover⟩ := (due_active hactive).mp hdue
  refine hgrace ⟨hactive, i, period, hperiod, hover, fun k hk => ?_, hdate⟩
  by_contra hle
  exact hfirst k hk ((due_active hactive).mpr ⟨period, hperiod, not_lt.mp hle⟩)

/-- The first sweep that finds the subscription due. -/
theorem exists_first {n : ℕ} (hdue : Due (times n) (swept times r n)) :
    ∃ i ≤ n, swept times r i = r ∧ Due (times i) r ∧ ∀ k < i, ¬ Due (times k) r := by
  obtain ⟨i, -, hin, hi, hdue, hfirst⟩ := exists_due_before (Nat.zero_le n) hdue
  have hi' : swept times r i = r := hi
  exact ⟨i, hin, hi', hi' ▸ hdue, fun k hk => hfirst k (Nat.zero_le k) hk⟩

/-- No sweep after a downgrade changes the subscription. -/
def SettlesAfterDowngrade (times : ℕ → Time) (r : Subscription) : Prop :=
  ∀ n, Due (times n) (swept times r n) → (swept times r n).status ≠ .active →
    ∀ m, n < m → ¬ Due (times m) (swept times r m)

/-- Sooner or later the sweeps leave a subscription that settles alone. -/
theorem SettlesAfterDowngrade.eventually (h : SettlesAfterDowngrade times r)
    (hgrace : ¬ GraceRefused times r) : ∃ N, ∀ n, N ≤ n → ¬ Due (times n) (swept times r n) := by
  by_cases hex : ∃ n, Due (times n) (swept times r n)
  · obtain ⟨n, hn⟩ := hex
    obtain ⟨i, -, hi, hdue, hfirst⟩ := exists_first hn
    have hduei : Due (times i) (swept times r i) := hi.symm ▸ hdue
    by_cases hactive : r.status = .active
    · -- the end of the paid period, and then possibly the downgrade
      have hexpired := (due_after_expiry 0 hduei (by rwa [hi])
        (isDate_of_first_due hgrace hactive hdue hfirst)).1
      by_cases hsecond : ∃ n, i + 1 ≤ n ∧ Due (times n) (swept times r n)
      · obtain ⟨n, hin, hn⟩ := hsecond
        obtain ⟨j, -, -, hj, hduej, -⟩ := exists_due_before hin hn
        refine ⟨j + 1, fun m hm => h j hduej ?_ m hm⟩
        rw [hj, hexpired]
        decide
      · exact ⟨i + 1, fun n hn hdue => hsecond ⟨n, hn, hdue⟩⟩
    · exact ⟨i + 1, fun n hn => h i hduei (by rwa [hi]) n hn⟩
  · exact ⟨0, fun n _ hdue => hex ⟨n, hdue⟩⟩

/-- Every sweep that finds a subscription due which settles changes it. -/
theorem SettlesAfterDowngrade.changed (h : SettlesAfterDowngrade times r)
    (hgrace : ¬ GraceRefused times r) {n : ℕ} (hdue : Due (times n) (swept times r n)) :
    swept times r (n + 1) ≠ swept times r n := by
  by_cases hactive : (swept times r n).status = .active
  · obtain ⟨i, hin, hi, hdue', hfirst⟩ := exists_first hdue
    have hduei : Due (times i) (swept times r i) := hi.symm ▸ hdue'
    by_cases hr : r.status = .active
    · have hdate := isDate_of_first_due hgrace hr hdue' hfirst
      rcases hin.eq_or_lt with rfl | hlt
      · refine evaluated_ne hdue fun _ => ?_
        rw [hi]
        exact hdate
      · -- the subscription is expired after `i`, so it is downgraded before `n`
        have hexpired := (due_after_expiry 0 hduei (by rwa [hi]) hdate).1
        obtain ⟨j, -, hjn, hj, hduej, -⟩ := exists_due_before (Nat.succ_le_of_lt hlt) hdue
        have hnot : (swept times r j).status ≠ .active := by
          rw [hj, hexpired]
          decide
        have hne : j ≠ n := by
          rintro rfl
          exact hnot hactive
        exact absurd hdue (h j hduej hnot n (lt_of_le_of_ne hjn hne))
    · have hne : i ≠ n := by
        rintro rfl
        exact hr (hi ▸ hactive)
      exact absurd hdue (h i hduei (by rwa [hi]) n (lt_of_le_of_ne hin hne))
  · exact changed_of_due hdue hactive

theorem settlesAfterDowngrade_iff (hmono : Monotone times) (hgrace : ¬ GraceRefused times r) :
    SettlesAfterDowngrade times r ↔ ¬ ExpiresAgain times r := by
  constructor
  · rintro hsettles ⟨i, j, hij, period, hperiod, hagain⟩
    -- a downgrade at `k`, by the sweep `i`, leaves a subscription that the sweep `j` finds expired
    have hdowngrade : r.status ≠ .active → Due (times i) r → period ≤ times j → False := by
      intro hstatus hdue hj
      obtain ⟨k, -, hki, hk, hdue, -⟩ := exists_first_due (a := 0) (Nat.zero_le i) hdue
      have hactive : (swept times r k).status ≠ .active := by rwa [hk]
      obtain ⟨k', hkk', -, -, hdue', -⟩ := exists_first_due (Nat.succ_le_of_lt (hki.trans_lt hij))
        ((due_after_downgrade hdue hactive).mpr ⟨period, hperiod, hj⟩)
      exact hsettles k hdue hactive k' hkk' hdue'
    cases hstatus : r.status with
    | trial =>
      rw [hstatus] at hagain
      exact hdowngrade (by rw [hstatus]; decide) (Or.inl ⟨hstatus, hagain.1⟩) hagain.2
    | expired =>
      rw [hstatus] at hagain
      exact hdowngrade (by rw [hstatus]; decide) (Or.inr (Or.inr ⟨hstatus, hagain.1⟩)) hagain.2
    | cancelled => rw [hstatus] at hagain; exact hagain
    | active =>
      rw [hstatus] at hagain
      have hdue : Due (times i) r := Or.inr (Or.inl ⟨hstatus, period, hperiod, hagain.1⟩)
      obtain ⟨k, -, hki, hk, hdue, hfirst⟩ := exists_first_due (a := 0) (Nat.zero_le i) hdue
      have hk' : swept times r k = r := hk
      have hactive : (swept times r k).status = .active := by rw [hk]; exact hstatus
      have hdate := isDate_of_first_due hgrace hstatus (hk' ▸ hdue)
        fun m hm => hfirst m (Nat.zero_le m) hm
      obtain ⟨hexpired, hover⟩ := due_after_expiry (times j) hdue hactive hdate
      obtain ⟨k', hkk', -, hk', hdue', -⟩ := exists_first_due
        (Nat.succ_le_of_lt (hki.trans_lt hij))
        (hover.mpr ((Int.add_le_add_right (hmono hki) _).trans hagain.2))
      have hnot : (swept times r k').status ≠ .active := by
        rw [hk', hexpired]
        decide
      -- the paid period was over at `k`, so it is at the sweep after the downgrade
      have hover : period ≤ times (k' + 1) := by
        obtain ⟨t, ht, hle⟩ := (due_active hactive).mp hdue
        rw [(swept_kept k).2.1] at ht
        obtain rfl := Option.some.inj (ht.symm.trans hperiod)
        exact hle.trans (hmono (by omega))
      exact hsettles k' hdue' hnot (k' + 1) (Nat.lt_succ_self _)
        ((due_after_downgrade hdue' hnot).mpr ⟨period, hperiod, hover⟩)
  · intro hnever n hdue hactive m hnm hdue'
    obtain ⟨j, hnj, -, hj, hover, -⟩ := exists_due_before (Nat.succ_le_of_lt hnm) hdue'
    rw [hj, due_after_downgrade hdue hactive] at hover
    obtain ⟨period, hperiod, hover⟩ := hover
    obtain ⟨i, hin, hi, hfirst, hbefore⟩ := exists_first hdue
    have hduei : Due (times i) (swept times r i) := hi.symm ▸ hfirst
    rcases hfirst with h | h | h
    · exact hnever ⟨i, j, by omega, period, hperiod, by rw [h.1]; exact ⟨h.2, hover⟩⟩
    · have hstatus : (swept times r i).status = .active := by rw [hi]; exact h.1
      have hne : i ≠ n := by
        rintro rfl
        exact hactive hstatus
      have hdate := isDate_of_first_due hgrace h.1 (Or.inr (Or.inl h)) hbefore
      obtain ⟨k, hik, -, hk, hended, -⟩ := exists_due_before (show i + 1 ≤ n by omega) hdue
      rw [hk, (due_after_expiry (times k) hduei hstatus hdate).2] at hended
      obtain ⟨hr, t, ht, hle⟩ := h
      obtain rfl := Option.some.inj (ht.symm.trans hperiod)
      exact hnever ⟨i, k, by omega, _, hperiod, by rw [hr]; exact ⟨hle, hended⟩⟩
    · exact hnever ⟨i, j, by omega, period, hperiod, by rw [h.1]; exact ⟨h.2, hover⟩⟩

/-! ### Settling -/

/-- The sweeps make finitely many changes to the subscription, none after a downgrade, and each
changes it exactly when its query has selected it. -/
def Settles (times : ℕ → Time) (s : Logged Store Write) (id : ℕ) : Prop :=
  let row := fun n => (sweeps times s n).data.subscriptions.find? id
  (∃ N, ∀ n, N ≤ n → row (n + 1) = row n) ∧
  (∀ n, ∀ r ∈ row n, ∀ r' ∈ row (n + 1), IsDowngrade r r' → ∀ m, n < m → row (m + 1) = row m) ∧
  ∀ n, ∀ r ∈ row n, (row (n + 1) ≠ row n ↔
    r.buildingId ∈ findSubscriptionsDueForEvaluation (times n) (sweeps times s n).data)

/-- A subscription settles unless a downgrade falls due at a sweep and the end of the paid period,
which the downgrade leaves in the row, is over at a later one, or its grace period is refused. -/
theorem settles_iff (hr : s.data.subscriptions.find? id = some r) (hmono : Monotone times) :
    Settles times s id ↔ ¬ ExpiresAgain times r ∧ ¬ GraceRefused times r := by
  have hrow : ∀ n, (sweeps times s n).data.subscriptions.find? id = some (swept times r n) :=
    find?_sweeps hr
  have hsame : ∀ n, (sweeps times s (n + 1)).data.subscriptions.find? id =
      (sweeps times s n).data.subscriptions.find? id ↔ swept times r (n + 1) = swept times r n := by
    intro n
    rw [hrow, hrow, Option.some_inj]
  constructor
  · rintro ⟨-, hsettled, hselected⟩
    have hchanged : ∀ n, Due (times n) (swept times r n) →
        swept times r (n + 1) ≠ swept times r n := fun n hdue heq =>
      (hselected n _ (hrow n)).mpr ((selected_iff (hrow n)).mpr hdue) ((hsame n).mpr heq)
    have hgrace : ¬ GraceRefused times r := by
      rintro ⟨hactive, i, period, hperiod, hover, hbefore, hdate⟩
      -- before its period is over the row is not due
      have hi : swept times r i = r := swept_eq_of_not_due (Nat.zero_le i) fun k _ hk hdue => by
        obtain ⟨t, ht, hle⟩ := (due_active hactive).mp hdue
        obtain rfl := Option.some.inj (ht.symm.trans hperiod)
        exact absurd hle (not_le.mpr (hbefore k hk))
      have hdue : Due (times i) r := (due_active hactive).mpr ⟨period, hperiod, hover⟩
      -- it is selected then, and the refused update leaves it as it is
      refine hchanged i (hi.symm ▸ hdue) ?_
      rw [swept, hi, evaluated, if_pos hdue, if_pos hactive]
      exact if_neg hdate
    refine ⟨(settlesAfterDowngrade_iff hmono hgrace).mp fun n hdue hactive m hnm hdue' => ?_,
      hgrace⟩
    have hdowngrade := isDowngrade_iff.mpr ⟨hdue, hactive⟩
    exact hchanged m hdue'
      ((hsame m).mp (hsettled n _ (hrow n) _ (hrow (n + 1)) hdowngrade m hnm))
  · rintro ⟨hnever, hgrace⟩
    have hsettles := (settlesAfterDowngrade_iff hmono hgrace).mpr hnever
    refine ⟨?_, fun n r₁ h₁ r₂ h₂ hdowngrade m hnm => ?_, fun n r₁ h₁ => ?_⟩
    · obtain ⟨N, hN⟩ := hsettles.eventually hgrace
      exact ⟨N, fun n hn => (hsame n).mpr (evaluated_of_not_due (hN n hn))⟩
    · obtain rfl := Option.some.inj ((hrow n).symm.trans h₁)
      obtain rfl := Option.some.inj ((hrow (n + 1)).symm.trans h₂)
      obtain ⟨hdue, hactive⟩ := isDowngrade_iff.mp hdowngrade
      exact (hsame m).mpr (evaluated_of_not_due (hsettles n hdue hactive m hnm))
    · rw [selected_iff h₁, ne_eq, hsame]
      obtain rfl := Option.some.inj ((hrow n).symm.trans h₁)
      exact ⟨due_of_changed, hsettles.changed hgrace⟩

/-- A store with the one subscription. -/
def oneSubscription (row : ℕ → Subscription) (hid : ∀ id, (row id).id = id) : Logged Store Write where
  data :=
    { subscriptions := Table.empty.create row hid
      changeLogs := .empty
      buildingId_unique := by
        intro r hr r' hr' _
        rcases (Table.mem_create (h := hid)).mp hr with hr | rfl
        · exact absurd hr Table.not_mem_empty
        · rcases (Table.mem_create (h := hid)).mp hr' with hr' | rfl
          · exact absurd hr' Table.not_mem_empty
          · rfl }

/-- A trial that has never been paid for settles, whenever the sweeps come. -/
theorem settles_iff_trial : Settles (fun n => n)
    (oneSubscription (fun id => { id, buildingId := 4, trialEndsAt := some 3 }) fun _ => rfl) 0 := by
  refine (settles_iff rfl fun m n h => Int.ofNat_le.mpr h).mpr ⟨?_, ?_⟩
  · rintro ⟨i, j, -, period, hperiod, -⟩
    exact nomatch hperiod
  · rintro ⟨hactive, -⟩
    exact nomatch hactive

/-- A paid subscription that is not renewed. -/
def unrenewed (id : ℕ) : Subscription :=
  { id, buildingId := 4, plan := .pro, status := .active, currentPeriodEndsAt := some 0 }

/-- It expires, is downgraded, and then expires and is downgraded again and again. -/
theorem not_settles_unrenewed :
    ¬ Settles (fun n => n * (8 * dayMs)) (oneSubscription unrenewed fun _ => rfl) 0 := by
  rintro ⟨-, hsettled, -⟩
  have hrow : ∀ n, (sweeps (fun n => n * (8 * dayMs)) (oneSubscription unrenewed fun _ => rfl)
      n).data.subscriptions.find? 0 = some (swept (fun n => n * (8 * dayMs)) (unrenewed 0) n) :=
    find?_sweeps rfl
  have hdowngrade : IsDowngrade (swept (fun n => n * (8 * dayMs)) (unrenewed 0) 1)
      (swept (fun n => n * (8 * dayMs)) (unrenewed 0) 2) :=
    isDowngrade_iff.mpr (by decide +kernel)
  have hstill := hsettled 1 _ (hrow 1) _ (hrow 2) hdowngrade 2 (by decide)
  have hsame : some (swept (fun n => n * (8 * dayMs)) (unrenewed 0) 3) =
      some (swept (fun n => n * (8 * dayMs)) (unrenewed 0) 2) :=
    (hrow 3).symm.trans (hstill.trans (hrow 2))
  exact absurd hsame (by decide +kernel)

end VielHome.Subscriptions
