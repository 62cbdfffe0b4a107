import VielHome.Backoffice.Service
import VielHome.Relational.Discipline
import VielHome.Relational.Overrides

/-!
# Who suspends whom

The flag of a person is set by an enforcement action, which remembers what it found and gives
that back when it is overturned, and it is set and unset by staff. The flags and the actions
that hold them are `Overrides`. What a commit has to be is one step of them, and there is one
lemma for each kind of commit: the record of an action that suspends nobody, an action that is
issued, one that is overturned, and a change by staff.
-/

namespace VielHome.Backoffice.Suspensions

open Relational Community
open Relational.ReadCommitted (Discipline Free Mode)
open BackOfficeRepository (isActiveAdmin isAdmin isUsableAdmin suspends)

/-! ### The flags and the actions that hold them -/

/-- Somebody is suspended. -/
def isSuspended (s : Store) (personId : ℕ) : Bool :=
  (s.persons.find? personId).any Person.isSuspended

/-- What an action that is taken back leaves behind of a flag that is set. -/
def foundSuspended (action : EnforcementAction) : Bool :=
  match action.previousTargetState with
  | some (.person isSuspended) => isSuspended
  | _ => true

/-- The columns of an action that are written when it is issued. -/
def issued (action : EnforcementAction) :
    EnforcementActionType × Option ℕ × Bool × Option PreviousTargetState :=
  (action.type, action.targetPersonId, action.effectApplied, action.previousTargetState)

/-- Whom the action suspends, and what it found. -/
def suspensionOf (action : EnforcementAction) : Option (ℕ × Bool) :=
  if action.type = .accountSuspension ∧ action.effectApplied = true ∧
      action.effectReversedAt = none then
    action.targetPersonId.map fun personId => (personId, foundSuspended action)
  else none

/-- Actions stay what they were issued as. -/
def KeepsIssued (s s' : Store) : Prop :=
  ∀ id a, s.enforcementActions.find? id = some a →
    ∃ a', s'.enforcementActions.find? id = some a' ∧ issued a' = issued a

/-- The flags of the persons, and the enforcement actions that suspend somebody. -/
def suspensions (s : Store) : Overrides ℕ ℕ where
  flag := isSuspended s
  active id := (s.enforcementActions.find? id).bind suspensionOf

@[simp] theorem flag_suspensions (s : Store) : (suspensions s).flag = isSuspended s := rfl

@[simp] theorem active_suspensions (s : Store) (id : ℕ) :
    (suspensions s).active id = (s.enforcementActions.find? id).bind suspensionOf := rfl

/-- The persons who are active admins. -/
def admins (staff : Table PlatformStaff PlatformStaff.id) : Set ℕ :=
  {personId | ∃ t ∈ staff, t.personId = personId ∧ isActiveAdmin t = true}

theorem suspends_eq_true {personId : ℕ} {a : EnforcementAction} :
    suspends personId a = true ↔ ∃ b, suspensionOf a = some (personId, b) := by
  rw [suspends, decide_eq_true_eq, suspensionOf]
  constructor
  · rintro ⟨htype, htarget, happlied, hreversed⟩
    exact ⟨_, by rw [if_pos ⟨htype, happlied, hreversed⟩, htarget, Option.map_some]⟩
  · rintro ⟨b, h⟩
    split at h
    case isTrue hactive =>
      obtain ⟨p, htarget, hp⟩ := Option.map_eq_some_iff.mp h
      exact ⟨hactive.1, htarget.trans (congrArg some (congrArg Prod.fst hp)), hactive.2⟩
    case isFalse => cases h

variable {s s' : Store}

theorem unheld_of_not_enforced {personId : ℕ}
    (h : s.enforcementActions.rows.any (suspends personId) = false) :
    (suspensions s).Unheld personId := by
  intro id b hactive
  obtain ⟨a, ha, hsuspends⟩ := Option.bind_eq_some_iff.mp hactive
  have hnot := List.any_eq_false.mp h a (Table.mem_of_find? ha)
  exact hnot (suspends_eq_true.mpr ⟨b, hsuspends⟩)

theorem isAdmin_eq_true {personId : ℕ} :
    isAdmin personId s = true ↔ personId ∈ admins s.platformStaff := by
  simp [isAdmin, admins, Table.mem_rows]

theorem isUsableAdmin_eq_true {t : PlatformStaff} :
    isUsableAdmin s t = true ↔ isActiveAdmin t = true ∧ (s.persons.find? t.personId).isSome ∧
      isSuspended s t.personId = false := by
  rw [isUsableAdmin, decide_eq_true_eq, isSuspended]
  refine and_congr_right fun _ => ?_
  cases s.persons.find? t.personId with
  | none => simp
  | some r => simp

/-- The staff that is there, one row a person, and only an overturned action is reversed. -/
structure Consistent (staff : Table PlatformStaff PlatformStaff.id) (s : Store) : Prop where
  platformStaff : s.platformStaff = staff
  unique : ∀ t ∈ staff, ∀ t' ∈ staff, t.personId = t'.personId → t = t'
  person : ∀ t ∈ staff, (s.persons.find? t.personId).isSome
  reversed : ∀ a ∈ s.enforcementActions, a.effectReversedAt ≠ none → a.appealStatus = .overturned

/-! ### What the sessions rely on -/

/-- The locks that are kept: those the database enforces, and of the others those that a
condition on the run is about. -/
def keeps (fresh counted : Bool) : Lock → Bool
  | .suspension _ => fresh
  | .usableAdmins => counted
  | l => l.enforced

/-- What a lock protects. Suspensions of admins by enforcement share the lock of the usable
admins; a count of them excludes these. -/
def sameFor (staff : Table PlatformStaff PlatformStaff.id) : Lock → Mode → Store → Store → Prop
  | .row .person id, _, s, s' => ∀ r, s.persons.find? id = some r → s'.persons.find? id = some r
  | .row .enforcementAction id, _, s, s' =>
    ∀ a, s.enforcementActions.find? id = some a → s'.enforcementActions.find? id = some a
  | .suspension personId, _, s, s' => isSuspended s' personId = isSuspended s personId ∧
    ((suspensions s).Unheld personId → (suspensions s').Unheld personId)
  | .usableAdmins, .exclusive, s, s' => ∀ personId ∈ admins staff, isSuspended s personId = false →
    isSuspended s' personId = false
  | _, _, _, _ => True

variable {staff : Table PlatformStaff PlatformStaff.id} {fresh counted : Bool}

theorem sameFor_refl (l : Lock) (m : Mode) (s : Store) : sameFor staff l m s s := by
  unfold sameFor
  split
  · exact fun _ h => h
  · exact fun _ h => h
  · exact ⟨rfl, id⟩
  · exact fun _ _ h => h
  · trivial

theorem sameFor_trans {l : Lock} {m : Mode} {s s' s'' : Store} (h : sameFor staff l m s s')
    (h' : sameFor staff l m s' s'') : sameFor staff l m s s'' := by
  unfold sameFor at *
  split
  · exact fun r hr => h' r (h r hr)
  · exact fun a ha => h' a (h a ha)
  · exact ⟨h'.1.trans h.1, fun hunheld => h'.2 (h.2 hunheld)⟩
  · exact fun personId hadmin hunset => h' personId hadmin (h personId hadmin hunset)
  · trivial

/-- Every commit is one step of the flags and their overrides. -/
def suspensionDiscipline (fresh counted : Bool) (staff : Table PlatformStaff PlatformStaff.id) :
    Discipline Store Lock where
  inv := Consistent staff
  commits s s' :=
    Overrides.Step (fresh = true) (counted = true) (admins staff) (suspensions s)
      (suspensions s') ∧ KeepsIssued s s'
  kept := keeps fresh counted
  same l m s s' := keeps fresh counted l = true → sameFor staff l m s s'
  same_refl l m s _ := sameFor_refl l m s
  same_trans _ _ _ _ _ h h' hkept := sameFor_trans (h hkept) (h' hkept)

/-! ### What a commit does -/

/-- What a commit has to keep, with the locks that it may disturb. -/
def Commits (fresh counted : Bool) (staff : Table PlatformStaff PlatformStaff.id)
    (disturbed : Lock → Mode → Prop) (s s' : Store) : Prop :=
  Consistent staff s' ∧
    (Overrides.Step (fresh = true) (counted = true) (admins staff) (suspensions s)
      (suspensions s') ∧ KeepsIssued s s') ∧
    ∀ l m, ¬ disturbed l m → sameFor staff l m s s'

/-- A commit that disturbs nothing but locks of the session. -/
theorem Commits.conclude {notes : List (Lock × Mode × Store)} {disturbed : Lock → Mode → Prop}
    {P : Prop} (h : Commits fresh counted staff disturbed s s')
    (hheld : ∀ l m, Free notes l m → keeps fresh counted l = true → ¬ disturbed l m)
    (hrest : P) :
    Consistent staff s' ∧
      (Overrides.Step (fresh = true) (counted = true) (admins staff) (suspensions s)
        (suspensions s') ∧ KeepsIssued s s') ∧
      (∀ l m, Free notes l m → keeps fresh counted l = true → sameFor staff l m s s') ∧ P :=
  ⟨h.1, h.2.1, fun l m hl hkept => h.2.2 l m (hheld l m hl hkept), hrest⟩

theorem Commits.mono {disturbed disturbed' : Lock → Mode → Prop}
    (h : Commits fresh counted staff disturbed s s')
    (hle : ∀ l m, disturbed l m → disturbed' l m) : Commits fresh counted staff disturbed' s s' :=
  ⟨h.1, h.2.1, fun l m hl => h.2.2 l m fun hd => hl (hle l m hd)⟩

theorem Consistent.of_eq (hs : Consistent staff s) (hstaff : s'.platformStaff = s.platformStaff)
    (hpersons : ∀ id, (s.persons.find? id).isSome → (s'.persons.find? id).isSome)
    (hreversed : ∀ a ∈ s'.enforcementActions, a.effectReversedAt ≠ none →
      a.appealStatus = .overturned) : Consistent staff s' :=
  ⟨hstaff.trans hs.platformStaff, hs.unique, fun t ht => hpersons _ (hs.person t ht), hreversed⟩

section Tables

variable {personId actionId : ℕ} {f : Person → Person} {hf : ∀ r, (f r).id = r.id}
  {g : EnforcementAction → EnforcementAction} {hg : ∀ a, (g a).id = a.id}
  {mk : ℕ → EnforcementAction} {hmk : ∀ id, (mk id).id = id}

theorem keepsIssued_of_eq (h : s'.enforcementActions = s.enforcementActions) : KeepsIssued s s' :=
  fun _ a ha => ⟨a, h ▸ ha, rfl⟩

theorem keepsIssued_modify (h : s'.enforcementActions = s.enforcementActions.modify actionId g hg)
    (hissued : ∀ a, issued (g a) = issued a) : KeepsIssued s s' := by
  intro id a ha
  rw [h]
  by_cases hid : id = actionId
  · subst hid
    exact ⟨g a, Table.find?_modify_self ha, hissued a⟩
  · exact ⟨a, (Table.find?_modify_ne hid).trans ha, rfl⟩

theorem keepsIssued_create (h : s'.enforcementActions = s.enforcementActions.create mk hmk) :
    KeepsIssued s s' :=
  fun _ a ha => ⟨a, h ▸ Table.find?_create_of_find? ha, rfl⟩

theorem isSome_modify (h : s'.persons = s.persons.modify personId f hf) (id : ℕ)
    (hid : (s.persons.find? id).isSome) : (s'.persons.find? id).isSome := by
  rw [h, Table.find?_modify]
  obtain ⟨r, hr⟩ := Option.isSome_iff_exists.mp hid
  rw [hr]
  split <;> rfl

/-- The flags after one of them was written. -/
theorem isSuspended_modify {r : Person} {b : Bool} (hr : s.persons.find? personId = some r)
    (hb : (f r).isSuspended = b) (h : s'.persons = s.persons.modify personId f hf) :
    isSuspended s' = Function.update (isSuspended s) personId b := by
  funext id
  by_cases hid : id = personId
  · subst hid
    rw [Function.update_self, isSuspended, h, Table.find?_modify_self hr]
    exact hb
  · rw [Function.update_of_ne hid, isSuspended, isSuspended, h, Table.find?_modify_ne hid]

theorem active_modify {a : EnforcementAction} (ha : s.enforcementActions.find? actionId = some a)
    (h : s'.enforcementActions = s.enforcementActions.modify actionId g hg) :
    (suspensions s').active =
      Function.update (suspensions s).active actionId (suspensionOf (g a)) := by
  funext id
  by_cases hid : id = actionId
  · subst hid
    rw [Function.update_self, active_suspensions, h, Table.find?_modify_self ha]
    rfl
  · rw [Function.update_of_ne hid, active_suspensions, active_suspensions, h,
      Table.find?_modify_ne hid]

theorem active_create (h : s'.enforcementActions = s.enforcementActions.create mk hmk) :
    (suspensions s').active =
      Function.update (suspensions s).active s.enforcementActions.next
        (suspensionOf (mk s.enforcementActions.next)) := by
  funext id
  rw [active_suspensions, h, Table.find?_create]
  by_cases hid : id = s.enforcementActions.next
  · rw [hid, Function.update_self, if_pos rfl]
    rfl
  · rw [Function.update_of_ne hid, if_neg hid, active_suspensions]

theorem active_next : (suspensions s).active s.enforcementActions.next = none := by
  rw [active_suspensions, Table.find?_of_next_le (le_refl _)]
  rfl

end Tables

/-- A lock protects the same when each of what it can protect is the same. -/
theorem sameFor_of {l : Lock} {m : Mode}
    (hperson : ∀ id, l = .row .person id → s'.persons.find? id = s.persons.find? id)
    (haction : ∀ id, l = .row .enforcementAction id → ∀ a,
      s.enforcementActions.find? id = some a → s'.enforcementActions.find? id = some a)
    (hsuspension : ∀ personId, l = .suspension personId →
      isSuspended s' personId = isSuspended s personId ∧
        ((suspensions s).Unheld personId → (suspensions s').Unheld personId))
    (husable : l = .usableAdmins → m = .exclusive → ∀ personId ∈ admins staff,
      isSuspended s personId = false → isSuspended s' personId = false) :
    sameFor staff l m s s' := by
  unfold sameFor
  split
  · exact fun r hr => (hperson _ rfl).trans hr
  · exact haction _ rfl
  · exact hsuspension _ rfl
  · exact husable rfl rfl
  · trivial

theorem isSuspended_congr (h : s'.persons = s.persons) : isSuspended s' = isSuspended s := by
  funext id
  rw [isSuspended, isSuspended, h]

section Quiet

variable (hs : Consistent staff s) (hstaff : s'.platformStaff = s.platformStaff)
  (hpersons : s'.persons = s.persons)

include hs hstaff hpersons

/-- A commit that writes to no row of a person, and to no action. -/
theorem quiet_commit {disturbed : Lock → Mode → Prop}
    (hactions : s'.enforcementActions = s.enforcementActions) :
    Commits fresh counted staff disturbed s s' := by
  have hactive : (suspensions s').active = (suspensions s).active := by
    funext id
    rw [active_suspensions, active_suspensions, hactions]
  refine ⟨hs.of_eq hstaff (fun id hid => hpersons ▸ hid) (hactions ▸ hs.reversed),
    ⟨.quiet (isSuspended_congr hpersons) hactive, keepsIssued_of_eq hactions⟩, fun l m _ => ?_⟩
  refine sameFor_of (fun id _ => by rw [hpersons]) (fun id _ a ha => hactions ▸ ha)
    (fun p _ => ⟨by rw [isSuspended_congr hpersons], fun hunheld i b => ?_⟩)
    fun _ _ p _ hunset => by rw [isSuspended_congr hpersons, hunset]
  rw [hactive]
  exact hunheld i b

/-- A commit that rewrites an action, and leaves whom it suspends. -/
theorem action_commit {actionId : ℕ} {a : EnforcementAction}
    {g : EnforcementAction → EnforcementAction} {h : ∀ a, (g a).id = a.id}
    (ha : s.enforcementActions.find? actionId = some a)
    (hactions : s'.enforcementActions = s.enforcementActions.modify actionId g h)
    (hissued : ∀ a, issued (g a) = issued a) (hsuspension : suspensionOf (g a) = suspensionOf a)
    (hreversed : (g a).effectReversedAt ≠ none → (g a).appealStatus = .overturned) :
    Commits fresh counted staff (fun l _ => l = .row .enforcementAction actionId) s s' := by
  have hactive : (suspensions s').active = (suspensions s).active := by
    rw [active_modify ha hactions, hsuspension]
    refine Function.update_eq_self_iff.mpr ?_
    rw [active_suspensions, ha]
    rfl
  refine ⟨hs.of_eq hstaff (fun id hid => hpersons ▸ hid) fun a' ha' hset => ?_,
    ⟨.quiet (isSuspended_congr hpersons) hactive, keepsIssued_modify hactions hissued⟩,
    fun l m hl => ?_⟩
  · obtain ⟨a₀, ha₀, rfl⟩ := (Table.mem_modify (h := h)).mp (hactions ▸ ha')
    by_cases hid : a₀.id = actionId
    · obtain rfl : a₀ = a := Option.some.inj ((hid ▸ Table.find?_of_mem ha₀).symm.trans ha)
      rw [if_pos hid] at hset ⊢
      exact hreversed hset
    · rw [if_neg hid] at hset ⊢
      exact hs.reversed a₀ ha₀ hset
  · refine sameFor_of (fun id _ => by rw [hpersons]) (fun id hid a' ha' => ?_)
      (fun p _ => ⟨by rw [isSuspended_congr hpersons], fun hunheld i b => ?_⟩)
      fun _ _ p _ hunset => by rw [isSuspended_congr hpersons, hunset]
    · have hne : id ≠ actionId := by
        rintro rfl
        exact hl hid
      rw [hactions, Table.find?_modify_ne hne, ha']
    · rw [hactive]
      exact hunheld i b

/-- A commit that records an action which suspends nobody. -/
theorem record_commit {disturbed : Lock → Mode → Prop} {mk : ℕ → EnforcementAction}
    {hmk : ∀ id, (mk id).id = id}
    (hactions : s'.enforcementActions = s.enforcementActions.create mk hmk)
    (hsuspension : suspensionOf (mk s.enforcementActions.next) = none)
    (hreversed : (mk s.enforcementActions.next).effectReversedAt = none) :
    Commits fresh counted staff disturbed s s' := by
  have hactive : (suspensions s').active = (suspensions s).active := by
    rw [active_create hactions, hsuspension]
    exact Function.update_eq_self_iff.mpr active_next.symm
  refine ⟨hs.of_eq hstaff (fun id hid => hpersons ▸ hid) fun a' ha' hset => ?_,
    ⟨.quiet (isSuspended_congr hpersons) hactive, keepsIssued_create hactions⟩, fun l m hl => ?_⟩
  · rcases (Table.mem_create (h := hmk)).mp (hactions ▸ ha') with ha' | rfl
    · exact hs.reversed a' ha' hset
    · exact absurd hreversed hset
  · refine sameFor_of (fun id _ => by rw [hpersons]) (fun id hid a' ha' => ?_)
      (fun p _ => ⟨by rw [isSuspended_congr hpersons], fun hunheld i b => ?_⟩)
      fun _ _ p _ hunset => by rw [isSuspended_congr hpersons, hunset]
    · rw [hactions]
      exact Table.find?_create_of_find? (h := hmk) ha'
    · rw [hactive]
      exact hunheld i b

end Quiet

section Flags

variable {personId : ℕ} {r : Person} {f : Person → Person} {h : ∀ r, (f r).id = r.id} {b : Bool}
  (hs : Consistent staff s) (hstaff : s'.platformStaff = s.platformStaff)
  (hr : s.persons.find? personId = some r) (hb : (f r).isSuspended = b)
  (hpersons : s'.persons = s.persons.modify personId f h)

/-- The locks of a commit that writes the flag of a person: a count of the usable admins is
disturbed when one of them is suspended. -/
def disturbs (staff : Table PlatformStaff PlatformStaff.id) (personId : ℕ) (suspended : Bool)
    (l : Lock) (m : Mode) : Prop :=
  l = .row .person personId ∨ l = .suspension personId ∨
    (suspended = true ∧ l = .usableAdmins ∧ m = .exclusive ∧ personId ∈ admins staff)

include hr hb hpersons in
/-- What is the same after the flag of a person was written. -/
theorem sameFor_of_flag {l : Lock} {m : Mode}
    (hl : l ≠ .row .person personId ∧ l ≠ .suspension personId)
    (haction : ∀ id, l = .row .enforcementAction id → ∀ a,
      s.enforcementActions.find? id = some a → s'.enforcementActions.find? id = some a)
    (hunheld : ∀ p, p ≠ personId → (suspensions s).Unheld p → (suspensions s').Unheld p)
    (husable : l = .usableAdmins → m = .exclusive → personId ∈ admins staff →
      r.isSuspended = false → b = false) : sameFor staff l m s s' := by
  have hflag := isSuspended_modify hr hb hpersons
  refine sameFor_of (fun id hid => ?_) haction (fun p hp => ?_) fun husable' hm p hp hunset => ?_
  · have hne : id ≠ personId := by
      rintro rfl
      exact hl.1 hid
    rw [hpersons, Table.find?_modify_ne hne]
  · have hne : p ≠ personId := by
      rintro rfl
      exact hl.2 hp
    exact ⟨by rw [hflag, Function.update_of_ne hne], hunheld p hne⟩
  · rw [hflag]
    by_cases hne : p = personId
    · subst hne
      rw [Function.update_self]
      rw [isSuspended, hr] at hunset
      exact husable husable' hm hp hunset
    · rw [Function.update_of_ne hne, hunset]

include hs hstaff hr hb hpersons

/-- An action is issued, and suspends the person. -/
theorem issue_commit {found : Bool} {mk : ℕ → EnforcementAction} {hmk : ∀ id, (mk id).id = id}
    (hset : b = true)
    (hactions : s'.enforcementActions = s.enforcementActions.create mk hmk)
    (hsuspension : suspensionOf (mk s.enforcementActions.next) = some (personId, found))
    (hreversed : (mk s.enforcementActions.next).effectReversedAt = none)
    (hfound : fresh = true → found = r.isSuspended) :
    Commits fresh counted staff (disturbs staff personId true) s s' := by
  have hactive := active_create hactions
  rw [hsuspension] at hactive
  refine ⟨hs.of_eq hstaff (isSome_modify hpersons) fun a' ha' hset => ?_,
    ⟨.take _ personId found active_next (fun hfresh => ?_)
      (hset ▸ isSuspended_modify hr hb hpersons) hactive, keepsIssued_create hactions⟩,
    fun l m hl => ?_⟩
  · rcases (Table.mem_create (h := hmk)).mp (hactions ▸ ha') with ha' | rfl
    · exact hs.reversed a' ha' hset
    · exact absurd hreversed hset
  · rw [hfound hfresh, flag_suspensions, isSuspended, hr]
    rfl
  · refine sameFor_of_flag hr hb hpersons ⟨fun h => hl (.inl h), fun h => hl (.inr (.inl h))⟩
      (fun id _ a' ha' => ?_) (fun p hp hunheld i c hi => ?_) fun h hm hadmin => ?_
    · rw [hactions]
      exact Table.find?_create_of_find? (h := hmk) ha'
    · rw [hactive] at hi
      by_cases hnext : i = s.enforcementActions.next
      · rw [hnext, Function.update_self] at hi
        exact hp (congrArg Prod.fst (Option.some.inj hi)).symm
      · rw [Function.update_of_ne hnext] at hi
        exact hunheld i c hi
    · exact absurd (.inr (.inr ⟨rfl, h, hm, hadmin⟩)) hl

/-- An action is overturned, and the person gets back what it found. -/
theorem overturn_commit {actionId : ℕ} {a : EnforcementAction}
    {g : EnforcementAction → EnforcementAction} {h : ∀ a, (g a).id = a.id}
    (ha : s.enforcementActions.find? actionId = some a)
    (hsuspends : suspensionOf a = some (personId, b)) (hset : r.isSuspended = true)
    (hactions : s'.enforcementActions = s.enforcementActions.modify actionId g h)
    (hissued : ∀ a, issued (g a) = issued a) (hsuspension : suspensionOf (g a) = none)
    (hoverturned : (g a).appealStatus = .overturned) :
    Commits fresh counted staff
      (fun l m => disturbs staff personId false l m ∨ l = .row .enforcementAction actionId) s s' := by
  have hactive := active_modify ha hactions
  rw [hsuspension] at hactive
  refine ⟨hs.of_eq hstaff (isSome_modify hpersons) fun a' ha' hreversed => ?_,
    ⟨.giveBack actionId personId b ?_ ?_ (isSuspended_modify hr hb hpersons) hactive,
      keepsIssued_modify hactions hissued⟩, fun l m hl => ?_⟩
  · obtain ⟨a₀, ha₀, rfl⟩ := (Table.mem_modify (h := h)).mp (hactions ▸ ha')
    by_cases hid : a₀.id = actionId
    · obtain rfl : a₀ = a := Option.some.inj ((hid ▸ Table.find?_of_mem ha₀).symm.trans ha)
      rw [if_pos hid]
      exact hoverturned
    · rw [if_neg hid] at hreversed ⊢
      exact hs.reversed a₀ ha₀ hreversed
  · rw [active_suspensions, ha]
    exact hsuspends
  · rw [flag_suspensions, isSuspended, hr]
    exact hset
  · refine sameFor_of_flag hr hb hpersons
      ⟨fun h => hl (.inl (.inl h)), fun h => hl (.inl (.inr (.inl h)))⟩
      (fun id hid a' ha' => ?_) (fun p hp hunheld i c hi => ?_) fun _ _ _ hunset => ?_
    · have hne : id ≠ actionId := by
        rintro rfl
        exact hl (.inr hid)
      rw [hactions, Table.find?_modify_ne hne, ha']
    · rw [hactive] at hi
      by_cases hid : i = actionId
      · rw [hid, Function.update_self] at hi
        cases hi
      · rw [Function.update_of_ne hid] at hi
        exact hunheld i c hi
    · rw [hset] at hunset
      cases hunset

/-- Staff suspends a person, or reinstates one whom no action suspends. -/
theorem staff_commit
    (hspare : b = true → counted = true → personId ∈ admins staff →
      ∃ p ∈ admins staff, p ≠ personId ∧ isSuspended s p = false)
    (hunheld : b = false → fresh = true → (suspensions s).Unheld personId)
    (hactions : s'.enforcementActions = s.enforcementActions) :
    Commits fresh counted staff (disturbs staff personId b) s s' := by
  have hflag := isSuspended_modify hr hb hpersons
  have hactive : (suspensions s').active = (suspensions s).active := by
    funext id
    rw [active_suspensions, active_suspensions, hactions]
  refine ⟨hs.of_eq hstaff (isSome_modify hpersons) (hactions ▸ hs.reversed),
    ⟨?_, keepsIssued_of_eq hactions⟩, fun l m hl => ?_⟩
  · cases b with
    | true => exact .set personId (hspare rfl) hflag hactive
    | false => exact .unset personId (hunheld rfl) hflag hactive
  · refine sameFor_of_flag hr hb hpersons ⟨fun h => hl (.inl h), fun h => hl (.inr (.inl h))⟩
      (fun id _ a ha => hactions ▸ ha) (fun p _ h i c => ?_) fun h hm hadmin _ => ?_
    · rw [hactive]
      exact h i c
    · cases b with
      | true => exact absurd (.inr (.inr ⟨rfl, h, hm, hadmin⟩)) hl
      | false => rfl

end Flags

end VielHome.Backoffice.Suspensions
