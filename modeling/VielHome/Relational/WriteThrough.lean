import Mathlib.Data.Int.Notation
import Mathlib.Logic.Function.Basic
import VielHome.Relational.Run

/-!
# A copy that is set after the write

A process keeps a value in memory for each key of a table, answers reads from this copy, and sets
it whenever one of its calls has written a row. The write and the setting of the copy are two steps,
with those of other calls between them, so the copy may be set in another order than the rows were
written in.

What matters is the last call that has still to set the copy of its key (`State.Owes`): the copy
agrees with the rows, wherever nobody owes it anything, exactly when this call always brings the
value that is stored (`agrees_iff`).
-/

namespace Relational.WriteThrough

variable {ι κ ρ ν α φ β : Type}

/-- What a process keeps of a row, what it keeps for a key without one, and what a call returns,
from the row it has written and the copy at its end. -/
structure Copy (κ ρ ν α : Type) where
  view : ρ → ν
  unset : ν
  answer : κ → ρ → ν → α

/-- A call writes the row of one key, at some time and over what is stored. -/
structure Call (κ ρ : Type) where
  key : κ
  put : ℤ → Option ρ → ρ

/-- How far a call has come. -/
inductive Phase (κ ρ α φ : Type)
  | idle
  | running (call : Call κ ρ)
  | wrote (call : Call κ ρ) (row : ρ)
  | kept (call : Call κ ρ) (row : ρ)
  | returned (result : Except φ α)

/-- A call has begun and not yet returned. -/
def Phase.InProgress (k : κ) : Phase κ ρ α φ → Prop
  | idle => False
  | running call => call.key = k
  | wrote call _ => call.key = k
  | kept call _ => call.key = k
  | returned _ => False

/-- A call has written the row of the key, and the copy does not show it yet. -/
def Phase.Owes (k : κ) : Phase κ ρ α φ → Prop
  | wrote call _ => call.key = k
  | _ => False

theorem Phase.Owes.inProgress {k : κ} {p : Phase κ ρ α φ} (h : p.Owes k) : p.InProgress k := by
  cases p with
  | wrote call row => exact h
  | idle => exact h
  | running call => exact h.elim
  | kept call row => exact h.elim
  | returned result => exact h

/-- The rows, the copy of the process, and its calls. -/
structure State (ι κ ρ ν α φ : Type) where
  rows : κ → Option ρ
  copy : κ → ν
  phase : ι → Phase κ ρ α φ

/-- A step of call `i`. A call may fail where it waits for the database, before it has written and
after it has set the copy. A process none of whose calls waits for anything after that has fewer
runs. -/
inductive Event (ι φ : Type)
  | start (i : ι)
  | write (i : ι) (now : ℤ)
  | keep (i : ι)
  | finish (i : ι)
  | fail (i : ι) (error : φ)

/-- The process as it comes up: it reads the rows, or it keeps what stands for no row. -/
def State.boot (C : Copy κ ρ ν α) (rows : κ → Option ρ) (readable : Bool) :
    State ι κ ρ ν α φ where
  rows := rows
  copy k := if readable then (rows k).elim C.unset C.view else C.unset
  phase _ := .idle

variable [DecidableEq ι]

/-- The state after call `i` has gone on. -/
def State.goOn (i : ι) (p : Phase κ ρ α φ) (s : State ι κ ρ ν α φ) : State ι κ ρ ν α φ :=
  { s with phase := Function.update s.phase i p }

namespace State

/-- What the copy has to say of a key. -/
def stored (C : Copy κ ρ ν α) (s : State ι κ ρ ν α φ) (k : κ) : ν :=
  (s.rows k).elim C.unset C.view

/-- No call for the key is in progress. -/
def Quiet (s : State ι κ ρ ν α φ) (k : κ) : Prop := ∀ i, ¬(s.phase i).InProgress k

/-- The copy of every key to which nobody owes anything reads as the stored row does. -/
def Agrees (C : Copy κ ρ ν α) (read : ν → β) (s : State ι κ ρ ν α φ) : Prop :=
  ∀ k, (∀ i, ¬(s.phase i).Owes k) → read (s.copy k) = read (s.stored C k)

/-- A call that sets the copy, and is the last that owes it, brings the value that is stored. -/
def LastIsCurrent (C : Copy κ ρ ν α) (read : ν → β) (s : State ι κ ρ ν α φ) :
    Event ι φ → Prop
  | .keep i => ∀ call row, s.phase i = .wrote call row →
      (∀ j, j ≠ i → ¬(s.phase j).Owes call.key) →
        read (C.view row) = read (s.stored C call.key)
  | _ => True

variable {C : Copy κ ρ ν α} {read : ν → β} {s : State ι κ ρ ν α φ} {k : κ} {i : ι}
  {p : Phase κ ρ α φ}

@[simp] theorem phase_goOn_self : (s.goOn i p).phase i = p := Function.update_self _ _ _

theorem phase_goOn_of_ne {j : ι} (h : j ≠ i) : (s.goOn i p).phase j = s.phase j :=
  Function.update_of_ne h _ _

omit [DecidableEq ι] in
/-- Where no call is in progress, nobody owes anything. -/
theorem Agrees.of_quiet (h : s.Agrees C read) (hquiet : s.Quiet k) :
    read (s.copy k) = read (s.stored C k) :=
  h k fun i howes => hquiet i howes.inProgress

/-- Who goes on without a write owes as much as before. -/
theorem agrees_goOn (h : ∀ k, ¬(s.phase i).Owes k) (h' : ∀ k, ¬p.Owes k) :
    (s.goOn i p).Agrees C read ↔ s.Agrees C read := by
  have howes : ∀ j k, ((s.goOn i p).phase j).Owes k ↔ (s.phase j).Owes k := by
    intro j k
    by_cases hj : j = i
    · subst hj
      rw [phase_goOn_self]
      exact iff_of_false (h' k) (h k)
    · rw [phase_goOn_of_ne hj]
  refine forall_congr' fun k => ?_
  simp only [howes]
  rfl

end State

open State

variable [DecidableEq κ]

/-- One step of one call; a step that is not the call's next one does nothing. -/
def step (C : Copy κ ρ ν α) (calls : ι → Except φ (Call κ ρ)) (s : State ι κ ρ ν α φ) :
    Event ι φ → State ι κ ρ ν α φ
  | .start i =>
    match s.phase i with
    | .idle =>
      match calls i with
      | .error e => s.goOn i (.returned (.error e))
      | .ok call => s.goOn i (.running call)
    | _ => s
  | .write i now =>
    match s.phase i with
    | .running call =>
      let row := call.put now (s.rows call.key)
      { s.goOn i (.wrote call row) with rows := Function.update s.rows call.key (some row) }
    | _ => s
  | .keep i =>
    match s.phase i with
    | .wrote call row =>
      { s.goOn i (.kept call row) with copy := Function.update s.copy call.key (C.view row) }
    | _ => s
  | .finish i =>
    match s.phase i with
    | .kept call row => s.goOn i (.returned (.ok (C.answer call.key row (s.copy call.key))))
    | _ => s
  | .fail i e =>
    match s.phase i with
    | .running _ => s.goOn i (.returned (.error e))
    | .kept _ _ => s.goOn i (.returned (.error e))
    | _ => s

variable {C : Copy κ ρ ν α} {calls : ι → Except φ (Call κ ρ)} {read : ν → β}
  {s : State ι κ ρ ν α φ}

omit [DecidableEq κ] in
/-- A write leaves its key owed, and every other key as it was. -/
private theorem agrees_write {i : ι} {call : Call κ ρ} {row : ρ} {rows : κ → Option ρ}
    (hphase : ∀ k, ¬(s.phase i).Owes k) (hrows : ∀ k, k ≠ call.key → rows k = s.rows k)
    (h : s.Agrees C read) :
    State.Agrees C read { s.goOn i (.wrote call row) with rows := rows } := by
  intro k hk
  have hne : k ≠ call.key := by
    rintro rfl
    refine hk i ?_
    change ((s.goOn i (.wrote call row)).phase i).Owes call.key
    rw [phase_goOn_self]
    rfl
  have hs : read (s.copy k) = read (s.stored C k) := by
    refine h k fun j howes => ?_
    have hj : j ≠ i := fun hj => hphase k (hj ▸ howes)
    refine hk j ?_
    change ((s.goOn i (.wrote call row)).phase j).Owes k
    rwa [phase_goOn_of_ne hj]
  change read (s.copy k) = read ((rows k).elim C.unset C.view)
  rw [hs, hrows k hne]
  rfl

/-- Setting the copy keeps the agreement exactly when the last call that owes it brings what is
stored. -/
private theorem agrees_keep {i : ι} {call : Call κ ρ} {row : ρ}
    (hphase : s.phase i = .wrote call row) (h : s.Agrees C read) :
    State.Agrees C read
        { s.goOn i (.kept call row) with copy := Function.update s.copy call.key (C.view row) } ↔
      ((∀ j, j ≠ i → ¬(s.phase j).Owes call.key) →
        read (C.view row) = read (s.stored C call.key)) := by
  -- After the step call `i` owes nothing, and the others what they did.
  have howes : ∀ k, (∀ j, ¬((s.goOn i (.kept call row)).phase j).Owes k) ↔
      ∀ j, j ≠ i → ¬(s.phase j).Owes k := by
    intro k
    refine forall_congr' fun j => ?_
    by_cases hj : j = i
    · subst hj
      rw [phase_goOn_self]
      exact iff_of_true (fun hfalse => hfalse) fun hne => absurd rfl hne
    · rw [phase_goOn_of_ne hj]
      exact ⟨fun hn _ => hn, fun hn => hn hj⟩
  constructor
  · intro hagrees hothers
    have hkey := hagrees call.key ((howes call.key).mpr hothers)
    change read (Function.update s.copy call.key (C.view row) call.key) = _ at hkey
    rwa [Function.update_self] at hkey
  · intro hlast k hk
    have hothers := (howes k).mp hk
    change read (Function.update s.copy call.key (C.view row) k) = read (s.stored C k)
    by_cases hkey : k = call.key
    · subst hkey
      rw [Function.update_self]
      exact hlast hothers
    · rw [Function.update_of_ne hkey]
      refine h k fun j howes' => ?_
      by_cases hj : j = i
      · subst hj
        rw [hphase] at howes'
        exact hkey howes'.symm
      · exact hothers j hj howes'

/-- A step keeps the agreement exactly when the last call that owes a key brings what is stored. -/
theorem agrees_step (h : s.Agrees C read) (e : Event ι φ) :
    (step C calls s e).Agrees C read ↔ s.LastIsCurrent C read e := by
  cases e with
  | start i =>
    refine iff_of_true ?_ trivial
    rw [step]
    split
    · rename_i hphase
      split <;> exact (agrees_goOn (fun k => by rw [hphase]; exact id) fun k => id).mpr h
    · exact h
  | write i now =>
    refine iff_of_true ?_ trivial
    rw [step]
    split
    · rename_i call hphase
      refine agrees_write (fun k => by rw [hphase]; exact id) (fun k hk => ?_) h
      exact Function.update_of_ne hk _ _
    · exact h
  | keep i =>
    rw [step]
    split
    · rename_i call row hphase
      refine (agrees_keep hphase h).trans ?_
      constructor
      · intro hlast call' row' hphase' hothers
        obtain ⟨rfl, rfl⟩ : call = call' ∧ row = row' := by
          rw [hphase] at hphase'
          exact ⟨(Phase.wrote.inj hphase').1, (Phase.wrote.inj hphase').2⟩
        exact hlast hothers
      · exact fun hlast => hlast call row hphase
    · rename_i hphase
      exact iff_of_true h fun call row hwrote => absurd hwrote (hphase call row)
  | finish i =>
    refine iff_of_true ?_ trivial
    rw [step]
    split
    · rename_i hphase
      exact (agrees_goOn (fun k => by rw [hphase]; exact id) fun k => id).mpr h
    · exact h
  | fail i error =>
    refine iff_of_true ?_ trivial
    rw [step]
    split
    · rename_i hphase
      exact (agrees_goOn (fun k => by rw [hphase]; exact id) fun k => id).mpr h
    · rename_i hphase
      exact (agrees_goOn (fun k => by rw [hphase]; exact id) fun k => id).mpr h
    · exact h

omit [DecidableEq ι] [DecidableEq κ] in
/-- A process that comes up agrees with the rows, unless it could not read them and some row reads
otherwise than none does. -/
theorem agrees_boot {rows : κ → Option ρ} {readable : Bool} :
    (State.boot C rows readable : State ι κ ρ ν α φ).Agrees C read ↔
      readable = true ∨ ∀ k, read C.unset = read ((rows k).elim C.unset C.view) := by
  constructor
  · intro h
    rcases Bool.eq_false_or_eq_true readable with htrue | hfalse
    · exact .inl htrue
    · refine .inr fun k => ?_
      subst hfalse
      exact h k fun i => id
  · rintro (rfl | hrows) k -
    · rfl
    · change read (if readable then (rows k).elim C.unset C.view else C.unset) =
        read ((rows k).elim C.unset C.view)
      split
      · rfl
      · exact hrows k

/-- All the way through a run the copy agrees with the rows exactly when, at each step that sets it,
the last call that owes a key brings what is stored. -/
theorem agrees_iff {s : State ι κ ρ ν α φ} (h : s.Agrees C read) {es : List (Event ι φ)} :
    (∀ es', es' <+: es → (runFrom (step C calls) s es').Agrees C read) ↔
      EachStep (step C calls) (State.LastIsCurrent C read) s es :=
  forall_prefix_iff (P := State.Agrees C read) (A := fun _ _ => True)
    (fun _ e _ hs => agrees_step hs e) h (EachStep.of_forall (fun _ _ => trivial) es)

end Relational.WriteThrough
