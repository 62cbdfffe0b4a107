import Mathlib.Algebra.Ring.Nat
import Mathlib.Data.List.Basic
import Mathlib.Logic.Function.Basic
import VielHome.Relational.Run

/-!
# Concurrent transactions under READ COMMITTED

Any number of sessions run against one store, statement by statement. A statement sees the
rows committed before it starts and the session's own uncommitted writes; a commit applies
these writes to the latest committed store; a session that fails or is cut off leaves
nothing of its open transaction. So a session carries its writes as a function on stores,
and its view is that function applied to the committed store of the moment.

A statement takes locks, which stay until its transaction ends. The database makes a
statement wait for the locks it enforces: row locks, advisory locks, the keys of a unique
index. A program may also name locks that nobody enforces. They have no effect on a run;
they say which lock would have been needed, and `Orderly` singles out the runs that keep
them all the same: no statement passes one that is held.

`Prog.solo` runs a program alone. `run_solo` says that a session does the same among the
others while nobody holds its locks.
-/

namespace Relational.ReadCommitted

variable {ι σ ρ ε α β : Type}

/-- How a lock is held. -/
inductive Mode
  | shared
  | exclusive
  deriving DecidableEq

/-- Two sessions may hold a lock together only when both share it. -/
def Mode.compatible : Mode → Mode → Bool
  | .shared, .shared => true
  | _, _ => false

/-- It does not matter which of two locks was first. -/
theorem Mode.compatible_comm (m m' : Mode) : m.compatible m' = m'.compatible m := by
  cases m <;> cases m' <;> rfl

/-- What a session still has to do. A statement takes locks, writes through `effect`, and
goes on with what it saw before its own write. A commit gives back all locks but `keep`. A
failed program has rolled back; one that catches an error rolls back and goes on. -/
inductive Prog (σ ρ ε α : Type) : Type
  | done (a : α)
  | fail (e : ε)
  | stmt (locks : σ → List (ρ × Mode)) (effect : σ → σ) (next : σ → Prog σ ρ ε α)
  | commit (keep : List ρ) (next : Prog σ ρ ε α)
  | rollback (next : Prog σ ρ ε α)

namespace Prog

/-- One program after another. -/
protected def bind : Prog σ ρ ε α → (α → Prog σ ρ ε β) → Prog σ ρ ε β
  | done a, f => f a
  | fail e, _ => fail e
  | stmt locks effect next, f => stmt locks effect fun v => (next v).bind f
  | commit keep next, f => commit keep (next.bind f)
  | rollback next, f => rollback (next.bind f)

instance : Monad (Prog σ ρ ε) where
  pure := done
  bind := Prog.bind

/-- A read that takes no lock. -/
def query (f : σ → α) : Prog σ ρ ε α := stmt (fun _ => []) id fun v => done (f v)

/-- A read under locks. -/
def queryUnder (locks : σ → List (ρ × Mode)) (f : σ → α) : Prog σ ρ ε α :=
  stmt locks id fun v => done (f v)

/-- A write under locks. -/
def write (locks : List (ρ × Mode)) (f : σ → σ) : Prog σ ρ ε PUnit :=
  stmt (fun _ => locks) f fun _ => done ⟨⟩

/-- A write under locks that a constraint may refuse: an insertion under a unique index or
a foreign key, or an update of a row that has to be there. -/
def writeUnless (locks : List (ρ × Mode)) (refused : σ → Option ε) (f : σ → σ) :
    Prog σ ρ ε PUnit :=
  stmt (fun _ => locks) f fun v =>
    match refused v with
    | none => done ⟨⟩
    | some e => fail e

/-- A write under locks that fails with `e` unless `ok` holds when it starts. -/
def writeIf (locks : List (ρ × Mode)) (ok : σ → Bool) (e : ε) (f : σ → σ) : Prog σ ρ ε PUnit :=
  stmt (fun _ => locks) f fun v => if ok v then done ⟨⟩ else fail e

/-- An insertion that is made when the row is absent, and nothing otherwise: an `upsert` with
an empty update. It locks the entry of the unique index when it inserts. -/
def insertIfAbsent (lock : ρ) (absent : σ → Bool) (refused : σ → Option ε) (f : σ → σ) :
    Prog σ ρ ε PUnit :=
  stmt (fun v => if absent v then [(lock, .exclusive)] else [])
    (fun s => if absent s then f s else s) fun v =>
      match if absent v then refused v else none with
      | none => done ⟨⟩
      | some e => fail e

/-- Abort with `e` unless `c` holds. -/
def require (c : Prop) [Decidable c] (e : ε) : Prog σ ρ ε PUnit :=
  if c then done ⟨⟩ else fail e

/-- The value of an optional read, or abort with `e`. -/
def expect : Option α → ε → Prog σ ρ ε α
  | some a, _ => done a
  | none, e => fail e

/-- An `updateMany` of the one row behind a lock, which has to match: in the snapshot of the
statement, and again once the row is free. -/
def claim (lock : ρ) (matched : σ → Bool) (e : ε) (f : σ → σ) : Prog σ ρ ε PUnit := do
  let found ← query matched
  require (found = true) e
  writeIf [(lock, .exclusive)] matched e f

/-- One program for each element of a list, in list order. -/
def forEach : List β → (β → Prog σ ρ ε PUnit) → Prog σ ρ ε PUnit
  | [], _ => done ⟨⟩
  | b :: bs, f => (f b).bind fun _ => forEach bs f

/-- The rows of a list, one after the other: each is written when it still matches once it is
free. -/
def updateEach (bs : List β) (lock : β → ρ) (matched : β → σ → Bool) (f : β → σ → σ) :
    Prog σ ρ ε PUnit :=
  forEach bs fun b => do
    let still ← queryUnder (fun _ => [(lock b, .exclusive)]) (matched b)
    if still then write [] (f b) else pure ⟨⟩

/-- An `updateMany` of any number of rows: of those that match in the snapshot of the
statement each is written when it still matches once it is free. -/
def updateMany (ids : σ → List β) (lock : β → ρ) (matched : β → σ → Bool) (f : β → σ → σ) :
    Prog σ ρ ε PUnit := do
  let found ← query ids
  forEach found fun b => do
    let still ← queryUnder (fun _ => [(lock b, .exclusive)]) (matched b)
    if still then write [] (f b) else pure ⟨⟩

/-- End the transaction, giving back every lock. -/
def commitAll : Prog σ ρ ε PUnit := commit [] (done ⟨⟩)

/-- End the transaction, giving back every lock but those of `keep`. -/
def commitKeeping (keep : List ρ) : Prog σ ρ ε PUnit := commit keep (done ⟨⟩)

/-- A program as one transaction. -/
def transaction (p : Prog σ ρ ε α) : Prog σ ρ ε α := do
  let a ← p
  commitAll
  pure a

/-- Go on after an error, which has rolled the open transaction back. -/
def tryCatch : Prog σ ρ ε α → (ε → Prog σ ρ ε α) → Prog σ ρ ε α
  | done a, _ => done a
  | fail e, h => rollback (h e)
  | stmt locks effect next, h => stmt locks effect fun v => (next v).tryCatch h
  | commit keep next, h => commit keep (next.tryCatch h)
  | rollback next, h => rollback (next.tryCatch h)

/-- Nothing is left to do. -/
def ended : Prog σ ρ ε α → Bool
  | done _ => true
  | fail _ => true
  | _ => false

section Bind

variable {f : α → Prog σ ρ ε β}

@[simp] theorem done_bind {a : α} : (done a : Prog σ ρ ε α) >>= f = f a := rfl

@[simp] theorem pure_bind {a : α} : (pure a : Prog σ ρ ε α) >>= f = f a := rfl

@[simp] theorem pure_eq {a : α} : (pure a : Prog σ ρ ε α) = done a := rfl

@[simp] theorem fail_bind {e : ε} : (fail e : Prog σ ρ ε α) >>= f = fail e := rfl

@[simp] theorem stmt_bind {locks : σ → List (ρ × Mode)} {effect : σ → σ}
    {next : σ → Prog σ ρ ε α} :
    stmt locks effect next >>= f = stmt locks effect fun v => next v >>= f := rfl

@[simp] theorem commit_bind {keep : List ρ} {next : Prog σ ρ ε α} :
    commit keep next >>= f = commit keep (next >>= f) := rfl

@[simp] theorem rollback_bind {next : Prog σ ρ ε α} :
    rollback next >>= f = rollback (next >>= f) := rfl

@[simp] theorem query_bind {q : σ → α} :
    (query q : Prog σ ρ ε α) >>= f = stmt (fun _ => []) id fun v => f (q v) := rfl

@[simp] theorem queryUnder_bind {locks : σ → List (ρ × Mode)} {q : σ → α} :
    (queryUnder locks q : Prog σ ρ ε α) >>= f = stmt locks id fun v => f (q v) := rfl

@[simp] theorem write_bind {locks : List (ρ × Mode)} {w : σ → σ} {g : PUnit → Prog σ ρ ε β} :
    (write locks w : Prog σ ρ ε PUnit) >>= g = stmt (fun _ => locks) w fun _ => g ⟨⟩ := rfl

theorem writeIf_bind {locks : List (ρ × Mode)} {ok : σ → Bool} {e : ε} {w : σ → σ}
    {g : PUnit → Prog σ ρ ε β} :
    (writeIf locks ok e w : Prog σ ρ ε PUnit) >>= g =
      stmt (fun _ => locks) w fun v => if ok v then g ⟨⟩ else fail e := by
  refine congrArg (stmt (fun _ => locks) w) (funext fun v => ?_)
  change (if ok v then done ⟨⟩ else fail e : Prog σ ρ ε PUnit) >>= g = _
  split <;> rfl

theorem writeUnless_bind {locks : List (ρ × Mode)} {refused : σ → Option ε} {w : σ → σ}
    {g : PUnit → Prog σ ρ ε β} :
    (writeUnless locks refused w : Prog σ ρ ε PUnit) >>= g =
      stmt (fun _ => locks) w fun v =>
        match refused v with
        | none => g ⟨⟩
        | some e => fail e := by
  refine congrArg (stmt (fun _ => locks) w) (funext fun v => ?_)
  change (match refused v with
    | none => done ⟨⟩
    | some e => fail e : Prog σ ρ ε PUnit) >>= g = _
  cases refused v <;> rfl

theorem insertIfAbsent_bind {lock : ρ} {absent : σ → Bool} {refused : σ → Option ε} {w : σ → σ}
    {g : PUnit → Prog σ ρ ε β} :
    (insertIfAbsent lock absent refused w : Prog σ ρ ε PUnit) >>= g =
      stmt (fun v => if absent v then [(lock, .exclusive)] else [])
        (fun s => if absent s then w s else s) fun v =>
          match if absent v then refused v else none with
          | none => g ⟨⟩
          | some e => fail e := by
  refine congrArg (stmt _ _) (funext fun v => ?_)
  change (match if absent v then refused v else none with
    | none => done ⟨⟩
    | some e => fail e : Prog σ ρ ε PUnit) >>= g = _
  cases (if absent v then refused v else none) <;> rfl

@[simp] theorem commitAll_bind {g : PUnit → Prog σ ρ ε β} :
    (commitAll : Prog σ ρ ε PUnit) >>= g = commit [] (g ⟨⟩) := rfl

@[simp] theorem commitKeeping_bind {keep : List ρ} {g : PUnit → Prog σ ρ ε β} :
    (commitKeeping keep : Prog σ ρ ε PUnit) >>= g = commit keep (g ⟨⟩) := rfl

theorem forEach_cons {b : β} {bs : List β} {f : β → Prog σ ρ ε PUnit} :
    forEach (b :: bs) f = f b >>= fun _ => forEach bs f := rfl

/-- Three programs in a row. -/
theorem bind_assoc {γ : Type} (p : Prog σ ρ ε α) (f : α → Prog σ ρ ε β) (g : β → Prog σ ρ ε γ) :
    p >>= f >>= g = p >>= fun a => f a >>= g := by
  induction p with
  | done a => rfl
  | fail e => rfl
  | stmt locks effect next ih => exact congrArg (stmt locks effect) (funext ih)
  | commit keep next ih => exact congrArg (commit keep) ih
  | rollback next ih => exact congrArg rollback ih

/-- A program after which there is nothing to do. -/
theorem bind_done (p : Prog σ ρ ε α) : p >>= done = p := by
  induction p with
  | done a => rfl
  | fail e => rfl
  | stmt locks effect next ih => exact congrArg (stmt locks effect) (funext ih)
  | commit keep next ih => exact congrArg (commit keep) ih
  | rollback next ih => exact congrArg rollback ih

theorem ite_bind {c : Prop} [Decidable c] {p q : Prog σ ρ ε α} :
    (if c then p else q) >>= f = if c then p >>= f else q >>= f := by
  split <;> rfl

theorem require_bind {c : Prop} [Decidable c] {e : ε} {g : PUnit → Prog σ ρ ε β} :
    (require c e : Prog σ ρ ε PUnit) >>= g = if c then g ⟨⟩ else fail e := by
  rw [require]
  split <;> rfl

theorem expect_bind {o : Option α} {e : ε} :
    (expect o e : Prog σ ρ ε α) >>= f = match o with
      | some a => f a
      | none => fail e := by
  cases o <;> rfl

end Bind

/-- A program that runs alone, on a committed store and a working store that carries the
writes of the open transaction: its outcome, and the two stores it leaves. -/
def solo : Prog σ ρ ε α → σ → σ → Except ε α × σ × σ
  | done a, c, w => (.ok a, c, w)
  | fail e, c, _ => (.error e, c, c)
  | stmt _ effect next, c, w => (next w).solo c (effect w)
  | commit _ next, _, w => next.solo w w
  | rollback next, c, _ => next.solo c c

/-- The store that a call leaves when it runs alone. -/
def exec (p : Prog σ ρ ε α) (s : σ) : σ := (p.solo s s).2.1

/-- The outcome of a call that runs alone. -/
def outcome (p : Prog σ ρ ε α) (s : σ) : Except ε α := (p.solo s s).1

/-- A program after another, alone. -/
theorem solo_bind (p : Prog σ ρ ε α) (f : α → Prog σ ρ ε β) (c w : σ) :
    (p >>= f).solo c w =
      match p.solo c w with
      | (.ok a, c', w') => (f a).solo c' w'
      | (.error e, c', w') => (.error e, c', w') := by
  induction p generalizing c w with
  | done a => rfl
  | fail e => rfl
  | stmt locks effect next ih => exact ih w c (effect w)
  | commit keep next ih => exact ih w w
  | rollback next ih => exact ih c c

/-- A program with its handler, alone. -/
theorem solo_tryCatch (p : Prog σ ρ ε α) (h : ε → Prog σ ρ ε α) (c w : σ) :
    (p.tryCatch h).solo c w =
      match p.solo c w with
      | (.ok a, c', w') => (.ok a, c', w')
      | (.error e, c', _) => (h e).solo c' c' := by
  induction p generalizing c w with
  | done a => rfl
  | fail e => rfl
  | stmt locks effect next ih => exact ih w c (effect w)
  | commit keep next ih => exact ih w w
  | rollback next ih => exact ih c c

section Solo

variable {c w : σ}

@[simp] theorem solo_done {a : α} : (done a : Prog σ ρ ε α).solo c w = (.ok a, c, w) := rfl

@[simp] theorem solo_fail {e : ε} : (fail e : Prog σ ρ ε α).solo c w = (.error e, c, c) := rfl

@[simp] theorem solo_stmt {locks : σ → List (ρ × Mode)} {effect : σ → σ}
    {next : σ → Prog σ ρ ε α} :
    (stmt locks effect next).solo c w = (next w).solo c (effect w) := rfl

@[simp] theorem solo_commit {keep : List ρ} {next : Prog σ ρ ε α} :
    (commit keep next).solo c w = next.solo w w := rfl

@[simp] theorem solo_rollback {next : Prog σ ρ ε α} : (rollback next).solo c w = next.solo c c :=
  rfl

@[simp] theorem solo_ite {P : Prop} [Decidable P] {p q : Prog σ ρ ε α} :
    (if P then p else q).solo c w = if P then p.solo c w else q.solo c w := by
  split <;> rfl

theorem solo_query_bind {q : σ → α} {f : α → Prog σ ρ ε β} :
    (query q >>= f).solo c w = (f (q w)).solo c w := rfl

theorem solo_expect_bind {o : Option α} {e : ε} {f : α → Prog σ ρ ε β} :
    (expect o e >>= f).solo c w =
      match o with
      | some a => (f a).solo c w
      | none => (.error e, c, c) := by
  cases o <;> rfl

theorem solo_writeUnless_bind {locks : List (ρ × Mode)} {refused : σ → Option ε} {g : σ → σ}
    {f : PUnit → Prog σ ρ ε β} :
    (writeUnless locks refused g >>= f).solo c w =
      match refused w with
      | none => (f ⟨⟩).solo c (g w)
      | some e => (.error e, c, c) := by
  rw [writeUnless_bind, solo_stmt]
  cases refused w <;> rfl

/-- Alone, the two looks of `claim` at the row see the same. -/
theorem solo_claim_bind {lock : ρ} {matched : σ → Bool} {e : ε} {g : σ → σ}
    {f : PUnit → Prog σ ρ ε β} :
    (claim lock matched e g >>= f).solo c w =
      if matched w = true then (f ⟨⟩).solo c (g w) else (.error e, c, c) := by
  rw [claim, bind_assoc, query_bind, solo_stmt, bind_assoc, require_bind, writeIf_bind, solo_ite,
    solo_stmt, solo_ite, id]
  split <;> rfl

/-- Alone, `updateMany` rewrites the matching rows one after the other. -/
theorem solo_updateMany_bind {ids : σ → List β} {lock : β → ρ} {matched : β → σ → Bool}
    {g : β → σ → σ} {f : PUnit → Prog σ ρ ε α} :
    (updateMany ids lock matched g >>= f).solo c w =
      (f ⟨⟩).solo c ((ids w).foldl (fun s b => if matched b s then g b s else s) w) := by
  rw [updateMany, bind_assoc, query_bind, solo_stmt, id]
  generalize ids w = found
  induction found generalizing w with
  | nil => rfl
  | cons b found ih =>
    rw [List.foldl_cons, ← ih, forEach_cons, bind_assoc, bind_assoc, queryUnder_bind, solo_stmt,
      ite_bind, solo_ite]
    split <;> rfl

/-- A transaction alone: its writes are committed together, or not at all. -/
theorem solo_transaction_bind {p : Prog σ ρ ε α} {f : α → Prog σ ρ ε β} :
    (transaction p >>= f).solo c w =
      match p.solo c w with
      | (.ok a, _, w') => (f a).solo w' w'
      | (.error e, c', w') => (.error e, c', w') := by
  rw [transaction, bind_assoc, solo_bind]
  rfl

theorem solo_writeIf {locks : List (ρ × Mode)} {ok : σ → Bool} {e : ε} {g : σ → σ} :
    (writeIf locks ok e g : Prog σ ρ ε PUnit).solo c w =
      if ok w = true then (.ok ⟨⟩, c, g w) else (.error e, c, c) := by
  rw [writeIf, solo_stmt, solo_ite]
  rfl

theorem solo_writeIf_bind {locks : List (ρ × Mode)} {ok : σ → Bool} {e : ε} {g : σ → σ}
    {f : PUnit → Prog σ ρ ε β} :
    (writeIf locks ok e g >>= f).solo c w =
      if ok w = true then (f ⟨⟩).solo c (g w) else (.error e, c, c) := by
  rw [writeIf_bind, solo_stmt, solo_ite]
  rfl

theorem solo_insertIfAbsent_bind {lock : ρ} {absent : σ → Bool} {refused : σ → Option ε} {g : σ → σ}
    {f : PUnit → Prog σ ρ ε β} :
    (insertIfAbsent lock absent refused g >>= f).solo c w =
      match if absent w then refused w else none with
      | none => (f ⟨⟩).solo c (if absent w then g w else w)
      | some e => (.error e, c, c) := by
  rw [insertIfAbsent_bind, solo_stmt]
  cases (if absent w then refused w else none) <;> rfl

/-- A transaction alone commits at its end, and not when it fails. -/
theorem solo_transaction {p : Prog σ ρ ε α} :
    (transaction p).solo c w =
      match p.solo c w with
      | (.ok a, _, w') => (.ok a, w', w')
      | (.error e, c', w') => (.error e, c', w') := by
  rw [transaction, solo_bind]
  rcases p.solo c w with ⟨a | e, c', w'⟩ <;> rfl

theorem solo_writeUnless {locks : List (ρ × Mode)} {refused : σ → Option ε} {g : σ → σ} :
    (writeUnless locks refused g : Prog σ ρ ε PUnit).solo c w =
      match refused w with
      | none => (.ok ⟨⟩, c, g w)
      | some e => (.error e, c, c) := by
  rw [writeUnless, solo_stmt]
  cases refused w <;> rfl

end Solo

/-! ### Calls that run alone, a transaction at a time -/

section Exec

variable {s : σ}

@[simp] theorem exec_done {a : α} : (done a : Prog σ ρ ε α).exec s = s := rfl

@[simp] theorem exec_fail {e : ε} : (fail e : Prog σ ρ ε α).exec s = s := rfl

theorem exec_query_bind {q : σ → α} {f : α → Prog σ ρ ε β} :
    (query q >>= f).exec s = (f (q s)).exec s := rfl

theorem exec_queryUnder_bind {locks : σ → List (ρ × Mode)} {q : σ → α} {f : α → Prog σ ρ ε β} :
    (queryUnder locks q >>= f).exec s = (f (q s)).exec s := rfl

theorem exec_ite {P : Prop} [Decidable P] {p q : Prog σ ρ ε α} :
    (if P then p else q).exec s = if P then p.exec s else q.exec s := by
  split <;> rfl

theorem exec_require_bind {P : Prop} [Decidable P] {e : ε} {f : PUnit → Prog σ ρ ε β} :
    (require P e >>= f).exec s = if P then (f ⟨⟩).exec s else s := by
  rw [require_bind, exec_ite]
  rfl

theorem exec_expect_bind {o : Option α} {e : ε} {f : α → Prog σ ρ ε β} :
    (expect o e >>= f).exec s =
      match o with
      | some a => (f a).exec s
      | none => s := by
  cases o <;> rfl

/-- What follows a transaction that has committed. -/
theorem exec_transaction_bind {p : Prog σ ρ ε α} {f : α → Prog σ ρ ε β} :
    (transaction p >>= f).exec s =
      match p.solo s s with
      | (.ok a, _, s') => (f a).exec s'
      | (.error _, s', _) => s' := by
  rw [exec, solo_transaction_bind]
  rcases p.solo s s with ⟨a | e, c, w⟩ <;> rfl

/-- What a transaction leaves. -/
theorem exec_transaction {p : Prog σ ρ ε α} :
    (transaction p).exec s =
      match p.solo s s with
      | (.ok _, _, s') => s'
      | (.error _, s', _) => s' := by
  rw [exec, transaction, solo_bind]
  rcases p.solo s s with ⟨a | e, c, w⟩ <;> rfl

end Exec

end Prog

/-- A client: what is left of its program, and the writes of its open transaction. -/
structure Session (σ ρ ε α : Type) where
  rest : Prog σ ρ ε α
  pending : σ → σ

/-- The committed store, the sessions, and who holds which lock. -/
structure Database (ι σ ρ ε α : Type) where
  store : σ
  session : ι → Session σ ρ ε α
  held : List (ι × ρ × Mode)

/-- The literals that number two sessions. -/
instance neZero_two : NeZero 2 := ⟨by decide⟩

/-- The literals that number three sessions. -/
instance neZero_three : NeZero 3 := ⟨by decide⟩

/-- The literals that number five sessions. -/
instance neZero_five : NeZero 5 := ⟨by decide⟩

/-- What can happen: a session does its next step, or its open transaction is aborted from
outside (a deadlock, a lost connection). -/
inductive Event (ι ε : Type)
  | step (i : ι)
  | abort (i : ι) (e : ε)

/-- The session that an event is about. -/
def Event.session : Event ι ε → ι
  | .step i => i
  | .abort i _ => i

namespace Database

/-- All sessions are about to start. -/
def start (store : σ) (program : ι → Prog σ ρ ε α) : Database ι σ ρ ε α :=
  ⟨store, fun i => ⟨program i, id⟩, []⟩

variable [DecidableEq ι] [DecidableEq ρ]

/-- Some other session holds `l` in a way that excludes `m`. -/
def excluded (d : Database ι σ ρ ε α) (i : ι) (l : ρ × Mode) : Bool :=
  d.held.any fun h => h.1 ≠ i ∧ h.2.1 = l.1 ∧ ¬ h.2.2.compatible l.2

/-- The locks the next statement of a session takes. -/
def wanted (d : Database ι σ ρ ε α) (i : ι) : List (ρ × Mode) :=
  match (d.session i).rest with
  | .stmt locks _ _ => locks ((d.session i).pending d.store)
  | _ => []

/-- Replace a session. One that has ended gives back its locks and drops its open
transaction. -/
def put (d : Database ι σ ρ ε α) (i : ι) (s : Session σ ρ ε α) : Database ι σ ρ ε α :=
  if s.rest.ended then
    { d with
      session := Function.update d.session i { s with pending := id }
      held := d.held.filter fun h => h.1 ≠ i }
  else { d with session := Function.update d.session i s }

/-- One event, where the database enforces the locks that satisfy `enforced`. -/
def next (enforced : ρ → Bool) (d : Database ι σ ρ ε α) : Event ι ε → Database ι σ ρ ε α
  | .step i =>
    match (d.session i).rest with
    | .done _ => d
    | .fail _ => d
    | .stmt locks effect next =>
      let view := (d.session i).pending d.store
      if (locks view).any fun l => enforced l.1 && d.excluded i l then d
      else
        { d with held := d.held ++ (locks view).map fun l => (i, l) }.put i
          ⟨next view, fun s => effect ((d.session i).pending s)⟩
    | .commit keep next =>
      { d with
        store := (d.session i).pending d.store
        held := d.held.filter fun h => h.1 ≠ i ∨ h.2.1 ∈ keep }.put i ⟨next, id⟩
    | .rollback next => { d with held := d.held.filter fun h => h.1 ≠ i }.put i ⟨next, id⟩
  | .abort i e => if (d.session i).rest.ended then d else d.put i ⟨.fail e, id⟩

variable {enforced : ρ → Bool} {d : Database ι σ ρ ε α} {i : ι} {pending : σ → σ}

/-- A statement waits, or it runs and takes its locks. -/
theorem next_stmt {locks : σ → List (ρ × Mode)} {effect : σ → σ} {rest : σ → Prog σ ρ ε α}
    (h : d.session i = ⟨.stmt locks effect rest, pending⟩) :
    d.next enforced (.step i) = d ∨
      d.next enforced (.step i) =
        { d with held := d.held ++ (locks (pending d.store)).map fun l => (i, l) }.put i
          ⟨rest (pending d.store), fun s => effect (pending s)⟩ := by
  rw [next, h]
  by_cases hblocked : (locks (pending d.store)).any fun l => enforced l.1 && d.excluded i l
  · exact Or.inl (if_pos hblocked)
  · exact Or.inr (if_neg hblocked)

/-- A commit stores what is pending. -/
theorem next_commit {keep : List ρ} {rest : Prog σ ρ ε α}
    (h : d.session i = ⟨.commit keep rest, pending⟩) :
    d.next enforced (.step i) =
      { d with
        store := pending d.store
        held := d.held.filter fun h => h.1 ≠ i ∨ h.2.1 ∈ keep }.put i ⟨rest, id⟩ := by
  rw [next, h]

/-- A rollback forgets it. -/
theorem next_rollback {rest : Prog σ ρ ε α} (h : d.session i = ⟨.rollback rest, pending⟩) :
    d.next enforced (.step i) =
      { d with held := d.held.filter fun h => h.1 ≠ i }.put i ⟨rest, id⟩ := by
  rw [next, h]

/-- A session that has ended does nothing more. -/
theorem next_ended (h : (d.session i).rest.ended = true) : d.next enforced (.step i) = d := by
  rw [next]
  cases hrest : (d.session i).rest with
  | done a => rfl
  | fail e => rfl
  | stmt locks effect rest => simp [hrest, Prog.ended] at h
  | commit keep rest => simp [hrest, Prog.ended] at h
  | rollback rest => simp [hrest, Prog.ended] at h

/-- The event is no statement that passes a lock of `kept` which another session holds and
nobody enforces. -/
def Orderly (enforced kept : ρ → Bool) (d : Database ι σ ρ ε α) : Event ι ε → Prop
  | .step i => ∀ l ∈ d.wanted i, kept l.1 = true → enforced l.1 = false → d.excluded i l = false
  | .abort _ _ => True

instance Orderly.decidable (enforced kept : ρ → Bool) (d : Database ι σ ρ ε α) :
    (e : Event ι ε) → Decidable (d.Orderly enforced kept e)
  | .step i =>
    inferInstanceAs (Decidable (∀ l ∈ d.wanted i, kept l.1 = true → enforced l.1 = false →
      d.excluded i l = false))
  | .abort _ _ => inferInstanceAs (Decidable True)

/-! ### Replacing a session -/

omit [DecidableEq ρ] in
/-- No lock is taken by going on. -/
theorem mem_held_put {s : Session σ ρ ε α} {h : ι × ρ × Mode}
    (hh : h ∈ (d.put i s).held) : h ∈ d.held := by
  rw [put] at hh
  split at hh
  · exact List.mem_of_mem_filter hh
  · exact hh

omit [DecidableEq ρ] in
/-- Nothing is stored by it. -/
theorem store_put {s : Session σ ρ ε α} :
    (d.put i s).store = d.store := by
  rw [put]
  split <;> rfl

omit [DecidableEq ρ] in
/-- No other session goes on. -/
theorem session_put_ne {j : ι} {s : Session σ ρ ε α} (hj : j ≠ i) :
    (d.put i s).session j = d.session j := by
  rw [put]
  split <;> exact Function.update_of_ne hj _ _

/-- A lock is free for a session when no other one holds it in a mode that excludes it. -/
theorem excluded_eq_false {l : ρ × Mode} :
    d.excluded i l = false ↔
      ∀ h ∈ d.held, h.1 ≠ i → h.2.1 = l.1 → h.2.2.compatible l.2 = true := by
  simp only [excluded, List.any_eq_false, decide_eq_true_eq, not_and, not_not]

end Database

/-! ### Sessions that run without interruption -/

namespace Prog

/-- A program that has ended leaves the store as it is. -/
theorem solo_of_ended {p : Prog σ ρ ε α} (h : p.ended = true) (c w : σ) :
    (p.solo c w).2.1 = c := by
  cases p with
  | done a => rfl
  | fail e => rfl
  | stmt locks effect next => simp [ended] at h
  | commit keep next => simp [ended] at h
  | rollback next => simp [ended] at h

end Prog

namespace Database

variable [DecidableEq ι]

/-- The session goes on, and what was pending is gone when it has ended. -/
theorem session_put_self {d : Database ι σ ρ ε α} {i : ι} {s : Session σ ρ ε α} :
    (d.put i s).session i = ⟨s.rest, if s.rest.ended then id else s.pending⟩ := by
  rw [put]
  split <;> simp_all

/-- Ending does not change what the rest comes to. -/
private theorem solo_put (s : Session σ ρ ε α) (c : σ) :
    (s.rest.solo c ((if s.rest.ended then id else s.pending) c)).2.1 =
      (s.rest.solo c (s.pending c)).2.1 := by
  split
  case isTrue h => rw [Prog.solo_of_ended h, Prog.solo_of_ended h]
  case isFalse => rfl

/-- A session that has ended holds no lock. -/
theorem held_put_of_ended {d : Database ι σ ρ ε α} {i : ι} {s : Session σ ρ ε α}
    (hs : s.rest.ended = true) {h : ι × ρ × Mode} (hh : h ∈ (d.put i s).held) : h.1 ≠ i := by
  rw [put, if_pos hs] at hh
  simpa using (List.mem_filter.mp hh).2

/-- What `run_solo` says of a session: it comes to its end and leaves the store `t`. -/
private def EndsIn [DecidableEq ρ] (enforced : ρ → Bool) (i : ι) (d : Database ι σ ρ ε α)
    (ended : Bool) (t : σ) : Prop :=
  ∃ n d', runFrom (next enforced) d (List.replicate n (.step i)) = d' ∧ d'.store = t ∧
    (∀ j, j ≠ i → d'.session j = d.session j) ∧
    ∀ h ∈ d'.held, h ∈ d.held ∧ (h.1 = i → ended = true)

/-- One step that replaces the session, and then the rest of the run. -/
private theorem EndsIn.cons [DecidableEq ρ] {enforced : ρ → Bool} {i : ι}
    {d d₀ : Database ι σ ρ ε α} {s : Session σ ρ ε α}
    (hstep : next enforced d (.step i) = d₀.put i s) (hsame : ∀ j, d₀.session j = d.session j)
    (hheld : ∀ h ∈ d₀.held, h.1 ≠ i → h ∈ d.held)
    (h : EndsIn enforced i (d₀.put i s) s.rest.ended
      (s.rest.solo (d₀.put i s).store
        ((if s.rest.ended then id else s.pending) (d₀.put i s).store)).2.1) :
    EndsIn enforced i d false (s.rest.solo d₀.store (s.pending d₀.store)).2.1 := by
  obtain ⟨n, d', hrun, hstore, hothers, hlocks⟩ := h
  refine ⟨n + 1, d', ?_, ?_, fun j hj => ?_, fun h hh => ?_⟩
  · rw [List.replicate_succ, runFrom_cons, hstep, hrun]
  · rw [hstore, store_put]
    exact solo_put s d₀.store
  · rw [hothers j hj, session_put_ne hj, hsame]
  · obtain ⟨hh, hended⟩ := hlocks h hh
    -- an ended session has given its locks back
    have hne : h.1 ≠ i := fun hi => held_put_of_ended (hended hi) hh hi
    exact ⟨hheld h (mem_held_put hh) hne, fun hi => absurd hi hne⟩

/-- A session whose locks nobody else holds runs to its end as if it were alone; the other
sessions notice nothing but the store. -/
theorem run_solo [DecidableEq ρ] (enforced : ρ → Bool) {i : ι} {rest : Prog σ ρ ε α}
    {pending : σ → σ} {d : Database ι σ ρ ε α} (hsession : d.session i = ⟨rest, pending⟩)
    (hfree : ∀ h ∈ d.held, h.1 ≠ i → enforced h.2.1 = false) :
    ∃ n d', runFrom (next enforced) d (List.replicate n (.step i)) = d' ∧
      d'.store = (rest.solo d.store (pending d.store)).2.1 ∧
      (∀ j, j ≠ i → d'.session j = d.session j) ∧
      ∀ h ∈ d'.held, h ∈ d.held ∧ (h.1 = i → rest.ended = true) := by
  induction rest generalizing d pending with
  | done a => exact ⟨0, d, rfl, rfl, fun _ _ => rfl, fun _ h => ⟨h, fun _ => rfl⟩⟩
  | fail e => exact ⟨0, d, rfl, rfl, fun _ _ => rfl, fun _ h => ⟨h, fun _ => rfl⟩⟩
  | stmt locks effect rest ih =>
    have hstep : next enforced d (.step i) =
        { d with held := d.held ++ (locks (pending d.store)).map fun l => (i, l) }.put i
          ⟨rest (pending d.store), fun s => effect (pending s)⟩ := by
      rw [next, hsession]
      refine if_neg ?_
      simp only [List.any_eq_true, Bool.and_eq_true, not_exists, not_and, Bool.not_eq_true]
      intro l _ henforced
      refine excluded_eq_false.mpr fun h hh hne hl => ?_
      rw [← hl, hfree h hh hne] at henforced
      exact absurd henforced (by simp)
    have hheld : ∀ h ∈ d.held ++ (locks (pending d.store)).map fun l => (i, l), h.1 ≠ i →
        h ∈ d.held := by
      intro h hh hne
      rcases List.mem_append.mp hh with hh | hh
      · exact hh
      · obtain ⟨l, _, rfl⟩ := List.mem_map.mp hh
        exact absurd rfl hne
    exact EndsIn.cons hstep (fun _ => rfl) hheld
      (ih _ session_put_self fun h hh hne => hfree h (hheld h (mem_held_put hh) hne) hne)
  | commit keep rest ih =>
    have hheld : ∀ h ∈ d.held.filter fun h => h.1 ≠ i ∨ h.2.1 ∈ keep, h.1 ≠ i → h ∈ d.held :=
      fun h hh _ => List.mem_of_mem_filter hh
    exact EndsIn.cons (next_commit hsession) (fun _ => rfl) hheld
      (ih session_put_self fun h hh hne => hfree h (hheld h (mem_held_put hh) hne) hne)
  | rollback rest ih =>
    have hheld : ∀ h ∈ d.held.filter fun h => h.1 ≠ i, h.1 ≠ i → h ∈ d.held :=
      fun h hh _ => List.mem_of_mem_filter hh
    exact EndsIn.cons (next_rollback hsession) (fun _ => rfl) hheld
      (ih session_put_self fun h hh hne => hfree h (hheld h (mem_held_put hh) hne) hne)

end Database

end Relational.ReadCommitted
