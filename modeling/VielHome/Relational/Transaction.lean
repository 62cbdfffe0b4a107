import Mathlib.Tactic.Common

/-!
# Transactions

A transaction over a store `σ` reads and writes the store and either commits with a value
or fails with an error; a failed transaction has no store, so nothing it wrote survives.
A program is written statement by statement: `query` reads, `write` writes, `require`
aborts unless a condition holds, and `expect` aborts on a missing value.

A proof about a transaction starts from the fact that it committed and takes the program
apart from the front. The `run_*_bind_ok` lemmas are that inversion, one for each
statement, stated so that `simp only` with them peels a program completely.
-/

namespace Relational

universe u v

/-- A transaction: it commits with a value and a new store, or fails and leaves none. -/
def Tx (σ : Type u) (ε : Type v) (α : Type u) : Type (max u v) := σ → Except ε (α × σ)

namespace Tx

variable {σ : Type u} {ε : Type v} {α β : Type u}

/-- Run a transaction on a store. -/
def run (x : Tx σ ε α) (s : σ) : Except ε (α × σ) := x s

instance : Monad (Tx σ ε) where
  pure a := fun s => .ok (a, s)
  bind x f := fun s =>
    match x s with
    | .ok (a, s') => f a s'
    | .error e => .error e

/-- Abort with an error. -/
def fail (e : ε) : Tx σ ε α := fun _ => .error e

/-- Read the store. -/
def query (f : σ → α) : Tx σ ε α := fun s => .ok (f s, s)

/-- Write the store. -/
def write (f : σ → σ) : Tx σ ε PUnit := fun s => .ok (⟨⟩, f s)

/-- Abort with `e` unless `c` holds. -/
def require (c : Prop) [Decidable c] (e : ε) : Tx σ ε PUnit :=
  if c then pure ⟨⟩ else fail e

/-- The value of an optional read, or abort with `e`. -/
def expect (o : Option α) (e : ε) : Tx σ ε α :=
  match o with
  | some a => pure a
  | none => fail e

/-- A check or a computation that does not touch the store. -/
def ofExcept (x : Except ε α) : Tx σ ε α := fun s => x.map fun a => (a, s)

/-- The store a transaction leaves behind: the committed one, or the old one. -/
def exec (x : Tx σ ε α) (s : σ) : σ :=
  match x.run s with
  | .ok (_, s') => s'
  | .error _ => s

/-! ### Running one statement after another -/

variable {s s' : σ} {a : α}

@[simp] theorem run_pure {b : α} : (pure b : Tx σ ε α).run s = .ok (b, s) := rfl

@[simp] theorem run_fail {e : ε} : (fail e : Tx σ ε α).run s = .error e := rfl

@[simp] theorem run_query {f : σ → α} : (query f : Tx σ ε α).run s = .ok (f s, s) := rfl

@[simp] theorem run_write {f : σ → σ} : (write f : Tx σ ε PUnit).run s = .ok (⟨⟩, f s) := rfl

@[simp] theorem run_query_bind {f : σ → β} {g : β → Tx σ ε α} :
    (query f >>= g).run s = (g (f s)).run s := rfl

@[simp] theorem run_write_bind {f : σ → σ} {g : PUnit → Tx σ ε α} :
    (write f >>= g).run s = (g ⟨⟩).run (f s) := rfl

@[simp] theorem run_pure_bind {b : β} {g : β → Tx σ ε α} :
    (pure b >>= g).run s = (g b).run s := rfl

@[simp] theorem run_fail_bind {e : ε} {g : β → Tx σ ε α} :
    ((fail e : Tx σ ε β) >>= g).run s = .error e := rfl

theorem run_bind_of_ok {x : Tx σ ε β} {g : β → Tx σ ε α} {b : β} {s₁ : σ}
    (h : x.run s = .ok (b, s₁)) : (x >>= g).run s = (g b).run s₁ := by
  simp only [run] at h
  simp only [run, bind, h]

theorem run_bind_of_error {x : Tx σ ε β} {g : β → Tx σ ε α} {e : ε}
    (h : x.run s = .error e) : (x >>= g).run s = .error e := by
  simp only [run] at h
  simp only [run, bind, h]

theorem run_require_bind {c : Prop} [Decidable c] {e : ε} {g : PUnit → Tx σ ε α} :
    (require c e >>= g).run s = if c then (g ⟨⟩).run s else .error e := by
  rw [require]
  split <;> rfl

theorem run_expect_bind {o : Option β} {e : ε} {g : β → Tx σ ε α} :
    (expect o e >>= g).run s = match o with
      | some b => (g b).run s
      | none => .error e := by
  cases o <;> rfl

private theorem id_map_run (x : Tx σ ε α) : id <$> x = x := by
  funext s
  change (match x s with
    | .ok (a, s') => .ok (a, s')
    | .error e => .error e) = x s
  cases x s <;> rfl

private theorem bind_assoc_run {γ : Type u} (x : Tx σ ε α) (f : α → Tx σ ε β)
    (g : β → Tx σ ε γ) : x >>= f >>= g = x >>= fun a => f a >>= g := by
  funext s
  simp only [bind]
  cases x s <;> rfl

instance : LawfulMonad (Tx σ ε) :=
  LawfulMonad.mk' (Tx σ ε) id_map_run (fun _ _ => rfl) bind_assoc_run

/-! ### Inversion of committed runs -/

theorem run_pure_ok {b : α} : (pure b : Tx σ ε α).run s = .ok (a, s') ↔ a = b ∧ s' = s := by
  simp [eq_comm]

theorem run_bind_ok {x : Tx σ ε β} {f : β → Tx σ ε α} :
    (x >>= f).run s = .ok (a, s') ↔
      ∃ b s₁, x.run s = .ok (b, s₁) ∧ (f b).run s₁ = .ok (a, s') := by
  cases hx : x.run s with
  | error e => simp [run_bind_of_error hx]
  | ok p =>
    obtain ⟨b, s₁⟩ := p
    simp [run_bind_of_ok hx]

/-- A committed guard followed by a committed rest. -/
theorem run_require_bind_ok {c : Prop} [Decidable c] {e : ε} {g : PUnit → Tx σ ε α} :
    (require c e >>= g).run s = .ok (a, s') ↔ c ∧ (g ⟨⟩).run s = .ok (a, s') := by
  rw [run_require_bind]
  split <;> simp [*]

theorem run_expect_bind_ok {o : Option β} {e : ε} {g : β → Tx σ ε α} :
    (expect o e >>= g).run s = .ok (a, s') ↔ ∃ b, o = some b ∧ (g b).run s = .ok (a, s') := by
  rw [run_expect_bind]
  cases o <;> simp

theorem run_require_ok {c : Prop} [Decidable c] {e : ε} {w : PUnit} :
    (require c e : Tx σ ε PUnit).run s = .ok (w, s') ↔ c ∧ s' = s := by
  rw [require]
  split <;> simp [*, eq_comm]

theorem run_expect_ok {o : Option α} {e : ε} :
    (expect o e : Tx σ ε α).run s = .ok (a, s') ↔ o = some a ∧ s' = s := by
  cases o <;> simp [expect, eq_comm]

theorem run_ofExcept_ok {x : Except ε α} :
    (ofExcept x : Tx σ ε α).run s = .ok (a, s') ↔ x = .ok a ∧ s' = s := by
  cases x <;> simp [ofExcept, run, Except.map, eq_comm]

/-! ### Loops -/

section Loop

variable {ι : Type u} {f : ι → Tx σ ε PUnit} {w : PUnit}

/-- A committed loop is a committed first round followed by a committed rest. -/
theorem run_forM_cons_ok {x : ι} {l : List ι} :
    (forM (x :: l) f).run s = .ok (w, s') ↔
      ∃ s₁, (f x).run s = .ok (⟨⟩, s₁) ∧ (forM l f).run s₁ = .ok (w, s') := by
  rw [List.forM_cons, run_bind_ok]
  exact ⟨fun ⟨_, s₁, h⟩ => ⟨s₁, h⟩, fun ⟨s₁, h⟩ => ⟨⟨⟩, s₁, h⟩⟩

/-- A loop whose rounds cannot fail folds their writes. -/
theorem run_forM_eq {g : ι → σ → σ} (h : ∀ x s, (f x).run s = .ok (⟨⟩, g x s)) (l : List ι) (s : σ) :
    (forM l f).run s = .ok (⟨⟩, l.foldl (fun s x => g x s) s) := by
  induction l generalizing s with
  | nil => rfl
  | cons x l ih => rw [List.forM_cons, run_bind_of_ok (h x s), ih, List.foldl_cons]

end Loop

/-! ### What a transaction leaves behind -/

theorem exec_of_ok {x : Tx σ ε α} (h : x.run s = .ok (a, s')) : x.exec s = s' := by
  rw [exec, h]

theorem exec_of_error {x : Tx σ ε α} {e : ε} (h : x.run s = .error e) : x.exec s = s := by
  rw [exec, h]

/-- A transaction that commits, with a value that passes a test, leaves its committed store
behind. -/
theorem exists_run_ok {x : Tx σ ε α} (p : α → Bool)
    (h : ((x.run s).toOption.any fun r => p r.1) = true) :
    ∃ a, p a = true ∧ x.run s = .ok (a, x.exec s) := by
  cases hx : x.run s with
  | error e =>
    rw [hx] at h
    exact absurd h (by simp [Except.toOption])
  | ok r =>
    obtain ⟨a, s'⟩ := r
    rw [hx] at h
    rw [exec_of_ok hx]
    exact ⟨a, by simpa [Except.toOption] using h, rfl⟩

@[simp] theorem exec_query {f : σ → α} : (query f : Tx σ ε α).exec s = s := rfl

@[simp] theorem exec_require {c : Prop} [Decidable c] {e : ε} :
    (require c e : Tx σ ε PUnit).exec s = s := by
  rw [require]
  split <;> rfl

@[simp] theorem exec_expect {o : Option α} {e : ε} : (expect o e : Tx σ ε α).exec s = s := by
  cases o <;> rfl

@[simp] theorem exec_ofExcept {x : Except ε α} : (ofExcept x : Tx σ ε α).exec s = s := by
  cases x <;> rfl

@[simp] theorem exec_fail {e : ε} : (fail e : Tx σ ε α).exec s = s := rfl

/-- A property of stores that every committed run keeps is kept by `exec`. -/
theorem exec_induction {x : Tx σ ε α} {P : σ → Prop} (hs : P s)
    (hok : ∀ a s', x.run s = .ok (a, s') → P s') : P (x.exec s) := by
  cases hx : x.run s with
  | error e => rwa [exec_of_error hx]
  | ok p =>
    obtain ⟨a, s'⟩ := p
    rw [exec_of_ok hx]
    exact hok a s' hx

end Tx

end Relational
