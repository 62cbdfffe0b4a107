import VielHome.Relational.Transaction

/-!
# Scripts of transactions

A service call runs several transactions one after another. Each of them commits or leaves
no trace, but a failure ends the call without undoing what earlier transactions committed:
a `Script` returns a value or an error, and a store in either case. `atomically` runs one
transaction as a step of a script.

A script that succeeds has run each of its transactions to a commit (`run_bind_ok`,
`run_atomically_ok`), and a property of the store that every transaction keeps is kept by
the script whether or not it succeeds (`Keeps`).
-/

namespace Relational

universe u v

/-- A sequence of transactions: a value or an error, and the store either way. -/
def Script (σ : Type u) (ε : Type v) (α : Type u) : Type (max u v) := σ → Except ε α × σ

namespace Script

variable {σ : Type u} {ε : Type v} {α β : Type u}

/-- Run a script on a store. -/
def run (x : Script σ ε α) (s : σ) : Except ε α × σ := x s

instance : Monad (Script σ ε) where
  pure a := fun s => (.ok a, s)
  bind x f := fun s =>
    match x s with
    | (.ok a, s') => f a s'
    | (.error e, s') => (.error e, s')

/-- Run one transaction. -/
def atomically (x : Tx σ ε α) : Script σ ε α := fun s =>
  match x.run s with
  | .ok (a, s') => (.ok a, s')
  | .error e => (.error e, s)

instance : MonadLift (Tx σ ε) (Script σ ε) := ⟨atomically⟩

/-- A read of its own. -/
abbrev query (f : σ → α) : Script σ ε α := atomically (Tx.query f)

/-- Stop with `e` unless `c` holds. -/
abbrev require (c : Prop) [Decidable c] (e : ε) : Script σ ε PUnit := atomically (Tx.require c e)

/-- The value of an optional read, or stop with `e`. -/
abbrev expect (o : Option α) (e : ε) : Script σ ε α := atomically (Tx.expect o e)

/-- A check or a computation that does not touch the store. -/
abbrev ofExcept (x : Except ε α) : Script σ ε α := atomically (Tx.ofExcept x)

/-- Stop with `e`. -/
abbrev fail (e : ε) : Script σ ε α := atomically (Tx.fail e)

/-- Run a script; when it stops with an error, go on with what `h` makes of the error. -/
def tryCatch (x : Script σ ε α) (h : ε → Script σ ε α) : Script σ ε α := fun s =>
  match x.run s with
  | (.ok a, s') => (.ok a, s')
  | (.error e, s') => (h e).run s'

variable {s s' : σ} {a : α}

theorem run_pure_ok {b : α} :
    (pure b : Script σ ε α).run s = (.ok a, s') ↔ a = b ∧ s' = s := by
  simp [run, pure, eq_comm]

theorem run_bind_ok {x : Script σ ε β} {f : β → Script σ ε α} :
    (x >>= f).run s = (.ok a, s') ↔
      ∃ b s₁, x.run s = (.ok b, s₁) ∧ (f b).run s₁ = (.ok a, s') := by
  simp only [run, bind]
  rcases x s with ⟨e | b, s₁⟩ <;> simp

theorem run_bind_of_ok {x : Script σ ε β} {f : β → Script σ ε α} {b : β} {s₁ : σ}
    (h : x.run s = (.ok b, s₁)) : (x >>= f).run s = (f b).run s₁ := by
  simp only [run] at h
  simp only [run, bind, h]

theorem run_atomically_ok {x : Tx σ ε α} :
    (atomically x).run s = (.ok a, s') ↔ x.run s = .ok (a, s') := by
  simp only [run, atomically]
  cases Tx.run x s <;> simp [Prod.ext_iff]

/-- A transaction used as a step of a script. -/
theorem run_liftM_ok {x : Tx σ ε α} :
    (liftM x : Script σ ε α).run s = (.ok a, s') ↔ x.run s = .ok (a, s') :=
  run_atomically_ok

/-- A run that ends with a value and a store that pass a test. -/
theorem exists_run_ok {x : Script σ ε α} (p : α → σ → Bool)
    (h : ((x.run s).1.toOption.any fun a => p a (x.run s).2) = true) :
    ∃ a s', x.run s = (.ok a, s') ∧ p a s' = true := by
  rcases hx : x.run s with ⟨e | a, s'⟩
  · rw [hx] at h
    exact absurd h (by simp [Except.toOption])
  · rw [hx] at h
    exact ⟨a, s', rfl, by simpa [Except.toOption] using h⟩

/-- A transaction that commits needs no recovery. -/
theorem run_tryCatch_of_ok {x : Tx σ ε α} {h : ε → Script σ ε α} (hx : x.run s = .ok (a, s')) :
    ((atomically x).tryCatch h).run s = (.ok a, s') := by
  rw [run, tryCatch, run_atomically_ok.mpr hx]

/-- A transaction that fails leaves the recovery to the store it found. -/
theorem run_tryCatch_of_error {x : Tx σ ε α} {h : ε → Script σ ε α} {e : ε}
    (hx : x.run s = .error e) : ((atomically x).tryCatch h).run s = (h e).run s := by
  have hrun : (atomically x).run s = (.error e, s) := by rw [run, atomically, hx]
  rw [run, tryCatch, hrun]

/-- The script keeps `P`, whether it succeeds or fails. -/
def Keeps (P : σ → Prop) (x : Script σ ε α) : Prop := ∀ s, P s → P (x.run s).2

variable {P : σ → Prop}

theorem Keeps.pure (b : α) : Keeps P (pure b : Script σ ε α) := fun _ hs => hs

theorem Keeps.bind {x : Script σ ε β} {f : β → Script σ ε α} (hx : Keeps P x)
    (hf : ∀ b, Keeps P (f b)) : Keeps P (x >>= f) := by
  intro s hs
  have h := hx s hs
  simp only [run, Bind.bind] at h ⊢
  rcases hrun : x s with ⟨e | b, s₁⟩ <;> rw [hrun] at h
  · exact h
  · exact hf b s₁ h

theorem Keeps.atomically {x : Tx σ ε α} (hx : ∀ s, P s → P (x.exec s)) :
    Keeps P (atomically x) := by
  intro s hs
  have h := hx s hs
  simp only [run, Script.atomically, Tx.exec] at h ⊢
  cases hrun : Tx.run x s <;> rw [hrun] at h <;> exact h

/-- A transaction that only reads keeps everything. -/
theorem Keeps.of_reads {x : Tx σ ε α} (hx : ∀ s a s', x.run s = .ok (a, s') → s' = s) :
    Keeps P (Script.atomically x) :=
  Keeps.atomically fun s hs => Tx.exec_induction hs fun a s' hrun => by rwa [hx s a s' hrun]

theorem Keeps.query {f : σ → α} : Keeps P (Script.query f : Script σ ε α) :=
  Keeps.of_reads fun _ _ _ h => (Prod.mk.inj (Except.ok.inj h)).2.symm

theorem Keeps.require {c : Prop} [Decidable c] {e : ε} : Keeps P (Script.require c e : Script σ ε PUnit) :=
  Keeps.of_reads fun _ _ _ h => (Tx.run_require_ok.mp h).2

theorem Keeps.expect {o : Option α} {e : ε} : Keeps P (Script.expect o e : Script σ ε α) :=
  Keeps.of_reads fun _ _ _ h => (Tx.run_expect_ok.mp h).2

theorem Keeps.ofExcept {x : Except ε α} : Keeps P (Script.ofExcept x : Script σ ε α) :=
  Keeps.of_reads fun _ _ _ h => (Tx.run_ofExcept_ok.mp h).2

end Script

end Relational
