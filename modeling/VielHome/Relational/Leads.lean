import VielHome.Relational.ReadCommitted

/-!
# What a program leads to when it runs alone

`p.Leads Q E c w` says what is left of a program that runs alone on the committed store `c`
and the working store `w`: a value and two stores that satisfy `Q`, or, after an error, a
committed store that satisfies `E`. There is one rule for each kind of statement, in front
of the rest of the program, and one for a program after another. `exec_of_leads` turns a
property of the committed store that is led to either way into one of the store a call
leaves.
-/

namespace Relational.ReadCommitted.Prog

variable {σ ρ ε α β : Type}

/-- The outcome satisfies `Q`, or the store after an error satisfies `E`. -/
def Leads (p : Prog σ ρ ε α) (Q : α → σ → σ → Prop) (E : σ → Prop) (c w : σ) : Prop :=
  match p.solo c w with
  | (.ok a, c', w') => Q a c' w'
  | (.error _, c', _) => E c'

theorem exec_of_leads {p : Prog σ ρ ε α} {P : σ → Prop} {s : σ}
    (h : p.Leads (fun _ c _ => P c) P s s) : P (p.exec s) := by
  rw [exec]
  unfold Leads at h
  rcases hsolo : p.solo s s with ⟨a | e, c, w⟩
  all_goals
    rw [hsolo] at h
    exact h

namespace Leads

variable {Q : β → σ → σ → Prop} {E : σ → Prop} {c w : σ}

theorem done {a : α} {R : α → σ → σ → Prop} (h : R a c w) :
    (Prog.done a : Prog σ ρ ε α).Leads R E c w := h

theorem fail {e : ε} (h : E c) : (Prog.fail e : Prog σ ρ ε β).Leads Q E c w := h

theorem of_solo {p : Prog σ ρ ε α} {R : α → σ → σ → Prop} {a : α} {c' w' : σ}
    (h : p.solo c w = (.ok a, c', w')) (hR : R a c' w') : p.Leads R E c w := by
  unfold Leads
  rw [h]
  exact hR

theorem mono {p : Prog σ ρ ε α} {R R' : α → σ → σ → Prop} {F : σ → Prop} (h : p.Leads R E c w)
    (hR : ∀ a c w, R a c w → R' a c w) (hE : ∀ c, E c → F c) : p.Leads R' F c w := by
  unfold Leads at *
  rcases hsolo : p.solo c w with ⟨e | a, c', w'⟩
  all_goals rw [hsolo] at h
  · exact hE c' h
  · exact hR a c' w' h

/-- One program after another. -/
theorem bind {p : Prog σ ρ ε α} {f : α → Prog σ ρ ε β}
    (h : p.Leads (fun a c' w' => (f a).Leads Q E c' w') E c w) : (p >>= f).Leads Q E c w := by
  unfold Leads at *
  rw [solo_bind]
  rcases hsolo : p.solo c w with ⟨e | a, c', w'⟩
  all_goals
    rw [hsolo] at h
    exact h

theorem query {q : σ → α} {f : α → Prog σ ρ ε β} (h : (f (q w)).Leads Q E c w) :
    (Prog.query q >>= f : Prog σ ρ ε β).Leads Q E c w := h

theorem queryUnder {locks : σ → List (ρ × Mode)} {q : σ → α} {f : α → Prog σ ρ ε β}
    (h : (f (q w)).Leads Q E c w) : (Prog.queryUnder locks q >>= f : Prog σ ρ ε β).Leads Q E c w :=
  h

theorem write {locks : List (ρ × Mode)} {g : σ → σ} {f : PUnit → Prog σ ρ ε β}
    (h : (f ⟨⟩).Leads Q E c (g w)) : (Prog.write locks g >>= f : Prog σ ρ ε β).Leads Q E c w := h

theorem writeIf {locks : List (ρ × Mode)} {ok : σ → Bool} {e : ε} {g : σ → σ}
    {f : PUnit → Prog σ ρ ε β} (hE : E c) (h : ok w = true → (f ⟨⟩).Leads Q E c (g w)) :
    (Prog.writeIf locks ok e g >>= f : Prog σ ρ ε β).Leads Q E c w := by
  rw [writeIf_bind]
  change (if ok w = true then f ⟨⟩ else Prog.fail e).Leads Q E c (g w)
  split
  case isTrue hok => exact h hok
  case isFalse => exact hE

theorem writeUnless {locks : List (ρ × Mode)} {refused : σ → Option ε} {g : σ → σ}
    {f : PUnit → Prog σ ρ ε β} (hE : E c) (h : refused w = none → (f ⟨⟩).Leads Q E c (g w)) :
    (Prog.writeUnless locks refused g >>= f : Prog σ ρ ε β).Leads Q E c w := by
  unfold Leads at *
  rw [solo_writeUnless_bind]
  cases hrefused : refused w with
  | none => exact h hrefused
  | some e => exact hE

theorem insertIfAbsent {lock : ρ} {absent : σ → Bool} {refused : σ → Option ε} {g : σ → σ}
    {f : PUnit → Prog σ ρ ε β} (hE : E c)
    (h : (absent w = true → refused w = none) →
      (f ⟨⟩).Leads Q E c (if absent w then g w else w)) :
    (Prog.insertIfAbsent lock absent refused g >>= f : Prog σ ρ ε β).Leads Q E c w := by
  rw [insertIfAbsent_bind]
  unfold Leads at *
  rw [solo_stmt]
  by_cases habsent : absent w = true
  · simp only [if_pos habsent] at h ⊢
    cases hrefused : refused w with
    | none => exact h fun _ => hrefused
    | some e => exact hE
  · simp only [if_neg habsent] at h ⊢
    exact h fun hw => absurd hw habsent

theorem require {P : Prop} [Decidable P] {e : ε} {f : PUnit → Prog σ ρ ε β} (hE : E c)
    (h : P → (f ⟨⟩).Leads Q E c w) : (Prog.require P e >>= f : Prog σ ρ ε β).Leads Q E c w := by
  rw [require_bind]
  split
  case isTrue hP => exact h hP
  case isFalse => exact hE

theorem expect {o : Option α} {e : ε} {f : α → Prog σ ρ ε β} (hE : E c)
    (h : ∀ a, o = some a → (f a).Leads Q E c w) :
    (Prog.expect o e >>= f : Prog σ ρ ε β).Leads Q E c w := by
  cases o with
  | none => exact hE
  | some a => exact h a rfl

theorem claim [DecidableEq ρ] {lock : ρ} {matched : σ → Bool} {e : ε} {g : σ → σ}
    {f : PUnit → Prog σ ρ ε β} (hE : E c) (h : matched w = true → (f ⟨⟩).Leads Q E c (g w)) :
    (Prog.claim lock matched e g >>= f : Prog σ ρ ε β).Leads Q E c w := by
  rw [Prog.claim, bind_assoc]
  refine query ?_
  rw [bind_assoc]
  exact require hE fun _ => writeIf hE h

/-- The writes of the open transaction are committed. -/
theorem commitAll {f : PUnit → Prog σ ρ ε β} (h : (f ⟨⟩).Leads Q E w w) :
    (Prog.commitAll >>= f : Prog σ ρ ε β).Leads Q E c w := h

/-- An error is caught after the open transaction was rolled back. -/
theorem tryCatch {p : Prog σ ρ ε β} {handler : ε → Prog σ ρ ε β} {F : σ → Prop}
    (h : p.Leads Q F c w) (hhandler : ∀ e c, F c → (handler e).Leads Q E c c) :
    (p.tryCatch handler).Leads Q E c w := by
  induction p generalizing c w with
  | done a => exact h
  | fail e => exact hhandler e c h
  | stmt locks effect next ih => exact ih _ h
  | commit keep next ih => exact ih h
  | rollback next ih => exact ih h

/-- A loop whose turns commit what they do: every turn keeps the invariant about what is left. -/
theorem forEach {I : List β → σ → Prop} {f : β → Prog σ ρ ε PUnit}
    (hturn : ∀ b bs c, I (b :: bs) c → (f b).Leads (fun _ c' w' => c' = w' ∧ I bs c') E c c)
    {bs : List β} (h : I bs c) : (Prog.forEach bs f).Leads (fun _ c' _ => I [] c') E c c := by
  induction bs generalizing c with
  | nil => exact h
  | cons b bs ih =>
    rw [forEach_cons]
    refine bind ((hturn b bs c h).mono ?_ fun _ hE => hE)
    rintro _ c' _ ⟨rfl, hI⟩
    exact ih hI

end Leads

end Relational.ReadCommitted.Prog
