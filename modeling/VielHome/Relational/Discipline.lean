import Mathlib.Logic.Relation
import VielHome.Relational.ReadCommitted

/-!
# What sessions may rely on

`Prog.Safe` is the proof rule for programs that run under READ COMMITTED: what a session
read under a lock stays true until it gives the lock back, since every commit keeps what
the locks its session does not hold protect. A `Discipline` says what that is, and which
invariant the commits keep. There is one rule for each kind of statement, and one for a
program after another. `safe_run` says that programs proved with the rules keep their
invariant in every orderly run, and in every run when all their locks are enforced.
-/

namespace Relational.ReadCommitted

variable {ι σ ρ ε α β : Type}

/-- What is proved about a set of programs: an invariant of the committed store, what one
commit may do to it, which locks are kept, and what each of them protects: two stores are
the `same` for a lock when they agree on all that its holder may rely on. A commit of
`anyone` is one of these, unless more is said about the programs at hand than about those
that run beside them. -/
structure Discipline (σ ρ : Type) where
  inv : σ → Prop
  commits : σ → σ → Prop
  kept : ρ → Bool
  same : ρ → Mode → σ → σ → Prop
  same_refl : ∀ l m s, same l m s s
  same_trans : ∀ l m s₁ s₂ s₃, same l m s₁ s₂ → same l m s₂ s₃ → same l m s₁ s₃
  anyone : σ → σ → Prop := commits
  commits_anyone : ∀ s s', commits s s' → anyone s s' := by exact fun _ _ h => h

namespace Discipline

variable (D : Discipline σ ρ)

/-- The committed store can have become the second one. -/
def Later : σ → σ → Prop := Relation.ReflTransGen D.anyone

/-- What the locks of a session, each noted with the store it was taken in, still say. -/
def Knows (notes : List (ρ × Mode × σ)) (s : σ) : Prop :=
  ∀ n ∈ notes, D.same n.1 n.2.1 n.2.2 s

/-- The discipline of a program whose commits are its `own`, beside programs that keep to `D`. -/
def owning (own : σ → σ → Prop) (hown : ∀ s s', own s s' → D.anyone s s') : Discipline σ ρ :=
  { D with
    commits := own
    commits_anyone := hown }

/-- The discipline that asks for nothing. -/
def top (σ ρ : Type) : Discipline σ ρ where
  inv _ := True
  commits _ _ := True
  kept _ := true
  same _ _ _ _ := True
  same_refl _ _ _ := trivial
  same_trans _ _ _ _ _ _ _ := trivial

/-- Without notes there is nothing to know. -/
@[simp] theorem knows_nil {s : σ} : D.Knows [] s := by simp [Knows]

/-- What is known is known of each note. -/
@[simp] theorem knows_cons {n : ρ × Mode × σ} {notes : List (ρ × Mode × σ)} {s : σ} :
    D.Knows (n :: notes) s ↔ D.same n.1 n.2.1 n.2.2 s ∧ D.Knows notes s := by simp [Knows]

variable {D}

/-- Every store comes from itself. -/
theorem Later.refl (s : σ) : D.Later s s := Relation.ReflTransGen.refl

/-- One more commit. -/
theorem Later.next {s s' t : σ} (h : D.Later s s') (ht : D.commits s' t) : D.Later s t :=
  Relation.ReflTransGen.tail h (D.commits_anyone _ _ ht)

/-- What every commit keeps is still so later. -/
theorem Later.keeps {P : σ → Prop} (hP : ∀ s s', D.anyone s s' → P s → P s') {s s' : σ}
    (h : D.Later s s') (hs : P s) : P s' := by
  induction h with
  | refl => exact hs
  | tail _ hlast ih => exact hP _ _ hlast ih

end Discipline

/-- What a session notes down when it takes locks. -/
def Discipline.taken (D : Discipline σ ρ) (locks : List (ρ × Mode)) (s : σ) :
    List (ρ × Mode × σ) :=
  (locks.filter fun l => D.kept l.1).map fun l => (l.1, l.2, s)

/-- Without locks nothing is noted. -/
@[simp] theorem Discipline.taken_nil (D : Discipline σ ρ) {s : σ} : D.taken [] s = [] := rfl

/-- A lock that is kept is noted with the store. -/
theorem Discipline.mem_taken {D : Discipline σ ρ} {locks : List (ρ × Mode)} {s : σ} {l : ρ}
    {m : Mode} (hl : (l, m) ∈ locks) (hkept : D.kept l = true) : (l, m, s) ∈ D.taken locks s :=
  List.mem_map.mpr ⟨(l, m), List.mem_filter.mpr ⟨hl, hkept⟩, rfl⟩

/-- Another session may hold the lock in this way. -/
def Free (notes : List (ρ × Mode × σ)) (l : ρ) (m : Mode) : Prop :=
  ∀ n ∈ notes, n.1 = l → n.2.1.compatible m = true

/-- What is locked exclusively is not free. -/
theorem not_free_of_exclusive {notes : List (ρ × Mode × σ)} {l : ρ} {m : Mode} {s : σ}
    (h : (l, .exclusive, s) ∈ notes) : ¬ Free notes l m := fun hfree => by
  have hcompatible := hfree _ h rfl
  cases m <;> simp [Mode.compatible] at hcompatible

section Rules

variable [DecidableEq ρ]

/-- The program keeps the discipline, begun with the store `last` behind it, under the
locks of `notes` and with the writes of `pending`, and leaves `post` behind when it is
done. A statement may use what its locks protect; a commit must keep the invariant, and
keep the same all that another session may hold a lock for. -/
def Prog.Safe (D : Discipline σ ρ) (post : α → σ → List (ρ × Mode × σ) → (σ → σ) → Prop) :
    σ → List (ρ × Mode × σ) → (σ → σ) → Prog σ ρ ε α → Prop
  | last, notes, pending, .done a => post a last notes pending
  | _, _, _, .fail _ => True
  | last, notes, pending, .stmt locks effect next =>
    ∀ s, D.inv s → D.Later last s → D.Knows notes s →
      (next (pending s)).Safe D post s (notes ++ D.taken (locks (pending s)) s)
        fun s => effect (pending s)
  | last, notes, pending, .commit keep next =>
    ∀ s, D.inv s → D.Later last s → D.Knows notes s →
      D.inv (pending s) ∧ D.commits s (pending s) ∧
      (∀ l m, Free notes l m → D.same l m s (pending s)) ∧
      (∀ n ∈ notes, n.1 ∈ keep → D.same n.1 n.2.1 s (pending s)) ∧
      next.Safe D post (pending s) (notes.filter fun n => n.1 ∈ keep) id
  | last, _, _, .rollback next => next.Safe D post last [] id

namespace Prog

/-- A program that writes nothing and takes no lock. -/
def ReadOnly : Prog σ ρ ε α → Prop
  | .done _ => True
  | .fail _ => True
  | .stmt locks effect next => (∀ v, locks v = []) ∧ effect = id ∧ ∀ v, (next v).ReadOnly
  | .commit _ _ => False
  | .rollback _ => False

namespace ReadOnly

omit [DecidableEq ρ] in
/-- A query writes nothing. -/
theorem query (q : σ → α) : (Prog.query q : Prog σ ρ ε α).ReadOnly :=
  ⟨fun _ => rfl, rfl, fun _ => trivial⟩

omit [DecidableEq ρ] in
/-- A check writes nothing. -/
theorem require (c : Prop) [Decidable c] (e : ε) : (Prog.require c e : Prog σ ρ ε PUnit).ReadOnly := by
  rw [Prog.require]
  split <;> trivial

omit [DecidableEq ρ] in
/-- A row that has to be there is looked for without a write. -/
theorem expect (o : Option α) (e : ε) : (Prog.expect o e : Prog σ ρ ε α).ReadOnly := by
  cases o <;> trivial

omit [DecidableEq ρ] in
/-- A program after another. -/
theorem bind {p : Prog σ ρ ε α} {f : α → Prog σ ρ ε β} (h : p.ReadOnly) (hf : ∀ a, (f a).ReadOnly) :
    (p >>= f).ReadOnly := by
  induction p with
  | done a => exact hf a
  | fail e => trivial
  | stmt locks effect next ih => exact ⟨h.1, h.2.1, fun v => ih v (h.2.2 v)⟩
  | commit keep next ih => exact h.elim
  | rollback next ih => exact h.elim

omit [DecidableEq ρ] in
/-- A branch. -/
theorem ite {c : Prop} [Decidable c] {p q : Prog σ ρ ε α} (hp : p.ReadOnly) (hq : q.ReadOnly) :
    (if c then p else q).ReadOnly := by
  split
  · exact hp
  · exact hq

omit [DecidableEq ρ] in
/-- A loop. -/
theorem forEach {bs : List β} {f : β → Prog σ ρ ε PUnit} (h : ∀ b, (f b).ReadOnly) :
    (Prog.forEach bs f).ReadOnly := by
  induction bs with
  | nil => trivial
  | cons b bs ih => exact (h b).bind fun _ => ih

end ReadOnly

end Prog

namespace Prog.Safe

variable {D : Discipline σ ρ} {post : α → σ → List (ρ × Mode × σ) → (σ → σ) → Prop}
  {post' : β → σ → List (ρ × Mode × σ) → (σ → σ) → Prop} {last : σ}
  {notes : List (ρ × Mode × σ)} {pending : σ → σ}

/-- A program that leaves no lock and no write behind. -/
def Clean (_ : α) (_ : σ) (notes : List (ρ × Mode × σ)) (pending : σ → σ) : Prop :=
  notes = [] ∧ pending = id

/-- The postcondition may be weaker. -/
theorem mono {p : Prog σ ρ ε α} {post₂ : α → σ → List (ρ × Mode × σ) → (σ → σ) → Prop}
    (h : p.Safe D post last notes pending)
    (hpost : ∀ a last notes pending, post a last notes pending → post₂ a last notes pending) :
    p.Safe D post₂ last notes pending := by
  induction p generalizing last notes pending with
  | done a => exact hpost _ _ _ _ h
  | fail e => trivial
  | stmt locks effect next ih => exact fun s hs hlast hknows => ih _ (h s hs hlast hknows)
  | commit keep next ih =>
    intro s hs hlast hknows
    obtain ⟨hinv, hcommits, hsame, hkeep, hnext⟩ := h s hs hlast hknows
    exact ⟨hinv, hcommits, hsame, hkeep, ih hnext⟩
  | rollback next ih => exact ih h

/-- One program after another. -/
theorem bind {p : Prog σ ρ ε α} {f : α → Prog σ ρ ε β} (h : p.Safe D post last notes pending)
    (hf : ∀ a last notes pending, post a last notes pending →
      (f a).Safe D post' last notes pending) :
    (p >>= f).Safe D post' last notes pending := by
  induction p generalizing last notes pending with
  | done a => exact hf _ _ _ _ h
  | fail e => trivial
  | stmt locks effect next ih => exact fun s hs hlast hknows => ih _ (h s hs hlast hknows)
  | commit keep next ih =>
    intro s hs hlast hknows
    obtain ⟨hinv, hcommits, hsame, hkeep, hnext⟩ := h s hs hlast hknows
    exact ⟨hinv, hcommits, hsame, hkeep, ih hnext⟩
  | rollback next ih => exact ih h

/-- A program after one that leaves nothing behind. -/
theorem bind_clean {p : Prog σ ρ ε α} {f : α → Prog σ ρ ε β}
    (h : p.Safe D Clean last notes pending) (hf : ∀ a last, (f a).Safe D post' last [] id) :
    (p >>= f).Safe D post' last notes pending := by
  refine h.bind fun a last notes pending hclean => ?_
  obtain ⟨rfl, rfl⟩ := hclean
  exact hf a last

/-- An error is caught after the open transaction was rolled back. -/
theorem tryCatch {p : Prog σ ρ ε α} {handler : ε → Prog σ ρ ε α}
    (h : p.Safe D post last notes pending)
    (hhandler : ∀ e last, (handler e).Safe D post last [] id) :
    (p.tryCatch handler).Safe D post last notes pending := by
  induction p generalizing last notes pending with
  | done a => exact h
  | fail e => exact hhandler e last
  | stmt locks effect next ih => exact fun s hs hlast hknows => ih _ (h s hs hlast hknows)
  | commit keep next ih =>
    intro s hs hlast hknows
    obtain ⟨hinv, hcommits, hsame, hkeep, hnext⟩ := h s hs hlast hknows
    exact ⟨hinv, hcommits, hsame, hkeep, ih hnext⟩
  | rollback next ih => exact ih h

/-- A loop whose body leaves nothing behind. -/
theorem forEach {bs : List β} {f : β → Prog σ ρ ε PUnit}
    (h : ∀ b ∈ bs, ∀ last, (f b).Safe D Clean last [] id) (last : σ) :
    (Prog.forEach bs f).Safe D Clean last [] id := by
  induction bs generalizing last with
  | nil => exact ⟨rfl, rfl⟩
  | cons b bs ih =>
    exact (h b List.mem_cons_self last).bind_clean fun _ =>
      ih fun b' hb' => h b' (List.mem_cons_of_mem _ hb')

/-- What a program reads does not matter to one that relies on nothing of it. -/
theorem readOnly {p : Prog σ ρ ε α} {f : α → Prog σ ρ ε β} (hp : p.ReadOnly)
    (h : ∀ a last', D.Later last last' → (f a).Safe D post' last' notes pending) :
    (p >>= f).Safe D post' last notes pending := by
  induction p generalizing last with
  | done a => exact h a last (.refl last)
  | fail e => trivial
  | stmt locks effect next ih =>
    obtain ⟨hlocks, rfl, hnext⟩ := hp
    intro s _ hlast _
    have hnotes : notes ++ D.taken (locks (pending s)) s = notes := by
      rw [hlocks, D.taken_nil, List.append_nil]
    rw [hnotes]
    exact ih _ (hnext _) fun a last' hlater => h a last' (hlast.trans hlater)
  | commit keep next ih => exact hp.elim
  | rollback next ih => exact hp.elim

/-! ### One rule for each statement -/

/-- A query: what is known is true of the store that it reads. -/
theorem query {q : σ → α} {f : α → Prog σ ρ ε β}
    (h : ∀ s, D.inv s → D.Later last s → D.Knows notes s →
      (f (q (pending s))).Safe D post' s notes pending) :
    (Prog.query q >>= f : Prog σ ρ ε β).Safe D post' last notes pending := by
  intro s hs hlast hknows
  have hnotes : notes ++ D.taken [] s = notes := List.append_nil notes
  rw [hnotes]
  exact h s hs hlast hknows

/-- A query that takes locks notes the store. -/
theorem queryUnder {locks : σ → List (ρ × Mode)} {q : σ → α} {f : α → Prog σ ρ ε β}
    (h : ∀ s, D.inv s → D.Later last s → D.Knows notes s →
      (f (q (pending s))).Safe D post' s (notes ++ D.taken (locks (pending s)) s) pending) :
    (Prog.queryUnder locks q >>= f : Prog σ ρ ε β).Safe D post' last notes pending := h

/-- A write is pending from then on. -/
theorem write {locks : List (ρ × Mode)} {w : σ → σ} {f : PUnit → Prog σ ρ ε β}
    (h : ∀ s, D.inv s → D.Later last s → D.Knows notes s →
      (f ⟨⟩).Safe D post' s (notes ++ D.taken locks s) fun s => w (pending s)) :
    (Prog.write locks w >>= f : Prog σ ρ ε β).Safe D post' last notes pending := h

/-- A write that fails unless a condition holds. -/
theorem writeIf {locks : List (ρ × Mode)} {ok : σ → Bool} {e : ε} {w : σ → σ}
    {f : PUnit → Prog σ ρ ε β}
    (h : ∀ s, D.inv s → D.Later last s → D.Knows notes s → ok (pending s) = true →
      (f ⟨⟩).Safe D post' s (notes ++ D.taken locks s) fun s => w (pending s)) :
    (Prog.writeIf locks ok e w >>= f : Prog σ ρ ε β).Safe D post' last notes pending := by
  rw [Prog.writeIf_bind]
  intro s hs hlast hknows
  dsimp only
  split
  case isTrue hok => exact h s hs hlast hknows hok
  case isFalse => trivial

/-- A write that a constraint may refuse. -/
theorem writeUnless {locks : List (ρ × Mode)} {refused : σ → Option ε} {w : σ → σ}
    {f : PUnit → Prog σ ρ ε β}
    (h : ∀ s, D.inv s → D.Later last s → D.Knows notes s → refused (pending s) = none →
      (f ⟨⟩).Safe D post' s (notes ++ D.taken locks s) fun s => w (pending s)) :
    (Prog.writeUnless locks refused w >>= f : Prog σ ρ ε β).Safe D post' last notes pending := by
  rw [Prog.writeUnless_bind]
  intro s hs hlast hknows
  dsimp only
  split
  case h_1 hnone => exact h s hs hlast hknows hnone
  case h_2 => trivial

/-- An insertion where there is no row yet. -/
theorem insertIfAbsent {lock : ρ} {absent : σ → Bool} {refused : σ → Option ε} {w : σ → σ}
    {f : PUnit → Prog σ ρ ε β}
    (h : ∀ s, D.inv s → D.Later last s → D.Knows notes s → ∀ taken,
      (f ⟨⟩).Safe D post' s (notes ++ taken)
        fun s => if absent (pending s) then w (pending s) else pending s) :
    (Prog.insertIfAbsent lock absent refused w >>= f : Prog σ ρ ε β).Safe D post' last notes
      pending := by
  rw [Prog.insertIfAbsent_bind]
  intro s hs hlast hknows
  dsimp only
  generalize (if absent (pending s) = true then refused (pending s) else none) = outcome
  cases outcome with
  | none => exact h s hs hlast hknows _
  | some e => trivial

/-- What follows a check may rely on it. -/
theorem require {c : Prop} [Decidable c] {e : ε} {f : PUnit → Prog σ ρ ε β}
    (h : c → (f ⟨⟩).Safe D post' last notes pending) :
    (Prog.require c e >>= f : Prog σ ρ ε β).Safe D post' last notes pending := by
  rw [Prog.require_bind]
  split
  case isTrue hc => exact h hc
  case isFalse => trivial

/-- What follows may rely on the row. -/
theorem expect {o : Option α} {e : ε} {f : α → Prog σ ρ ε β}
    (h : ∀ a, o = some a → (f a).Safe D post' last notes pending) :
    (Prog.expect o e >>= f : Prog σ ρ ε β).Safe D post' last notes pending := by
  cases o with
  | none => trivial
  | some a => exact h a rfl

/-- A compare-and-set that has matched. -/
theorem claim {lock : ρ} {matched : σ → Bool} {e : ε} {w : σ → σ} {f : PUnit → Prog σ ρ ε β}
    (h : ∀ s, D.inv s → D.Later last s → D.Knows notes s → matched (pending s) = true →
      (f ⟨⟩).Safe D post' s (notes ++ D.taken [(lock, .exclusive)] s) fun s => w (pending s)) :
    (Prog.claim lock matched e w >>= f : Prog σ ρ ε β).Safe D post' last notes pending := by
  rw [Prog.claim, Prog.bind_assoc]
  refine query fun s₀ _ hlast₀ _ => ?_
  rw [Prog.bind_assoc]
  exact require fun _ => writeIf fun s hs hlast hknows =>
    h s hs (Relation.ReflTransGen.trans hlast₀ hlast) hknows

/-- A row is rewritten when it still matches once it is free; what is known of the rows that are
still to come is carried along. -/
theorem updateEach {bs : List β} {lock : β → ρ} {matched : β → σ → Bool}
    {w : β → σ → σ} {f : PUnit → Prog σ ρ ε α}
    (I : List β → σ → List (ρ × Mode × σ) → (σ → σ) → Prop) (hstart : I bs last notes pending)
    (hlater : ∀ bs last notes pending s, I bs last notes pending → D.Later last s →
      I bs s notes pending)
    (hstep : ∀ b bs last notes pending, I (b :: bs) last notes pending → ∀ s, D.inv s →
      D.Later last s → D.Knows notes s → I bs s (notes ++ D.taken [(lock b, .exclusive)] s)
        (if matched b (pending s) then fun s => w b (pending s) else pending))
    (hf : ∀ last notes pending, I [] last notes pending → (f ⟨⟩).Safe D post last notes pending) :
    (Prog.updateEach bs lock matched w >>= f : Prog σ ρ ε α).Safe D post last notes pending := by
  rw [Prog.updateEach]
  induction bs generalizing last notes pending with
  | nil => exact hf last notes pending hstart
  | cons b bs ih =>
    rw [Prog.forEach_cons, Prog.bind_assoc, Prog.bind_assoc]
    refine queryUnder fun s' hs' hlast' hknows' => ?_
    have hnext := hstep b bs last notes pending hstart s' hs' hlast' hknows'
    rw [Prog.ite_bind]
    split
    case isTrue hmatched =>
      rw [if_pos hmatched] at hnext
      refine write fun s'' _ hlast'' _ => ?_
      have hnotes : ∀ n : List (ρ × Mode × σ), n ++ D.taken [] s'' = n := List.append_nil
      rw [hnotes]
      exact ih (hlater _ _ _ _ s'' hnext hlast'')
    case isFalse hmatched =>
      rw [if_neg hmatched] at hnext
      exact ih hnext

/-- An update of any number of rows, one after the other: what is known of the rows that are
still to come is carried along. -/
theorem updateMany {ids : σ → List β} {lock : β → ρ} {matched : β → σ → Bool} {w : β → σ → σ}
    {f : PUnit → Prog σ ρ ε α}
    (I : List β → σ → List (ρ × Mode × σ) → (σ → σ) → Prop)
    (hstart : ∀ s, D.inv s → D.Later last s → D.Knows notes s → I (ids (pending s)) s notes pending)
    (hlater : ∀ bs last notes pending s, I bs last notes pending → D.Later last s →
      I bs s notes pending)
    (hstep : ∀ b bs last notes pending, I (b :: bs) last notes pending → ∀ s, D.inv s →
      D.Later last s → D.Knows notes s → I bs s (notes ++ D.taken [(lock b, .exclusive)] s)
        (if matched b (pending s) then fun s => w b (pending s) else pending))
    (hf : ∀ last notes pending, I [] last notes pending → (f ⟨⟩).Safe D post last notes pending) :
    (Prog.updateMany ids lock matched w >>= f : Prog σ ρ ε α).Safe D post last notes pending := by
  rw [Prog.updateMany, Prog.bind_assoc]
  exact query fun s hs hlast hknows => updateEach I (hstart s hs hlast hknows) hlater hstep hf

/-- A commit keeps the invariant and what others may rely on, and gives all locks back. -/
theorem commitAll {f : PUnit → Prog σ ρ ε β}
    (h : ∀ s, D.inv s → D.Later last s → D.Knows notes s →
      D.inv (pending s) ∧ D.commits s (pending s) ∧
      (∀ l m, Free notes l m → D.same l m s (pending s)) ∧
      (f ⟨⟩).Safe D post' (pending s) [] id) :
    (Prog.commitAll >>= f : Prog σ ρ ε β).Safe D post' last notes pending := by
  intro s hs hlast hknows
  obtain ⟨hinv, hcommits, hsame, hnext⟩ := h s hs hlast hknows
  refine ⟨hinv, hcommits, hsame, fun n _ hn => absurd hn (by simp), ?_⟩
  have hnotes : notes.filter (fun n => n.1 ∈ ([] : List ρ)) = [] := by simp
  rw [hnotes]
  exact hnext

/-- A commit that keeps some locks keeps what they protect, too. -/
theorem commitKeeping {keep : List ρ} {f : PUnit → Prog σ ρ ε β}
    (h : ∀ s, D.inv s → D.Later last s → D.Knows notes s →
      D.inv (pending s) ∧ D.commits s (pending s) ∧
      (∀ l m, Free notes l m → D.same l m s (pending s)) ∧
      (∀ n ∈ notes, n.1 ∈ keep → D.same n.1 n.2.1 s (pending s)) ∧
      (f ⟨⟩).Safe D post' (pending s) (notes.filter fun n => n.1 ∈ keep) id) :
    (Prog.commitKeeping keep >>= f : Prog σ ρ ε β).Safe D post' last notes pending := h

/-- Alone, a program that keeps the discipline keeps its invariant. -/
theorem inv_solo {p : Prog σ ρ ε α} (h : p.Safe D post last notes pending) {c : σ} (hc : D.inv c)
    (hlast : D.Later last c) (hknows : D.Knows notes c) :
    D.inv (p.solo c (pending c)).2.1 := by
  induction p generalizing last notes pending c with
  | done a => exact hc
  | fail e => exact hc
  | stmt locks effect next ih =>
    refine ih _ (h c hc hlast hknows) hc (.refl c) fun n hn => ?_
    rcases List.mem_append.mp hn with hn | hn
    · exact hknows n hn
    · obtain ⟨l, -, rfl⟩ := List.mem_map.mp hn
      exact D.same_refl _ _ _
  | commit keep next ih =>
    obtain ⟨hinv, -, -, hkeep, hnext⟩ := h c hc hlast hknows
    refine ih hnext hinv (.refl _) fun n hn => ?_
    obtain ⟨hn, hk⟩ := List.mem_filter.mp hn
    exact D.same_trans _ _ _ _ _ (hknows n hn) (hkeep n hn (of_decide_eq_true hk))
  | rollback next ih => exact ih h hc hlast D.knows_nil

/-- A program that runs alone keeps the invariant. -/
theorem inv_exec {p : Prog σ ρ ε α} {s : σ} (h : p.Safe D post s [] id) (hs : D.inv s) :
    D.inv (p.exec s) :=
  inv_solo h hs (.refl s) D.knows_nil

end Prog.Safe

end Rules

section Soundness

variable [DecidableEq ρ] [DecidableEq ι] {D : Discipline σ ρ} {own : ι → σ → σ → Prop}
  {hown : ∀ i s s', own i s s' → D.anyone s s'} {answer : ι → α → σ → Prop}

/-- What is known of one session: it keeps the discipline under locks that it holds, and what it
returns is an `answer` in some store that the committed one has been. -/
def Session.Sound (D : Discipline σ ρ) (answer : α → σ → Prop) (held : List (ι × ρ × Mode))
    (store : σ) (i : ι) (s : Session σ ρ ε α) : Prop :=
  ∃ last notes, D.Later last store ∧ D.Knows notes store ∧
    (∀ n ∈ notes, D.kept n.1 = true ∧ (i, n.1, n.2.1) ∈ held) ∧
    s.rest.Safe D (fun a last _ _ => answer a last) last notes s.pending

/-- No two sessions hold a kept lock in ways that exclude each other. -/
def Database.Compatible (kept : ρ → Bool) (d : Database ι σ ρ ε α) : Prop :=
  ∀ h ∈ d.held, ∀ h' ∈ d.held, h.1 ≠ h'.1 → h.2.1 = h'.2.1 → kept h.2.1 = true →
    h.2.2.compatible h'.2.2 = true

/-- What is known of the whole database, and of the commits and the answer of each session. -/
structure Database.SoundWith (D : Discipline σ ρ) (own : ι → σ → σ → Prop)
    (hown : ∀ i s s', own i s s' → D.anyone s s') (answer : ι → α → σ → Prop)
    (d : Database ι σ ρ ε α) : Prop where
  inv : D.inv d.store
  compatible : d.Compatible D.kept
  session : ∀ i, (d.session i).Sound (D.owning (own i) (hown i)) (answer i) d.held d.store i

/-- What is known of the whole database, and of the commits of each session. -/
abbrev Database.SoundAs (D : Discipline σ ρ) (own : ι → σ → σ → Prop)
    (hown : ∀ i s s', own i s s' → D.anyone s s') (d : Database ι σ ρ ε α) : Prop :=
  d.SoundWith D own hown fun _ _ _ => True

/-- What is known of the whole database. -/
abbrev Database.Sound (D : Discipline σ ρ) (d : Database ι σ ρ ε α) : Prop :=
  d.SoundAs D (fun _ => D.commits) fun _ => D.commits_anyone

omit [DecidableEq ι] in
/-- A session does not notice a commit of another one that keeps the same what the session
holds locks for. -/
theorem Session.Sound.mono {held held' : List (ι × ρ × Mode)} {store store' : σ} {i : ι}
    {s : Session σ ρ ε α} {answer : α → σ → Prop} (h : s.Sound D answer held store i)
    (hheld : ∀ l m, (i, l, m) ∈ held → (i, l, m) ∈ held') (hlater : D.Later store store')
    (hsame : ∀ l m, (i, l, m) ∈ held → D.same l m store store') :
    s.Sound D answer held' store' i := by
  obtain ⟨last, notes, hlast, hknows, hnotes, hsafe⟩ := h
  refine ⟨last, notes, Relation.ReflTransGen.trans hlast hlater, fun n hn => ?_,
    fun n hn => ⟨(hnotes n hn).1, hheld _ _ (hnotes n hn).2⟩, hsafe⟩
  exact D.same_trans _ _ _ _ _ (hknows n hn) (hsame _ _ (hnotes n hn).2)

omit [DecidableEq ι] in
/-- A session that has ended needs its locks and its writes no longer. -/
theorem Session.Sound.ended {held held' : List (ι × ρ × Mode)} {store : σ} {i : ι}
    {s : Session σ ρ ε α} {answer : α → σ → Prop} (h : s.Sound D answer held store i)
    (hended : s.rest.ended = true) :
    Session.Sound D answer held' store i { s with pending := id } := by
  obtain ⟨last, notes, hlast, -, -, hsafe⟩ := h
  refine ⟨last, [], hlast, D.knows_nil, by simp, ?_⟩
  obtain ⟨rest, pending⟩ := s
  cases rest with
  | done a => exact hsafe
  | fail e => trivial
  | stmt locks effect next => simp [Prog.ended] at hended
  | commit keep next => simp [Prog.ended] at hended
  | rollback next => simp [Prog.ended] at hended

omit [DecidableEq ι] in
/-- A program that has failed has nothing to prove. -/
theorem Session.sound_fail {held : List (ι × ρ × Mode)} {store : σ} {i : ι}
    {answer : α → σ → Prop} (e : ε) :
    Session.Sound D answer held store i (⟨.fail e, id⟩ : Session σ ρ ε α) :=
  ⟨store, [], .refl store, D.knows_nil, by simp, trivial⟩

namespace Database

/-- Replacing a session by one that keeps the discipline. -/
theorem sound_put {d : Database ι σ ρ ε α} {i : ι} {s : Session σ ρ ε α} (hinv : D.inv d.store)
    (hcompatible : d.Compatible D.kept)
    (hothers : ∀ j, j ≠ i →
      (d.session j).Sound (D.owning (own j) (hown j)) (answer j) d.held d.store j)
    (hi : s.Sound (D.owning (own i) (hown i)) (answer i) d.held d.store i) :
    (d.put i s).SoundWith D own hown answer := by
  refine ⟨store_put (d := d) ▸ hinv, fun h hh h' hh' =>
    hcompatible h (mem_held_put hh) h' (mem_held_put hh'), fun j => ?_⟩
  rw [store_put]
  by_cases hj : j = i
  · subst hj
    rw [put]
    split
    case isTrue hended => simpa using hi.ended hended
    case isFalse hended =>
      simpa using hi
  · rw [session_put_ne hj]
    refine (hothers j hj).mono (fun l m hl => ?_) (Discipline.Later.refl _) fun l m _ =>
      D.same_refl _ _ _
    -- the locks of another session stay
    rw [put]
    split
    · exact List.mem_filter.mpr ⟨hl, by simpa using hj⟩
    · exact hl

variable {enforced : ρ → Bool}

/-- The session may commit the store, which changes nothing that another session may hold a
lock for. -/
structure Commits (D : Discipline σ ρ) (own : ι → σ → σ → Prop) (d : Database ι σ ρ ε α) (i : ι)
    (store : σ) : Prop where
  own : own i d.store store
  same : ∀ l m, (∀ m', (i, l, m') ∈ d.held → m'.compatible m = true) → D.same l m d.store store

/-- One orderly event keeps all that is known, and the committed store stays or changes by
one commit of the session that the event is about. -/
theorem soundWith_next {d : Database ι σ ρ ε α} (h : d.SoundWith D own hown answer)
    {e : Event ι ε} (he : d.Orderly enforced D.kept e) :
    (d.next enforced e).SoundWith D own hown answer ∧
      ((d.next enforced e).store = d.store ∨
        d.Commits D own e.session (d.next enforced e).store) := by
  cases e with
  | abort i e =>
    rw [next]
    split
    · exact ⟨h, Or.inl rfl⟩
    · exact ⟨sound_put h.inv h.compatible (fun j _ => h.session j) (Session.sound_fail e),
        Or.inl store_put⟩
  | step i =>
    obtain ⟨last, notes, hlast, hknows, hnotes, hsafe⟩ := h.session i
    rw [Orderly, wanted] at he
    rw [next]
    cases hrest : (d.session i).rest with
    | done a => exact ⟨h, Or.inl rfl⟩
    | fail e => exact ⟨h, Or.inl rfl⟩
    | stmt locks effect next =>
      simp only [hrest] at he ⊢
      rw [hrest] at hsafe
      split
      case isTrue => exact ⟨h, Or.inl rfl⟩
      case isFalse hfree =>
        set view := (d.session i).pending d.store with hview
        -- a lock that is taken is free, whether the database enforces it or not
        have hfree : ∀ l ∈ locks view, D.kept l.1 = true → d.excluded i l = false := by
          intro l hl hkept
          cases henforced : enforced l.1 with
          | false => exact he l hl hkept henforced
          | true =>
            simp only [List.any_eq_true, Bool.and_eq_true, not_exists, not_and,
              Bool.not_eq_true] at hfree
            exact hfree l hl henforced
        refine ⟨sound_put h.inv ?_ ?_ ?_, Or.inl store_put⟩
        · intro a ha b hb hne hl hkept
          rcases List.mem_append.mp ha with ha | ha <;> rcases List.mem_append.mp hb with hb | hb
          · exact h.compatible a ha b hb hne hl hkept
          · obtain ⟨l, hlocks, rfl⟩ := List.mem_map.mp hb
            exact excluded_eq_false.mp (hfree l hlocks (hl ▸ hkept)) a ha hne hl
          · obtain ⟨l, hlocks, rfl⟩ := List.mem_map.mp ha
            rw [Mode.compatible_comm]
            exact excluded_eq_false.mp (hfree l hlocks hkept) b hb (Ne.symm hne) hl.symm
          · obtain ⟨l, _, rfl⟩ := List.mem_map.mp ha
            obtain ⟨l', _, rfl⟩ := List.mem_map.mp hb
            exact absurd rfl hne
        · intro j _
          exact (h.session j).mono (fun l m hl => List.mem_append_left _ hl)
            (Discipline.Later.refl _) fun l m _ => D.same_refl _ _ _
        · refine ⟨d.store, _, Discipline.Later.refl _, ?_, ?_, hsafe d.store h.inv hlast hknows⟩
          · intro n hn
            rcases List.mem_append.mp hn with hn | hn
            · exact hknows n hn
            · obtain ⟨l, _, rfl⟩ := List.mem_map.mp hn
              exact D.same_refl _ _ _
          · intro n hn
            rcases List.mem_append.mp hn with hn | hn
            · exact ⟨(hnotes n hn).1, List.mem_append_left _ (hnotes n hn).2⟩
            · obtain ⟨l, hl, rfl⟩ := List.mem_map.mp hn
              obtain ⟨hl, hkept⟩ := List.mem_filter.mp hl
              exact ⟨hkept, List.mem_append_right _ (List.mem_map_of_mem hl)⟩
    | commit keep next =>
      simp only
      rw [hrest] at hsafe
      obtain ⟨hinv, hcommits, hsame, hkeep, hsafe⟩ := hsafe d.store h.inv hlast hknows
      have hlater : D.Later d.store ((d.session i).pending d.store) :=
        Relation.ReflTransGen.single (hown i _ _ hcommits)
      have hcommit : d.Commits D own i ((d.session i).pending d.store) := by
        refine ⟨hcommits, fun l m hl => hsame l m fun n hn hnl => hl n.2.1 ?_⟩
        rw [← hnl]
        exact (hnotes n hn).2
      refine ⟨sound_put hinv ?_ ?_ ?_, Or.inr (store_put (d := { d with
        store := (d.session i).pending d.store
        held := d.held.filter fun h => h.1 ≠ i ∨ h.2.1 ∈ keep }) ▸ hcommit)⟩
      · intro a ha b hb
        exact h.compatible a (List.mem_of_mem_filter ha) b (List.mem_of_mem_filter hb)
      · intro j hj
        refine (h.session j).mono (fun l m hl => ?_) hlater fun l m hl => hsame l m fun n hn hl' => ?_
        · exact List.mem_filter.mpr ⟨hl, by simp [hj]⟩
        · exact h.compatible _ (hnotes n hn).2 _ hl (Ne.symm hj) hl' (hnotes n hn).1
      · refine ⟨_, _, Discipline.Later.refl _, fun n hn => ?_, fun n hn => ?_, hsafe⟩
        · obtain ⟨hn, hk⟩ := List.mem_filter.mp hn
          exact D.same_trans _ _ _ _ _ (hknows n hn) (hkeep n hn (by simpa using hk))
        · obtain ⟨hn, hk⟩ := List.mem_filter.mp hn
          exact ⟨(hnotes n hn).1, List.mem_filter.mpr ⟨(hnotes n hn).2, by simpa using hk⟩⟩
    | rollback next =>
      simp only
      rw [hrest] at hsafe
      refine ⟨sound_put h.inv ?_ ?_ ?_, Or.inl store_put⟩
      · intro a ha b hb
        exact h.compatible a (List.mem_of_mem_filter ha) b (List.mem_of_mem_filter hb)
      · intro j hj
        refine (h.session j).mono (fun l m hl => ?_) (Discipline.Later.refl _) fun l m _ =>
          D.same_refl _ _ _
        exact List.mem_filter.mpr ⟨hl, by simpa using hj⟩
      · exact ⟨last, [], hlast, D.knows_nil, by simp, hsafe⟩

/-- One orderly event keeps all that is known, and the committed store stays or changes by
one commit. -/
theorem sound_next {d : Database ι σ ρ ε α} (h : d.Sound D) {e : Event ι ε}
    (he : d.Orderly enforced D.kept e) :
    (d.next enforced e).Sound D ∧
      ((d.next enforced e).store = d.store ∨ D.commits d.store (d.next enforced e).store) := by
  obtain ⟨hsound, hstore⟩ := soundWith_next h he
  exact ⟨hsound, hstore.imp_right Commits.own⟩

omit [DecidableEq ι] in
/-- Every program keeps the discipline that asks for nothing. -/
theorem safe_top (p : Prog σ ρ ε α) (last : σ) (notes : List (ρ × Mode × σ)) (pending : σ → σ) :
    p.Safe (.top σ ρ) (fun _ _ _ _ => True) last notes pending := by
  induction p generalizing last notes pending with
  | done a => trivial
  | fail e => trivial
  | stmt locks effect next ih => exact fun s _ _ _ => ih _ _ _ _
  | commit keep next ih =>
    exact fun s _ _ _ => ⟨trivial, trivial, fun _ _ _ => trivial, fun _ _ _ => trivial, ih _ _ _⟩
  | rollback next ih => exact ih _ _ _

/-- Locks that exclude each other are never held together. -/
theorem compatible_next {d : Database ι σ ρ ε α} (h : d.Compatible fun _ => true) {e : Event ι ε}
    (he : d.Orderly enforced (fun _ => true) e) : (d.next enforced e).Compatible fun _ => true := by
  have hsound : d.Sound (.top σ ρ) :=
    ⟨trivial, h, fun i => ⟨d.store, [], .refl _, by simp, by simp, safe_top _ _ _ _⟩⟩
  exact (sound_next hsound he).1.compatible

omit [DecidableEq ι] in
/-- Programs that are safe start soundly, each with its own rule and answer. -/
theorem soundWith_start {store : σ} {program : ι → Prog σ ρ ε α} (hinv : D.inv store)
    (hsafe : ∀ i, (program i).Safe (D.owning (own i) (hown i)) (fun a last _ _ => answer i a last)
      store [] id) :
    (start store program).SoundWith D own hown answer :=
  ⟨hinv, by simp [start, Compatible], fun i =>
    ⟨store, [], Discipline.Later.refl store, Discipline.knows_nil _, by simp, hsafe i⟩⟩

omit [DecidableEq ι] in
/-- The same, with nothing said about the answers. -/
theorem soundAs_start {store : σ} {program : ι → Prog σ ρ ε α} (hinv : D.inv store)
    (hsafe : ∀ i, (program i).Safe (D.owning (own i) (hown i)) (fun _ _ _ _ => True) store [] id) :
    (start store program).SoundAs D own hown :=
  soundWith_start hinv hsafe

omit [DecidableEq ι] in
/-- The same, with one rule for all. -/
theorem sound_start {store : σ} {program : ι → Prog σ ρ ε α} (hinv : D.inv store)
    (hsafe : ∀ i, (program i).Safe D (fun _ _ _ _ => True) store [] id) :
    (start store program).Sound D :=
  soundAs_start hinv hsafe

/-- An orderly run keeps all that is known, and the committed store only changes by commits
that the discipline allows. -/
theorem sound_run {d : Database ι σ ρ ε α} (hd : d.Sound D) {es : List (Event ι ε)}
    (hes : EachStep (next enforced) (Orderly enforced D.kept) d es) :
    (runFrom (next enforced) d es).Sound D ∧
      D.Later d.store (runFrom (next enforced) d es).store := by
  induction es generalizing d with
  | nil => exact ⟨hd, Discipline.Later.refl _⟩
  | cons e es ih =>
    obtain ⟨hd', hstore⟩ := sound_next hd hes.1
    obtain ⟨hsound, hlater⟩ := ih hd' hes.2
    refine ⟨hsound, Relation.ReflTransGen.trans ?_ hlater⟩
    rcases hstore with hstore | hstore
    · rw [hstore]
    · exact (Discipline.Later.refl _).next hstore

/-- Programs that keep a discipline keep its invariant in every orderly run. -/
theorem safe_run {store : σ} {program : ι → Prog σ ρ ε α} (hinv : D.inv store)
    (hsafe : ∀ i, (program i).Safe D (fun _ _ _ _ => True) store [] id) {es : List (Event ι ε)}
    (hes : EachStep (next enforced) (Orderly enforced D.kept) (start store program) es) :
    D.inv (runFrom (next enforced) (start store program) es).store ∧
      D.Later store (runFrom (next enforced) (start store program) es).store := by
  obtain ⟨hsound, hlater⟩ := sound_run (sound_start hinv hsafe) hes
  exact ⟨hsound.inv, hlater⟩

/-- Every event of an orderly run leaves the committed store, or is a commit that its session may
make. -/
theorem eachStep_owns {d : Database ι σ ρ ε α} (hd : d.SoundWith D own hown answer)
    {es : List (Event ι ε)}
    (hes : EachStep (next enforced) (Orderly enforced D.kept) d es) :
    EachStep (next enforced) (fun d e => (d.next enforced e).store = d.store ∨
      d.Commits D own e.session (d.next enforced e).store) d es := by
  induction es generalizing d with
  | nil => trivial
  | cons e es ih =>
    obtain ⟨hd', hstore⟩ := soundWith_next hd hes.1
    exact ⟨hstore, ih hd' hes.2⟩

/-- What a session has returned at the end of an orderly run is an answer in some store that the
committed one has been. -/
theorem answer_of_done {d : Database ι σ ρ ε α} (hd : d.SoundWith D own hown answer)
    {es : List (Event ι ε)} (hes : EachStep (next enforced) (Orderly enforced D.kept) d es)
    {i : ι} {a : α} (ha : ((runFrom (next enforced) d es).session i).rest = .done a) :
    ∃ last, D.Later last (runFrom (next enforced) d es).store ∧ answer i a last := by
  induction es generalizing d with
  | nil =>
    obtain ⟨last, _, hlast, -, -, hsafe⟩ := hd.session i
    rw [runFrom_nil] at ha
    rw [ha] at hsafe
    exact ⟨last, hlast, hsafe⟩
  | cons e es ih => exact ih (soundWith_next hd hes.1).1 hes.2 ha

/-- Every event of an orderly run keeps the invariant, and leaves the committed store or
commits as the discipline allows. -/
theorem eachStep_commits {d : Database ι σ ρ ε α} (hd : d.Sound D) {es : List (Event ι ε)}
    (hes : EachStep (next enforced) (Orderly enforced D.kept) d es) :
    EachStep (next enforced) (fun d e => D.inv (d.next enforced e).store ∧
      ((d.next enforced e).store = d.store ∨ D.commits d.store (d.next enforced e).store)) d es := by
  induction es generalizing d with
  | nil => trivial
  | cons e es ih =>
    obtain ⟨hd', hstore⟩ := sound_next hd hes.1
    exact ⟨⟨hd'.inv, hstore⟩, ih hd' hes.2⟩

/-- No event passes a lock when the database enforces all that are kept. -/
theorem orderly_of_enforced {kept : ρ → Bool} (henforced : ∀ l, kept l = true → enforced l = true)
    (d : Database ι σ ρ ε α) (e : Event ι ε) : d.Orderly enforced kept e := by
  cases e with
  | step i => exact fun l _ hkept h => absurd (henforced l.1 hkept) (by simp [h])
  | abort i e => trivial

/-- Every run is orderly when all kept locks are enforced. -/
theorem eachStep_orderly_of_enforced {kept : ρ → Bool}
    (henforced : ∀ l, kept l = true → enforced l = true) (d : Database ι σ ρ ε α)
    (es : List (Event ι ε)) : EachStep (next enforced) (Orderly enforced kept) d es := by
  induction es generalizing d with
  | nil => trivial
  | cons e es ih => exact ⟨orderly_of_enforced henforced d e, ih _⟩

end Database

end Soundness

end Relational.ReadCommitted
