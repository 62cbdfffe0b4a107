import VielHome.Relational.Discipline

/-!
# What a lock guards

Some facts hold only as long as nobody is at work on them: who takes a lock exclusively may
break the fact that the lock guards, in several transactions, and restores it before giving the
lock back. `Prog.Guarded` is the proof rule for programs that do so. It goes beyond `Prog.Safe`: a
statement that takes a lock exclusively may use the fact, every way of giving the lock back (a
commit, a rollback, the end of the program, an error) has to restore it, and a lock that is kept
beyond a commit protects what the commit has left.

`guard_of_quiet` says that the facts hold whenever no session is at work, in every orderly run in
which no session is cut off before it restores what it broke. A run may be restricted further: by
what its commits are `allowed` to do, and by what has to hold `during` the steps of a session that
holds a lock.
-/

namespace Relational.ReadCommitted

variable {ι σ ρ ε α β : Type}

/-- A discipline, with the fact that each lock guards. The runs that are looked at make only
commits that are `allowed`, and a session that holds a lock makes a step only while `during`
holds. -/
structure Guards (σ ρ : Type) extends Discipline σ ρ where
  guard : ρ → σ → Prop
  allowed : σ → σ → Prop
  during : ρ → σ → Prop

/-- The session holds the lock exclusively. -/
def Owns (notes : List (ρ × Mode × σ)) (l : ρ) : Prop := ∃ s, (l, .exclusive, s) ∈ notes

/-- What the session may have broken holds again. -/
def Restored (G : Guards σ ρ) (notes : List (ρ × Mode × σ)) (s : σ) : Prop :=
  ∀ l, Owns notes l → G.guard l s

theorem restored_nil {G : Guards σ ρ} {s : σ} : Restored G [] s :=
  fun _ h => absurd h.choose_spec List.not_mem_nil

/-- The session gives back what it holds in a state in which all of it is restored. -/
def GivesBack (G : Guards σ ρ) (last : σ)
    (notes : List (ρ × Mode × σ)) : Prop :=
  ∀ s, G.inv s → G.Later last s → G.Knows notes s → Restored G notes s

theorem givesBack_nil {G : Guards σ ρ} {last : σ} :
    GivesBack G last [] := fun _ _ _ _ => restored_nil

/-- Where the locks guard nothing, nothing has to be restored. -/
theorem givesBack_of_guard {G : Guards σ ρ} (h : ∀ l s, G.guard l s) {last : σ}
    {notes : List (ρ × Mode × σ)} : GivesBack G last notes := fun s _ _ _ l _ => h l s

/-- What a session notes of the locks it keeps beyond a commit: they protect what the commit has
left. -/
def refreshed [DecidableEq ρ] (keep : List ρ) (notes : List (ρ × Mode × σ)) (s : σ) :
    List (ρ × Mode × σ) :=
  (notes.filter fun n => n.1 ∈ keep).map fun n => (n.1, n.2.1, s)

theorem mem_refreshed [DecidableEq ρ] {keep : List ρ} {notes : List (ρ × Mode × σ)} {s : σ}
    {n : ρ × Mode × σ} :
    n ∈ refreshed keep notes s ↔ ∃ s₀, (n.1, n.2.1, s₀) ∈ notes ∧ n.1 ∈ keep ∧ n.2.2 = s := by
  obtain ⟨l, m, s'⟩ := n
  constructor
  · intro h
    obtain ⟨⟨l', m', s₀⟩, hn, heq⟩ := List.mem_map.mp h
    obtain ⟨hn, hkeep⟩ := List.mem_filter.mp hn
    obtain ⟨rfl, rfl, rfl⟩ : l' = l ∧ m' = m ∧ s = s' := by simpa using heq
    exact ⟨s₀, hn, by simpa using hkeep, rfl⟩
  · rintro ⟨s₀, hn, hkeep, rfl⟩
    exact List.mem_map.mpr ⟨(l, m, s₀), List.mem_filter.mpr ⟨hn, by simpa using hkeep⟩, rfl⟩

section Rules

variable [DecidableEq ρ]

/-- The program keeps the discipline, and restores the fact of every lock that it took
exclusively before it gives the lock back. -/
def Prog.Guarded (G : Guards σ ρ)
    (post : α → σ → List (ρ × Mode × σ) → (σ → σ) → Prop) :
    σ → List (ρ × Mode × σ) → (σ → σ) → Prog σ ρ ε α → Prop
  | last, notes, pending, .done a => post a last notes pending
  | last, notes, _, .fail _ => GivesBack G last notes
  | last, notes, pending, .stmt locks effect next =>
    ∀ s, G.inv s → G.Later last s → G.Knows notes s →
      (∀ l, (l, .exclusive) ∈ locks (pending s) → G.kept l = true → G.guard l s ∨ Owns notes l) →
      (next (pending s)).Guarded G post s (notes ++ G.taken (locks (pending s)) s)
        fun s => effect (pending s)
  | last, notes, pending, .commit keep next =>
    ∀ s, G.inv s → G.Later last s → G.Knows notes s → G.allowed s (pending s) →
      (∀ n ∈ notes, G.during n.1 s) →
      G.inv (pending s) ∧ G.commits s (pending s) ∧
      (∀ l m, Free notes l m → G.same l m s (pending s)) ∧
      (∀ l, ¬ Owns notes l → G.guard l s → G.guard l (pending s)) ∧
      (∀ l, Owns notes l → l ∉ keep → G.guard l (pending s)) ∧
      next.Guarded G post (pending s) (refreshed keep notes (pending s)) id
  | last, notes, _, .rollback next =>
    GivesBack G last notes ∧ next.Guarded G post last [] id

namespace Prog.Guarded

variable {G : Guards σ ρ}
  {post : α → σ → List (ρ × Mode × σ) → (σ → σ) → Prop}
  {post' : β → σ → List (ρ × Mode × σ) → (σ → σ) → Prop} {last : σ}
  {notes : List (ρ × Mode × σ)} {pending : σ → σ}

/-- A program that is done gives back what it holds. -/
def AtEnd (G : Guards σ ρ) (_ : α) (last : σ)
    (notes : List (ρ × Mode × σ)) (_ : σ → σ) : Prop :=
  GivesBack G last notes

/-- One program after another. -/
theorem bind {p : Prog σ ρ ε α} {f : α → Prog σ ρ ε β} (h : p.Guarded G post last notes pending)
    (hf : ∀ a last notes pending, post a last notes pending →
      (f a).Guarded G post' last notes pending) :
    (p >>= f).Guarded G post' last notes pending := by
  induction p generalizing last notes pending with
  | done a => exact hf _ _ _ _ h
  | fail e => exact h
  | stmt locks effect next ih =>
    exact fun s hs hlast hknows hguard => ih _ (h s hs hlast hknows hguard)
  | commit keep next ih =>
    intro s hs hlast hknows hallowed hduring
    obtain ⟨hinv, hcommits, hsame, hother, hown, hnext⟩ := h s hs hlast hknows hallowed hduring
    exact ⟨hinv, hcommits, hsame, hother, hown, ih hnext⟩
  | rollback next ih => exact ⟨h.1, ih h.2⟩

/-- Where the locks guard nothing, a program that keeps the discipline need not look at the
restrictions on the runs. What it notes may be refreshed. -/
theorem of_safe {p : Prog σ ρ ε α} {notes' : List (ρ × Mode × σ)} (hguard : ∀ l s, G.guard l s)
    (h : p.Safe G.toDiscipline (fun _ _ _ _ => True) last notes pending)
    (hnotes : ∀ n ∈ notes, ∃ s, (n.1, n.2.1, s) ∈ notes' ∧ G.same n.1 n.2.1 n.2.2 s) :
    p.Guarded G (AtEnd G) last notes' pending := by
  have hknown : ∀ {notes notes' : List (ρ × Mode × σ)},
      (∀ n ∈ notes, ∃ s, (n.1, n.2.1, s) ∈ notes' ∧ G.same n.1 n.2.1 n.2.2 s) →
      ∀ s, G.Knows notes' s → G.Knows notes s := by
    intro notes notes' hnotes s hknows n hn
    obtain ⟨s', hn', hsame⟩ := hnotes n hn
    exact G.same_trans _ _ _ _ _ hsame (hknows _ hn')
  induction p generalizing last notes notes' pending with
  | done a => exact givesBack_of_guard hguard
  | fail e => exact givesBack_of_guard hguard
  | stmt locks effect next ih =>
    intro s hs hlast hknows _
    refine ih _ (h s hs hlast (hknown hnotes s hknows)) fun n hn => ?_
    rcases List.mem_append.mp hn with hn | hn
    · obtain ⟨s', hn', hsame⟩ := hnotes n hn
      exact ⟨s', List.mem_append_left _ hn', hsame⟩
    · exact ⟨n.2.2, List.mem_append_right _ hn, G.same_refl _ _ _⟩
  | commit keep next ih =>
    intro s hs hlast hknows _ _
    have hknows := hknown hnotes s hknows
    obtain ⟨hinv, hcommits, hsame, hkeep, hnext⟩ := h s hs hlast hknows
    refine ⟨hinv, hcommits, fun l m hfree => hsame l m fun n hn hl => ?_,
      fun l _ _ => hguard _ _, fun l _ _ => hguard _ _, ih hnext fun n hn => ?_⟩
    · obtain ⟨s', hn', -⟩ := hnotes n hn
      exact hfree (n.1, n.2.1, s') hn' hl
    · obtain ⟨hn, hk⟩ := List.mem_filter.mp hn
      have hk := of_decide_eq_true hk
      obtain ⟨s', hn', -⟩ := hnotes n hn
      exact ⟨pending s, mem_refreshed.mpr ⟨s', hn', hk, rfl⟩,
        G.same_trans _ _ _ _ _ (hknows n hn) (hkeep n hn hk)⟩
  | rollback next ih =>
    exact ⟨givesBack_of_guard hguard, ih h fun n hn => absurd hn List.not_mem_nil⟩

/-- What a program reads does not matter to one that relies on nothing of it. -/
theorem readOnly {p : Prog σ ρ ε α} {f : α → Prog σ ρ ε β} (hp : p.ReadOnly)
    (hfail : ∀ last', G.Later last last' → GivesBack G last' notes)
    (h : ∀ a last', G.Later last last' → (f a).Guarded G post' last' notes pending) :
    (p >>= f).Guarded G post' last notes pending := by
  induction p generalizing last with
  | done a => exact h a last (.refl last)
  | fail e => exact hfail last (.refl last)
  | stmt locks effect next ih =>
    obtain ⟨hlocks, rfl, hnext⟩ := hp
    intro s _ hlast _ _
    have hnotes : notes ++ G.taken (locks (pending s)) s = notes := by
      rw [hlocks, G.taken_nil, List.append_nil]
    rw [hnotes]
    exact ih _ (hnext _) (fun last' hlater => hfail last' (hlast.trans hlater))
      fun a last' hlater => h a last' (hlast.trans hlater)
  | commit keep next ih => exact hp.elim
  | rollback next ih => exact hp.elim

/-! ### One rule for each statement -/

theorem query {q : σ → α} {f : α → Prog σ ρ ε β}
    (h : ∀ s, G.inv s → G.Later last s → G.Knows notes s →
      (f (q (pending s))).Guarded G post' s notes pending) :
    (Prog.query q >>= f : Prog σ ρ ε β).Guarded G post' last notes pending := by
  intro s hs hlast hknows _
  have hnotes : notes ++ G.taken [] s = notes := List.append_nil notes
  rw [hnotes]
  exact h s hs hlast hknows

theorem queryUnder {locks : σ → List (ρ × Mode)} {q : σ → α} {f : α → Prog σ ρ ε β}
    (h : ∀ s, G.inv s → G.Later last s → G.Knows notes s →
      (∀ l, (l, .exclusive) ∈ locks (pending s) → G.kept l = true → G.guard l s ∨ Owns notes l) →
      (f (q (pending s))).Guarded G post' s (notes ++ G.taken (locks (pending s)) s) pending) :
    (Prog.queryUnder locks q >>= f : Prog σ ρ ε β).Guarded G post' last notes pending := h

theorem write {locks : List (ρ × Mode)} {w : σ → σ} {f : PUnit → Prog σ ρ ε β}
    (h : ∀ s, G.inv s → G.Later last s → G.Knows notes s →
      (f ⟨⟩).Guarded G post' s (notes ++ G.taken locks s) fun s => w (pending s)) :
    (Prog.write locks w >>= f : Prog σ ρ ε β).Guarded G post' last notes pending :=
  fun s hs hlast hknows _ => h s hs hlast hknows

theorem writeIf {locks : List (ρ × Mode)} {ok : σ → Bool} {e : ε} {w : σ → σ}
    {f : PUnit → Prog σ ρ ε β}
    (hfail : ∀ s, G.inv s → G.Later last s → G.Knows notes s → ok (pending s) = false →
      GivesBack G s (notes ++ G.taken locks s))
    (h : ∀ s, G.inv s → G.Later last s → G.Knows notes s → ok (pending s) = true →
      (f ⟨⟩).Guarded G post' s (notes ++ G.taken locks s) fun s => w (pending s)) :
    (Prog.writeIf locks ok e w >>= f : Prog σ ρ ε β).Guarded G post' last notes pending := by
  rw [Prog.writeIf_bind]
  intro s hs hlast hknows _
  dsimp only
  split
  case isTrue hok => exact h s hs hlast hknows hok
  case isFalse hok => exact hfail s hs hlast hknows (Bool.not_eq_true _ ▸ hok)

theorem writeUnless {locks : List (ρ × Mode)} {refused : σ → Option ε} {w : σ → σ}
    {f : PUnit → Prog σ ρ ε β}
    (hfail : ∀ s e, G.inv s → G.Later last s → G.Knows notes s → refused (pending s) = some e →
      (∀ l, (l, .exclusive) ∈ locks → G.kept l = true → G.guard l s ∨ Owns notes l) →
      GivesBack G s (notes ++ G.taken locks s))
    (h : ∀ s, G.inv s → G.Later last s → G.Knows notes s → refused (pending s) = none →
      (∀ l, (l, .exclusive) ∈ locks → G.kept l = true → G.guard l s ∨ Owns notes l) →
      (f ⟨⟩).Guarded G post' s (notes ++ G.taken locks s) fun s => w (pending s)) :
    (Prog.writeUnless locks refused w >>= f : Prog σ ρ ε β).Guarded G post' last notes
      pending := by
  rw [Prog.writeUnless_bind]
  intro s hs hlast hknows hguard
  dsimp only
  split
  case h_1 hnone => exact h s hs hlast hknows hnone hguard
  case h_2 e hsome => exact hfail s e hs hlast hknows hsome hguard

theorem require {c : Prop} [Decidable c] {e : ε} {f : PUnit → Prog σ ρ ε β}
    (hfail : ¬ c → GivesBack G last notes)
    (h : c → (f ⟨⟩).Guarded G post' last notes pending) :
    (Prog.require c e >>= f : Prog σ ρ ε β).Guarded G post' last notes pending := by
  rw [Prog.require_bind]
  split
  case isTrue hc => exact h hc
  case isFalse hc => exact hfail hc

theorem expect {o : Option α} {e : ε} {f : α → Prog σ ρ ε β}
    (hfail : o = none → GivesBack G last notes)
    (h : ∀ a, o = some a → (f a).Guarded G post' last notes pending) :
    (Prog.expect o e >>= f : Prog σ ρ ε β).Guarded G post' last notes pending := by
  cases o with
  | none => exact hfail rfl
  | some a => exact h a rfl

/-- An error rolls back, and what was broken has to be restored already; the handler starts
afresh. -/
theorem tryCatch {p : Prog σ ρ ε α} {h : ε → Prog σ ρ ε α} (hp : p.Guarded G post last notes pending)
    (hh : ∀ e last', G.Later last last' → (h e).Guarded G post last' [] id) :
    (p.tryCatch h).Guarded G post last notes pending := by
  induction p generalizing last notes pending with
  | done a => exact hp
  | fail e => exact ⟨hp, hh e _ (.refl last)⟩
  | stmt locks effect next ih =>
    exact fun s hs hlast hknows hguard => ih _ (hp s hs hlast hknows hguard)
      fun e last' hlater => hh e last' (hlast.trans hlater)
  | commit keep next ih =>
    intro s hs hlast hknows hallowed hduring
    obtain ⟨hinv, hcommits, hsame, hother, hown, hnext⟩ := hp s hs hlast hknows hallowed hduring
    exact ⟨hinv, hcommits, hsame, hother, hown,
      ih hnext fun e last' hlater => hh e last' ((hlast.next hcommits).trans hlater)⟩
  | rollback next ih => exact ⟨hp.1, ih hp.2 hh⟩

theorem commitAll {f : PUnit → Prog σ ρ ε β}
    (h : ∀ s, G.inv s → G.Later last s → G.Knows notes s → G.allowed s (pending s) →
      (∀ n ∈ notes, G.during n.1 s) →
      G.inv (pending s) ∧ G.commits s (pending s) ∧
      (∀ l m, Free notes l m → G.same l m s (pending s)) ∧
      (∀ l, ¬ Owns notes l → G.guard l s → G.guard l (pending s)) ∧
      Restored G notes (pending s) ∧
      (f ⟨⟩).Guarded G post' (pending s) [] id) :
    (Prog.commitAll >>= f : Prog σ ρ ε β).Guarded G post' last notes pending := by
  intro s hs hlast hknows hallowed hduring
  obtain ⟨hinv, hcommits, hsame, hother, hown, hnext⟩ := h s hs hlast hknows hallowed hduring
  refine ⟨hinv, hcommits, hsame, hother, fun l hl _ => hown l hl, ?_⟩
  have hnotes : refreshed [] notes (pending s) = [] := by simp [refreshed]
  rw [hnotes]
  exact hnext

theorem commitKeeping {keep : List ρ} {f : PUnit → Prog σ ρ ε β}
    (h : ∀ s, G.inv s → G.Later last s → G.Knows notes s → G.allowed s (pending s) →
      (∀ n ∈ notes, G.during n.1 s) →
      G.inv (pending s) ∧ G.commits s (pending s) ∧
      (∀ l m, Free notes l m → G.same l m s (pending s)) ∧
      (∀ l, ¬ Owns notes l → G.guard l s → G.guard l (pending s)) ∧
      (∀ l, Owns notes l → l ∉ keep → G.guard l (pending s)) ∧
      (f ⟨⟩).Guarded G post' (pending s) (refreshed keep notes (pending s)) id) :
    (Prog.commitKeeping keep >>= f : Prog σ ρ ε β).Guarded G post' last notes pending := h

end Prog.Guarded

end Rules

/-! ### Runs -/

section Soundness

variable [DecidableEq ρ] [DecidableEq ι] {G : Guards σ ρ}

/-- What is known of one session: the locks it holds are those it has noted, and it restores what
they guard. -/
def Session.Guarded (G : Guards σ ρ) (held : List (ι × ρ × Mode))
    (store : σ) (i : ι) (s : Session σ ρ ε α) : Prop :=
  ∃ last notes, G.Later last store ∧ G.Knows notes store ∧
    (∀ n ∈ notes, G.kept n.1 = true ∧ (i, n.1, n.2.1) ∈ held) ∧
    (∀ l, (i, l, .exclusive) ∈ held → G.kept l = true → Owns notes l) ∧
    s.rest.Guarded G (Prog.Guarded.AtEnd G) last notes s.pending

/-- What is known of the whole database: what a lock guards holds, or somebody is at work on
it. -/
structure Database.Guarded (G : Guards σ ρ) (d : Database ι σ ρ ε α) :
    Prop where
  inv : G.inv d.store
  compatible : d.Compatible G.kept
  session : ∀ i, (d.session i).Guarded G d.held d.store i
  guard : ∀ l, G.kept l = true → G.guard l d.store ∨ ∃ i, (i, l, .exclusive) ∈ d.held

omit [DecidableEq ι] in
/-- A session does not notice a commit of another one that keeps the same what the session holds
locks for. -/
theorem Session.Guarded.mono {held held' : List (ι × ρ × Mode)} {store store' : σ} {i : ι}
    {s : Session σ ρ ε α} (h : s.Guarded G held store i)
    (hheld : ∀ l m, (i, l, m) ∈ held ↔ (i, l, m) ∈ held') (hlater : G.Later store store')
    (hsame : ∀ l m, (i, l, m) ∈ held → G.same l m store store') :
    s.Guarded G held' store' i := by
  obtain ⟨last, notes, hlast, hknows, hnotes, howns, hguarded⟩ := h
  refine ⟨last, notes, Relation.ReflTransGen.trans hlast hlater, fun n hn => ?_,
    fun n hn => ⟨(hnotes n hn).1, (hheld _ _).mp (hnotes n hn).2⟩,
    fun l hl => howns l ((hheld _ _).mpr hl), hguarded⟩
  exact G.same_trans _ _ _ _ _ (hknows n hn) (hsame _ _ (hnotes n hn).2)

omit [DecidableEq ι] in
/-- A session that ends has restored what it holds locks for. -/
theorem Session.Guarded.restored {held : List (ι × ρ × Mode)} {store : σ} {i : ι}
    {s : Session σ ρ ε α} (h : s.Guarded G held store i) (hinv : G.inv store)
    (hended : s.rest.ended = true) {l : ρ} (hl : (i, l, .exclusive) ∈ held)
    (hkept : G.kept l = true) : G.guard l store := by
  obtain ⟨last, notes, hlast, hknows, hnotes, howns, hguarded⟩ := h
  obtain ⟨rest, pending⟩ := s
  cases rest with
  | done a => exact hguarded store hinv hlast hknows l (howns l hl hkept)
  | fail e => exact hguarded store hinv hlast hknows l (howns l hl hkept)
  | stmt locks effect next => simp [Prog.ended] at hended
  | commit keep next => simp [Prog.ended] at hended
  | rollback next => simp [Prog.ended] at hended

omit [DecidableEq ι] in
theorem Session.Guarded.of_ended {held : List (ι × ρ × Mode)} {store : σ} {i : ι}
    {s : Session σ ρ ε α} (h : s.rest.ended = true) (hheld : ∀ h ∈ held, h.1 ≠ i) :
    s.Guarded G held store i := by
  refine ⟨store, [], Discipline.Later.refl store, G.knows_nil, by simp,
    fun l hl _ => absurd rfl (hheld _ hl), ?_⟩
  obtain ⟨rest, pending⟩ := s
  cases rest with
  | done a => exact givesBack_nil
  | fail e => exact givesBack_nil
  | stmt locks effect next => simp [Prog.ended] at h
  | commit keep next => simp [Prog.ended] at h
  | rollback next => simp [Prog.ended] at h

namespace Database

/-- Replacing a session: one that has ended gives back its locks, and has restored what they
guard. -/
private theorem guarded_replace {d : Database ι σ ρ ε α} {i : ι} {s : Session σ ρ ε α}
    (hinv : G.inv d.store) (hcompatible : d.Compatible G.kept)
    (hothers : ∀ j, j ≠ i → (d.session j).Guarded G d.held d.store j)
    (hi : s.rest.ended = false → s.Guarded G d.held d.store i)
    (hrestored : s.rest.ended = true → ∀ l, (i, l, .exclusive) ∈ d.held → G.kept l = true →
      G.guard l d.store)
    (hguard : ∀ l, G.kept l = true → G.guard l d.store ∨ ∃ j, (j, l, .exclusive) ∈ d.held) :
    (d.put i s).Guarded G := by
  cases hended : s.rest.ended with
  | false =>
    have hput : d.put i s = { d with session := Function.update d.session i s } := by
      rw [put, if_neg (by simp [hended])]
    rw [hput]
    refine ⟨hinv, hcompatible, fun j => ?_, hguard⟩
    by_cases hj : j = i
    · subst hj
      simpa using hi hended
    · simpa [Function.update_of_ne hj] using hothers j hj
  | true =>
    have hput : d.put i s = { d with
        session := Function.update d.session i { s with pending := id }
        held := d.held.filter fun h => h.1 ≠ i } := by
      rw [put, if_pos hended]
    have hfiltered : ∀ h, h ∈ d.held.filter (fun h => h.1 ≠ i) ↔ h ∈ d.held ∧ h.1 ≠ i := by
      simp [List.mem_filter]
    rw [hput]
    refine ⟨hinv, fun h hh h' hh' => hcompatible h (List.mem_of_mem_filter hh) h'
      (List.mem_of_mem_filter hh'), fun j => ?_, fun l hkept => ?_⟩
    · by_cases hj : j = i
      · subst hj
        dsimp only
        rw [Function.update_self]
        exact .of_ended hended fun h hh => ((hfiltered h).mp hh).2
      · dsimp only
        rw [Function.update_of_ne hj]
        refine (hothers j hj).mono (fun l m => ?_) (Discipline.Later.refl _)
          fun l m _ => G.same_refl _ _ _
        rw [hfiltered]
        exact ⟨fun h => ⟨h, hj⟩, And.left⟩
    · -- the locks that are given back were restored
      rcases hguard l hkept with hl | ⟨j, hl⟩
      · exact Or.inl hl
      · by_cases hj : j = i
        · exact Or.inl (hrestored hended l (hj ▸ hl) hkept)
        · exact Or.inr ⟨j, (hfiltered _).mpr ⟨hl, hj⟩⟩

/-- Replacing a session by one that restores what it holds locks for. -/
theorem guarded_put {d : Database ι σ ρ ε α} {i : ι} {s : Session σ ρ ε α} (hinv : G.inv d.store)
    (hcompatible : d.Compatible G.kept)
    (hothers : ∀ j, j ≠ i → (d.session j).Guarded G d.held d.store j)
    (hi : s.Guarded G d.held d.store i)
    (hguard : ∀ l, G.kept l = true → G.guard l d.store ∨ ∃ j, (j, l, .exclusive) ∈ d.held) :
    (d.put i s).Guarded G :=
  guarded_replace hinv hcompatible hothers (fun _ => hi)
    (fun hended _ hl hkept => hi.restored hinv hended hl hkept) hguard

variable {enforced : ρ → Bool}

/-- The event cuts off no session that has broken what one of its locks guards. -/
def Uncut (G : Guards σ ρ) (d : Database ι σ ρ ε α) : Event ι ε → Prop
  | .step _ => True
  | .abort i _ => ∀ h ∈ d.held, h.1 = i → h.2.2 = .exclusive → G.kept h.2.1 = true →
      G.guard h.2.1 d.store

instance Uncut.decidable [∀ l, DecidablePred (G.guard l)] (d : Database ι σ ρ ε α) :
    (e : Event ι ε) → Decidable (d.Uncut G e)
  | .step _ => inferInstanceAs (Decidable True)
  | .abort i _ => inferInstanceAs (Decidable (∀ h ∈ d.held, h.1 = i → h.2.2 = .exclusive →
      G.kept h.2.1 = true → G.guard h.2.1 d.store))

/-- The session whose step it is makes it while `during` holds of its locks. -/
def Timely (G : Guards σ ρ) (d : Database ι σ ρ ε α) : Event ι ε → Prop
  | .step i => ∀ h ∈ d.held, h.1 = i → G.during h.2.1 d.store
  | .abort _ _ => True

instance Timely.decidable [∀ l, DecidablePred (G.during l)] (d : Database ι σ ρ ε α) :
    (e : Event ι ε) → Decidable (d.Timely G e)
  | .step i => inferInstanceAs (Decidable (∀ h ∈ d.held, h.1 = i → G.during h.2.1 d.store))
  | .abort _ _ => inferInstanceAs (Decidable True)

/-- The event is orderly, cuts off no session that has broken something, is allowed, and is made
in time. -/
structure Permitted (enforced : ρ → Bool) (G : Guards σ ρ) (d : Database ι σ ρ ε α)
    (e : Event ι ε) : Prop where
  orderly : d.Orderly enforced G.kept e
  uncut : d.Uncut G e
  allowed : G.allowed d.store (d.next enforced e).store
  timely : d.Timely G e

instance Permitted.decidable [∀ l, DecidablePred (G.guard l)] [∀ s s', Decidable (G.allowed s s')]
    [∀ l, DecidablePred (G.during l)] (d : Database ι σ ρ ε α) (e : Event ι ε) :
    Decidable (d.Permitted enforced G e) :=
  decidable_of_iff (d.Orderly enforced G.kept e ∧ d.Uncut G e ∧
      G.allowed d.store (d.next enforced e).store ∧ d.Timely G e)
    ⟨fun ⟨ho, hu, ha, ht⟩ => ⟨ho, hu, ha, ht⟩, fun h => ⟨h.orderly, h.uncut, h.allowed, h.timely⟩⟩

/-- A lock that a statement is about to take is free. -/
private theorem wanted_free {d : Database ι σ ρ ε α} {i : ι} {locks : σ → List (ρ × Mode)}
    {effect : σ → σ} {next : σ → Prog σ ρ ε α} (hrest : (d.session i).rest = .stmt locks effect next)
    (he : d.Orderly enforced G.kept (.step i))
    (hfree : ¬ ((locks ((d.session i).pending d.store)).any fun l =>
      enforced l.1 && d.excluded i l) = true) {l : ρ × Mode}
    (hl : l ∈ locks ((d.session i).pending d.store)) (hkept : G.kept l.1 = true) :
    d.excluded i l = false := by
  rw [Orderly, wanted, hrest] at he
  cases henforced : enforced l.1 with
  | false => exact he l hl hkept henforced
  | true =>
    simp only [List.any_eq_true, Bool.and_eq_true, not_exists, not_and, Bool.not_eq_true] at hfree
    exact hfree l hl henforced

/-- What a session takes is compatible with what the others hold. -/
private theorem compatible_append {d : Database ι σ ρ ε α} (h : d.Compatible G.kept) {i : ι}
    {locks : List (ρ × Mode)}
    (hfree : ∀ l ∈ locks, G.kept l.1 = true → d.excluded i l = false) :
    ({ d with held := d.held ++ locks.map fun l => (i, l) } : Database ι σ ρ ε α).Compatible
      G.kept := by
  intro a ha b hb hne hl hkept
  rcases List.mem_append.mp ha with ha | ha <;> rcases List.mem_append.mp hb with hb | hb
  · exact h a ha b hb hne hl hkept
  · obtain ⟨l, hlocks, rfl⟩ := List.mem_map.mp hb
    exact excluded_eq_false.mp (hfree l hlocks (hl ▸ hkept)) a ha hne hl
  · obtain ⟨l, hlocks, rfl⟩ := List.mem_map.mp ha
    rw [Mode.compatible_comm]
    exact excluded_eq_false.mp (hfree l hlocks hkept) b hb (Ne.symm hne) hl.symm
  · obtain ⟨l, _, rfl⟩ := List.mem_map.mp ha
    obtain ⟨l', _, rfl⟩ := List.mem_map.mp hb
    exact absurd rfl hne

omit [DecidableEq ι] in
/-- What a session takes is nothing to the others. -/
private theorem guarded_append_of_ne {held : List (ι × ρ × Mode)} {store : σ} {i j : ι}
    {s : Session σ ρ ε α} (h : s.Guarded G held store j) (hj : j ≠ i) (locks : List (ρ × Mode)) :
    s.Guarded G (held ++ locks.map fun l => (i, l)) store j := by
  refine h.mono (fun l m => ⟨fun hl => List.mem_append_left _ hl, fun hl => ?_⟩)
    (Discipline.Later.refl _) fun l m _ => G.same_refl _ _ _
  rcases List.mem_append.mp hl with hl | hl
  · exact hl
  · obtain ⟨l', _, heq⟩ := List.mem_map.mp hl
    exact absurd (congrArg Prod.fst heq).symm hj

/-- A session notes what it takes. -/
private theorem session_stmt {d : Database ι σ ρ ε α} (h : d.Guarded G) {i : ι}
    {locks : σ → List (ρ × Mode)} {effect : σ → σ} {next : σ → Prog σ ρ ε α}
    (hrest : (d.session i).rest = .stmt locks effect next)
    (hfree : ∀ l ∈ locks ((d.session i).pending d.store), G.kept l.1 = true →
      d.excluded i l = false) :
    Session.Guarded G (d.held ++ (locks ((d.session i).pending d.store)).map fun l => (i, l)) d.store
      i ⟨next ((d.session i).pending d.store), fun s => effect ((d.session i).pending s)⟩ := by
  obtain ⟨last, notes, hlast, hknows, hnotes, howns, hguarded⟩ := h.session i
  rw [hrest] at hguarded
  refine ⟨d.store, _, Discipline.Later.refl _, ?_, ?_, ?_,
    hguarded d.store h.inv hlast hknows fun l hl hkept => ?_⟩
  · intro n hn
    rcases List.mem_append.mp hn with hn | hn
    · exact hknows n hn
    · obtain ⟨l, _, rfl⟩ := List.mem_map.mp hn
      exact G.same_refl _ _ _
  · intro n hn
    rcases List.mem_append.mp hn with hn | hn
    · exact ⟨(hnotes n hn).1, List.mem_append_left _ (hnotes n hn).2⟩
    · obtain ⟨l, hl, rfl⟩ := List.mem_map.mp hn
      obtain ⟨hl, hkept⟩ := List.mem_filter.mp hl
      exact ⟨hkept, List.mem_append_right _ (List.mem_map_of_mem hl)⟩
  · intro l hl hkept
    rcases List.mem_append.mp hl with hl | hl
    · obtain ⟨s₀, hs₀⟩ := howns l hl hkept
      exact ⟨s₀, List.mem_append_left _ hs₀⟩
    · obtain ⟨l', hl', heq⟩ := List.mem_map.mp hl
      obtain rfl : l' = (l, .exclusive) := congrArg Prod.snd heq
      exact ⟨d.store, List.mem_append_right _ (Discipline.mem_taken hl' hkept)⟩
  · -- nobody else is at work on what the lock guards
    rcases h.guard l hkept with hl' | ⟨j, hj⟩
    · exact Or.inl hl'
    · by_cases hij : j = i
      · exact Or.inr (howns l (hij ▸ hj) hkept)
      · have hcompatible := excluded_eq_false.mp (hfree _ hl hkept) _ hj hij rfl
        simp [Mode.compatible] at hcompatible

/-- A statement takes its locks. -/
private theorem guarded_stmt {d : Database ι σ ρ ε α} (h : d.Guarded G) {i : ι}
    {locks : σ → List (ρ × Mode)} {effect : σ → σ} {next : σ → Prog σ ρ ε α}
    (hrest : (d.session i).rest = .stmt locks effect next)
    (hfree : ∀ l ∈ locks ((d.session i).pending d.store), G.kept l.1 = true →
      d.excluded i l = false) :
    (Database.put { d with held := d.held ++ (locks ((d.session i).pending d.store)).map fun l =>
        (i, l) } i
      ⟨next ((d.session i).pending d.store), fun s =>
        effect ((d.session i).pending s)⟩).Guarded G :=
  guarded_put h.inv (compatible_append h.compatible hfree)
    (fun j hj => guarded_append_of_ne (h.session j) hj _) (session_stmt h hrest hfree)
    fun l hkept => (h.guard l hkept).imp_right (Exists.imp fun _ hj => List.mem_append_left _ hj)

/-- A commit gives back the locks that are not kept. -/
private theorem guarded_commit {d : Database ι σ ρ ε α} (h : d.Guarded G) {i : ι} {keep : List ρ}
    {next : Prog σ ρ ε α} (hrest : (d.session i).rest = .commit keep next)
    (hallowed : G.allowed d.store ((d.session i).pending d.store))
    (htimely : d.Timely G (.step i : Event ι ε)) :
    (Database.put
      { d with
        store := (d.session i).pending d.store
        held := d.held.filter fun h => h.1 ≠ i ∨ h.2.1 ∈ keep } i ⟨next, id⟩).Guarded G := by
  obtain ⟨last, notes, hlast, hknows, hnotes, howns, hguarded⟩ := h.session i
  rw [hrest] at hguarded
  obtain ⟨hinv, hcommits, hsame, hother, hown, hguarded⟩ :=
    hguarded d.store h.inv hlast hknows hallowed fun n hn => htimely _ (hnotes n hn).2 rfl
  have hlater : G.Later d.store ((d.session i).pending d.store) :=
    (Discipline.Later.refl _).next hcommits
  have hheld : ∀ h, h ∈ d.held.filter (fun h => h.1 ≠ i ∨ h.2.1 ∈ keep) ↔
      h ∈ d.held ∧ (h.1 ≠ i ∨ h.2.1 ∈ keep) := by
    simp [List.mem_filter]
  refine guarded_put hinv ?_ ?_ ?_ fun l hkept => ?_
  · intro a ha b hb
    exact h.compatible a (List.mem_of_mem_filter ha) b (List.mem_of_mem_filter hb)
  · intro j hj
    refine (h.session j).mono (fun l m => ?_) hlater fun l m hl => hsame l m fun n hn hl' => ?_
    · rw [hheld]
      exact ⟨fun hl => ⟨hl, Or.inl hj⟩, And.left⟩
    · exact h.compatible _ (hnotes n hn).2 _ hl (Ne.symm hj) hl' (hnotes n hn).1
  · refine ⟨_, _, Discipline.Later.refl _, fun n hn => ?_, fun n hn => ?_, fun l hl hkept => ?_,
      hguarded⟩
    · obtain ⟨s₀, -, -, hstore⟩ := mem_refreshed.mp hn
      rw [hstore]
      exact G.same_refl _ _ _
    · obtain ⟨s₀, hn, hk, -⟩ := mem_refreshed.mp hn
      exact ⟨(hnotes _ hn).1, (hheld _).mpr ⟨(hnotes _ hn).2, Or.inr hk⟩⟩
    · obtain ⟨hl, hk⟩ := (hheld _).mp hl
      obtain ⟨s₀, hs₀⟩ := howns l hl hkept
      exact ⟨_, mem_refreshed.mpr ⟨s₀, hs₀, by simpa using hk, rfl⟩⟩
  · -- what is given back was restored, what is kept is still at work
    by_cases howned : Owns notes l
    · by_cases hk : l ∈ keep
      · obtain ⟨s₀, hs₀⟩ := howned
        exact Or.inr ⟨i, (hheld _).mpr ⟨(hnotes _ hs₀).2, Or.inr hk⟩⟩
      · exact Or.inl (hown l howned hk)
    · rcases h.guard l hkept with hl | ⟨j, hl⟩
      · exact Or.inl (hother l howned hl)
      · have hj : j ≠ i := fun hj => howned (howns l (hj ▸ hl) hkept)
        exact Or.inr ⟨j, (hheld _).mpr ⟨hl, Or.inl hj⟩⟩

/-- A rollback gives back all locks. -/
private theorem guarded_rollback {d : Database ι σ ρ ε α} (h : d.Guarded G) {i : ι}
    {next : Prog σ ρ ε α} (hrest : (d.session i).rest = .rollback next) :
    (Database.put { d with held := d.held.filter fun h => h.1 ≠ i } i ⟨next, id⟩).Guarded G := by
  obtain ⟨last, notes, hlast, hknows, hnotes, howns, hguarded⟩ := h.session i
  rw [hrest] at hguarded
  obtain ⟨hrestored, hguarded⟩ := hguarded
  have hheld : ∀ h, h ∈ d.held.filter (fun h => h.1 ≠ i) ↔ h ∈ d.held ∧ h.1 ≠ i := by
    simp [List.mem_filter]
  refine guarded_put h.inv ?_ ?_ ?_ fun l hkept => ?_
  · intro a ha b hb
    exact h.compatible a (List.mem_of_mem_filter ha) b (List.mem_of_mem_filter hb)
  · intro j hj
    refine (h.session j).mono (fun l m => ?_) (Discipline.Later.refl _)
      fun l m _ => G.same_refl _ _ _
    rw [hheld]
    exact ⟨fun hl => ⟨hl, hj⟩, And.left⟩
  · refine ⟨last, [], hlast, G.knows_nil, by simp, fun l hl _ => ?_, hguarded⟩
    exact absurd rfl ((hheld _).mp hl).2
  · rcases h.guard l hkept with hl | ⟨j, hl⟩
    · exact Or.inl hl
    · by_cases hj : j = i
      · exact Or.inl (hrestored d.store h.inv hlast hknows l (howns l (hj ▸ hl) hkept))
      · exact Or.inr ⟨j, (hheld _).mpr ⟨hl, hj⟩⟩

/-- One permitted event keeps all that is known. -/
theorem guarded_next {d : Database ι σ ρ ε α} (h : d.Guarded G) {e : Event ι ε}
    (hpermitted : d.Permitted enforced G e) : (d.next enforced e).Guarded G := by
  obtain ⟨he, huncut, hallowed, htimely⟩ := hpermitted
  cases e with
  | abort i e =>
    rw [next]
    split
    · exact h
    · exact guarded_replace h.inv h.compatible (fun j _ => h.session j) (fun hended => by cases hended)
        (fun _ l hl hkept => huncut _ hl rfl rfl hkept) h.guard
  | step i =>
    rw [next] at hallowed ⊢
    cases hrest : (d.session i).rest with
    | done a => exact h
    | fail e => exact h
    | stmt locks effect next =>
      simp only
      split
      case isTrue => exact h
      case isFalse hfree =>
        exact guarded_stmt h hrest fun l hl hkept => wanted_free hrest he hfree hl hkept
    | commit keep next =>
      simp only [hrest, store_put] at hallowed ⊢
      exact guarded_commit h hrest hallowed htimely
    | rollback next => exact guarded_rollback h hrest

/-- What one permitted event commits. -/
theorem guarded_commits {d : Database ι σ ρ ε α} (h : d.Guarded G) {e : Event ι ε}
    (hallowed : G.allowed d.store (d.next enforced e).store) (htimely : d.Timely G e) :
    (d.next enforced e).store = d.store ∨ G.commits d.store (d.next enforced e).store := by
  cases e with
  | abort i e =>
    rw [next]
    split
    · exact Or.inl rfl
    · exact Or.inl store_put
  | step i =>
    obtain ⟨last, notes, hlast, hknows, hnotes, -, hguarded⟩ := h.session i
    rw [next] at hallowed ⊢
    cases hrest : (d.session i).rest with
    | done a => exact Or.inl rfl
    | fail e => exact Or.inl rfl
    | stmt locks effect next =>
      simp only
      split
      · exact Or.inl rfl
      · exact Or.inl store_put
    | commit keep next =>
      rw [hrest] at hguarded
      simp only [hrest, store_put] at hallowed ⊢
      exact Or.inr (hguarded d.store h.inv hlast hknows hallowed
        fun n hn => htimely _ (hnotes n hn).2 rfl).2.1
    | rollback next => exact Or.inl store_put

/-- A run of permitted events keeps all that is known, and the committed store only changes by
commits that keep the discipline. -/
theorem guarded_run {d : Database ι σ ρ ε α} (hd : d.Guarded G) {es : List (Event ι ε)}
    (hes : EachStep (next enforced) (Permitted enforced G) d es) :
    (runFrom (next enforced) d es).Guarded G ∧
      G.Later d.store (runFrom (next enforced) d es).store := by
  induction es generalizing d with
  | nil => exact ⟨hd, Discipline.Later.refl _⟩
  | cons e es ih =>
    obtain ⟨hguarded, hlater⟩ := ih (guarded_next hd hes.1) hes.2
    refine ⟨hguarded, Relation.ReflTransGen.trans ?_ hlater⟩
    rcases guarded_commits hd hes.1.allowed hes.1.timely with hstore | hstore
    · rw [hstore]
    · exact (Discipline.Later.refl _).next hstore

omit [DecidableEq ι] in
theorem guarded_start {store : σ} {program : ι → Prog σ ρ ε α} (hinv : G.inv store)
    (hguard : ∀ l, G.kept l = true → G.guard l store)
    (hprogram : ∀ i, (program i).Guarded G (Prog.Guarded.AtEnd G) store [] id) :
    (start store program).Guarded G :=
  ⟨hinv, by simp [start, Compatible], fun i => ⟨store, [], Discipline.Later.refl store, G.knows_nil,
    by simp, fun l hl _ => absurd hl List.not_mem_nil, hprogram i⟩, fun l hl => Or.inl (hguard l hl)⟩

/-- A session that has done nothing yet holds no lock. -/
theorem not_held_of_untouched {d : Database ι σ ρ ε α} {i : ι} (h : ∀ l ∈ d.held, l.1 ≠ i)
    {es : List (Event ι ε)} (hes : ∀ e ∈ es, e.session ≠ i) :
    ∀ l ∈ (runFrom (next enforced) d es).held, l.1 ≠ i := by
  induction es generalizing d with
  | nil => exact h
  | cons e es ih =>
    refine ih (fun l hl => ?_) fun e' he' => hes e' (List.mem_cons_of_mem _ he')
    have hi : e.session ≠ i := hes e List.mem_cons_self
    cases e with
    | abort j e =>
      rw [next] at hl
      split at hl
      · exact h l hl
      · exact h l (mem_held_put hl)
    | step j =>
      rw [next] at hl
      split at hl
      · exact h l hl
      · exact h l hl
      · dsimp only at hl
        split at hl
        · exact h l hl
        · rcases List.mem_append.mp (mem_held_put hl) with hl | hl
          · exact h l hl
          · obtain ⟨l', -, rfl⟩ := List.mem_map.mp hl
            exact hi
      · exact h l (List.mem_of_mem_filter (mem_held_put hl))
      · exact h l (List.mem_of_mem_filter (mem_held_put hl))

/-- No session is at work: each one has ended, or has done nothing yet. -/
def Quiet (d : Database ι σ ρ ε α) (es : List (Event ι ε)) : Prop :=
  ∀ i, (d.session i).rest.ended = true ∨ ∀ e ∈ es, e.session ≠ i

/-- What the locks guard holds whenever no session is at work. -/
theorem guard_of_quiet {store : σ} {program : ι → Prog σ ρ ε α} {es : List (Event ι ε)}
    (h : (runFrom (next enforced) (start store program) es).Guarded G)
    (hquiet : (runFrom (next enforced) (start store program) es).Quiet es) {l : ρ}
    (hkept : G.kept l = true) : G.guard l (runFrom (next enforced) (start store program) es).store := by
  rcases h.guard l hkept with hl | ⟨i, hl⟩
  · exact hl
  · rcases hquiet i with hended | huntouched
    · exact (h.session i).restored h.inv hended hl hkept
    · exact absurd rfl (not_held_of_untouched (d := start store program)
        (fun _ hl => absurd hl List.not_mem_nil) huntouched _ hl)

end Database

end Soundness

end Relational.ReadCommitted
