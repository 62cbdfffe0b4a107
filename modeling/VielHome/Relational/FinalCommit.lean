import VielHome.Relational.Embedding

/-!
# Programs whose commit is their last step

A program may commit once, and be done with it (`Prog.CommitsLast`): what it reads before, what it
catches and what it does instead after an error stays its own affair. A session that runs such a
program has changed nothing as long as it has not returned, and nothing at all when it failed
(`unchanged_of_ne_done`).
-/

namespace Relational.ReadCommitted

variable {ι σ ρ ε α β : Type}

namespace Prog

/-- A program that neither commits nor rolls back. -/
def Open : Prog σ ρ ε α → Prop
  | .done _ => True
  | .fail _ => True
  | .stmt _ _ next => ∀ v, (next v).Open
  | .commit _ _ => False
  | .rollback _ => False

/-- A program that commits, if at all, as its last step. -/
def CommitsLast : Prog σ ρ ε α → Prop
  | .done _ => True
  | .fail _ => True
  | .stmt _ _ next => ∀ v, (next v).CommitsLast
  | .commit _ next => ∃ a, next = .done a
  | .rollback next => next.CommitsLast

namespace Open

theorem query (q : σ → α) : (Prog.query q : Prog σ ρ ε α).Open := fun _ => trivial

theorem queryUnder (locks : σ → List (ρ × Mode)) (q : σ → α) :
    (Prog.queryUnder locks q : Prog σ ρ ε α).Open := fun _ => trivial

theorem require (c : Prop) [Decidable c] (e : ε) : (Prog.require c e : Prog σ ρ ε PUnit).Open := by
  rw [Prog.require]
  split <;> trivial

theorem expect (o : Option α) (e : ε) : (Prog.expect o e : Prog σ ρ ε α).Open := by
  cases o <;> trivial

theorem writeIf {locks : List (ρ × Mode)} {ok : σ → Bool} {e : ε} {w : σ → σ} :
    (Prog.writeIf locks ok e w : Prog σ ρ ε PUnit).Open := by
  intro v
  dsimp only
  split <;> trivial

theorem writeUnless {locks : List (ρ × Mode)} {refused : σ → Option ε} {w : σ → σ} :
    (Prog.writeUnless locks refused w : Prog σ ρ ε PUnit).Open := by
  intro v
  dsimp only
  split <;> trivial

theorem bind {p : Prog σ ρ ε α} {f : α → Prog σ ρ ε β} (h : p.Open) (hf : ∀ a, (f a).Open) :
    (p >>= f).Open := by
  induction p with
  | done a => exact hf a
  | fail e => trivial
  | stmt locks effect next ih => exact fun v => ih v (h v)
  | commit keep next ih => exact h.elim
  | rollback next ih => exact h.elim

theorem of_readOnly {p : Prog σ ρ ε α} (h : p.ReadOnly) : p.Open := by
  induction p with
  | done a => trivial
  | fail e => trivial
  | stmt locks effect next ih => exact fun v => ih v (h.2.2 v)
  | commit keep next ih => exact h.elim
  | rollback next ih => exact h.elim

/-- Alone, an open program leaves the committed store. -/
theorem solo_committed {p : Prog σ ρ ε α} (h : p.Open) (c w : σ) : (p.solo c w).2.1 = c := by
  induction p generalizing w with
  | done a => rfl
  | fail e => rfl
  | stmt locks effect next ih => exact ih w (h w) (effect w)
  | commit keep next ih => exact h.elim
  | rollback next ih => exact h.elim

end Open

/-- Alone, a program that only reads leaves both stores. -/
theorem ReadOnly.solo {p : Prog σ ρ ε α} (h : p.ReadOnly) (s : σ) :
    p.solo s s = (p.outcome s, s, s) := by
  induction p with
  | done a => rfl
  | fail e => rfl
  | stmt locks effect next ih =>
    obtain ⟨-, rfl, hnext⟩ := h
    exact ih s (hnext s)
  | commit keep next ih => exact h.elim
  | rollback next ih => exact h.elim

/-! ### What a program that only reads returns -/

section Outcome

variable {s : σ}

theorem outcome_done {a b : α} : (done a : Prog σ ρ ε α).outcome s = .ok b ↔ a = b := by
  constructor
  · intro h
    exact Except.ok.inj h
  · rintro rfl
    rfl

theorem outcome_query {q : σ → α} {a : α} :
    (query q : Prog σ ρ ε α).outcome s = .ok a ↔ q s = a := by
  have hquery : (query q : Prog σ ρ ε α).outcome s = (done (q s) : Prog σ ρ ε α).outcome s := rfl
  rw [hquery, outcome_done]

theorem outcome_require {c : Prop} [Decidable c] {e : ε} :
    (require c e : Prog σ ρ ε PUnit).outcome s = .ok ⟨⟩ ↔ c := by
  by_cases hc : c
  · rw [require, if_pos hc]
    exact iff_of_true rfl hc
  · rw [require, if_neg hc]
    exact iff_of_false (fun h => by cases h) hc

theorem outcome_expect {o : Option α} {e : ε} {a : α} :
    (expect o e : Prog σ ρ ε α).outcome s = .ok a ↔ o = some a := by
  cases o with
  | none => exact iff_of_false (fun h => by cases h) (fun h => by cases h)
  | some b => exact outcome_done.trans Option.some_inj.symm

theorem ReadOnly.outcome_bind {p : Prog σ ρ ε α} {f : α → Prog σ ρ ε β} (h : p.ReadOnly) {b : β} :
    (p >>= f).outcome s = .ok b ↔ ∃ a, p.outcome s = .ok a ∧ (f a).outcome s = .ok b := by
  have hsolo := solo_bind p f s s
  rw [h.solo s] at hsolo
  rw [outcome, hsolo]
  cases hp : p.outcome s with
  | ok a =>
    constructor
    · exact fun hf => ⟨a, rfl, hf⟩
    · rintro ⟨a', ha', hf⟩
      cases ha'
      exact hf
  | error e =>
    constructor
    · intro hf
      cases hf
    · rintro ⟨a, ha, -⟩
      cases ha

theorem ReadOnly.outcome_seq {p : Prog σ ρ ε PUnit} {f : PUnit → Prog σ ρ ε β} (h : p.ReadOnly)
    {b : β} : (p >>= f).outcome s = .ok b ↔ p.outcome s = .ok ⟨⟩ ∧ (f ⟨⟩).outcome s = .ok b := by
  rw [h.outcome_bind]
  exact ⟨fun ⟨_, hp, hf⟩ => ⟨hp, hf⟩, fun ⟨hp, hf⟩ => ⟨⟨⟩, hp, hf⟩⟩

theorem ReadOnly.outcome_forEach {bs : List β} {f : β → Prog σ ρ ε PUnit}
    (h : ∀ b, (f b).ReadOnly) :
    (Prog.forEach bs f).outcome s = .ok ⟨⟩ ↔ ∀ b ∈ bs, (f b).outcome s = .ok ⟨⟩ := by
  induction bs with
  | nil => exact iff_of_true rfl fun b hb => absurd hb List.not_mem_nil
  | cons b bs ih =>
    rw [forEach_cons, (h b).outcome_seq, List.forall_mem_cons, ih]

end Outcome

namespace CommitsLast

/-- The commit comes after what is open. -/
theorem bind {p : Prog σ ρ ε α} {f : α → Prog σ ρ ε β} (h : p.Open)
    (hf : ∀ a, (f a).CommitsLast) : (p >>= f).CommitsLast := by
  induction p with
  | done a => exact hf a
  | fail e => trivial
  | stmt locks effect next ih => exact fun v => ih v (h v)
  | commit keep next ih => exact h.elim
  | rollback next ih => exact h.elim

/-- A transaction whose result is answered. -/
theorem transaction {p : Prog σ ρ ε α} (h : p.Open) (g : α → β) :
    (Prog.transaction p >>= fun a => .done (g a)).CommitsLast := by
  rw [Prog.transaction, bind_assoc]
  exact bind h fun a => ⟨g a, rfl⟩

theorem tryCatch {p : Prog σ ρ ε α} {handler : ε → Prog σ ρ ε α} (h : p.CommitsLast)
    (hhandler : ∀ e, (handler e).CommitsLast) : (p.tryCatch handler).CommitsLast := by
  induction p with
  | done a => trivial
  | fail e => exact hhandler e
  | stmt locks effect next ih => exact fun v => ih v (h v)
  | commit keep next ih =>
    obtain ⟨a, rfl⟩ := h
    exact ⟨a, rfl⟩
  | rollback next ih => exact ih h

end CommitsLast

/-- What is computed from an answer can be computed before an error is caught. -/
theorem tryCatch_bind_done (p : Prog σ ρ ε α) (handler : ε → Prog σ ρ ε α) (g : α → β) :
    (p.tryCatch handler >>= fun a => done (g a)) =
      (p >>= fun a => done (g a)).tryCatch fun e => handler e >>= fun a => done (g a) := by
  induction p with
  | done a => rfl
  | fail e => rfl
  | stmt locks effect next ih => exact congrArg (stmt locks effect) (funext ih)
  | commit keep next ih => exact congrArg (commit keep) ih
  | rollback next ih => exact congrArg rollback ih

end Prog

namespace Database

variable [DecidableEq ι] [DecidableEq ρ] {enforced : ρ → Bool} {d : Database ι σ ρ ε α} {i : ι}

/-- An event leaves the other sessions as they are. -/
theorem session_next_ne {e : Event ι ε} (h : i ≠ e.session) :
    (d.next enforced e).session i = d.session i := by
  cases e with
  | step j =>
    have h : i ≠ j := h
    have hsession : ∀ {rest}, (d.session j).rest = rest →
        d.session j = ⟨rest, (d.session j).pending⟩ := by
      rintro _ rfl
      rfl
    cases hrest : (d.session j).rest with
    | done a => rw [next, hrest]
    | fail e => rw [next, hrest]
    | stmt locks effect rest =>
      rcases (next_stmt (hsession hrest) : d.next enforced (.step j) = d ∨ _) with hstep | hstep
      · rw [hstep]
      · rw [hstep, session_put_ne h]
    | commit keep rest => rw [next_commit (hsession hrest), session_put_ne h]
    | rollback rest => rw [next_rollback (hsession hrest), session_put_ne h]
  | abort j e =>
    rw [next]
    split
    · rfl
    · exact session_put_ne h

/-- A session that has returned has returned for good. -/
theorem done_next {a : α} (h : (d.session i).rest = .done a) (e : Event ι ε) :
    ((d.next enforced e).session i).rest = .done a := by
  have hended : (d.session i).rest.ended = true := by
    rw [h]
    rfl
  by_cases he : i = e.session
  · cases e with
    | step j =>
      obtain rfl : i = j := he
      rw [next_ended hended, h]
    | abort j e =>
      obtain rfl : i = j := he
      rw [next, if_pos hended, h]
  · rw [session_next_ne he, h]

theorem done_run {a : α} (h : (d.session i).rest = .done a) (es : List (Event ι ε)) :
    ((runFrom (next enforced) d es).session i).rest = .done a := by
  induction es generalizing d with
  | nil => exact h
  | cons e es ih => exact ih (done_next h e)

/-- A session that runs on as such a program, and changes the store only to return. -/
theorem commitsLast_next (enforced : ρ → Bool) (h : (d.session i).rest.CommitsLast) {e : Event ι ε}
    (he : e.session = i) :
    ((d.next enforced e).session i).rest.CommitsLast ∧
      ((d.next enforced e).store = d.store ∨
        ∃ a, ((d.next enforced e).session i).rest = .done a) := by
  cases e with
  | step j =>
    obtain rfl : j = i := he
    have hsession : ∀ {rest}, (d.session j).rest = rest →
        d.session j = ⟨rest, (d.session j).pending⟩ := by
      rintro _ rfl
      rfl
    cases hrest : (d.session j).rest with
    | done a =>
      rw [next_ended (by rw [hrest]; rfl)]
      exact ⟨h, Or.inl rfl⟩
    | fail e =>
      rw [next_ended (by rw [hrest]; rfl)]
      exact ⟨h, Or.inl rfl⟩
    | stmt locks effect rest =>
      rcases (next_stmt (hsession hrest) : d.next enforced (.step j) = d ∨ _) with hstep | hstep
      · rw [hstep]
        exact ⟨h, Or.inl rfl⟩
      · rw [hstep, session_put_self]
        rw [hrest] at h
        exact ⟨h _, Or.inl store_put⟩
    | commit keep rest =>
      rw [hrest] at h
      -- the commit of such a program is its last statement
      obtain ⟨a, rfl⟩ := h
      rw [next_commit (hsession hrest), session_put_self]
      exact ⟨trivial, Or.inr ⟨a, rfl⟩⟩
    | rollback rest =>
      rw [hrest] at h
      rw [next_rollback (hsession hrest), session_put_self]
      exact ⟨h, Or.inl store_put⟩
  | abort j e =>
    obtain rfl : j = i := he
    rw [next]
    split
    · exact ⟨h, Or.inl rfl⟩
    · rw [session_put_self]
      exact ⟨trivial, Or.inl store_put⟩

/-- A call that has not returned at the end of a run has changed nothing in it. -/
theorem unchanged_of_ne_done (h : (d.session i).rest.CommitsLast) {es : List (Event ι ε)}
    (hend : ∀ a, ((runFrom (next enforced) d es).session i).rest ≠ .done a) :
    EachStep (next enforced) (fun d e => e.session = i → (d.next enforced e).store = d.store) d
      es := by
  induction es generalizing d with
  | nil => trivial
  | cons e es ih =>
    by_cases he : e.session = i
    · obtain ⟨hrest, hstore⟩ := commitsLast_next enforced h he
      refine ⟨fun _ => hstore.resolve_right ?_, ih hrest hend⟩
      rintro ⟨a, ha⟩
      exact hend a (done_run ha es)
    · refine ⟨fun h => absurd h he, ih ?_ hend⟩
      rw [session_next_ne (Ne.symm he)]
      exact h

end Database

end Relational.ReadCommitted
