import VielHome.Relational.FinalCommit

/-!
# What a session that only reads can tell

A session that writes nothing sees of the others only the committed stores that its statements
come upon. So what is left of it after a run is a function of these stores (`session_run`), and
two programs that cannot tell related stores apart (`Prog.Alike`) answer alike in any two runs, as
long as the stores that they come upon are related one by one (`result_of_alike`): whatever the other
sessions do in either of them, and whenever they do it.
-/

namespace Relational.ReadCommitted

variable {ι σ ρ ε α β : Type} {E : σ → σ → Prop}

namespace Prog

/-- How a program has ended, if it has. -/
def result : Prog σ ρ ε α → Option (Except ε α)
  | .done a => some (.ok a)
  | .fail e => some (.error e)
  | _ => none

/-- Two programs that read in step, and end in the same way as long as what they read is
related. -/
def Alike (E : σ → σ → Prop) : Prog σ ρ ε α → Prog σ ρ ε α → Prop
  | .done a, .done b => a = b
  | .fail e, .fail e' => e = e'
  | .stmt _ _ next, .stmt _ _ next' => ∀ v v', E v v' → (next v).Alike E (next' v')
  | _, _ => False

namespace Alike

theorem of_done {a b : α} (h : (done a : Prog σ ρ ε α).Alike E (done b)) : a = b := h

theorem result {p p' : Prog σ ρ ε α} (h : p.Alike E p') : p.result = p'.result := by
  cases p with
  | done a =>
    cases p' with
    | done b => exact congrArg (fun a => some (Except.ok a)) h
    | _ => exact h.elim
  | fail e =>
    cases p' with
    | fail e' => exact congrArg (fun e => some (Except.error e)) h
    | _ => exact h.elim
  | stmt locks effect next =>
    cases p' with
    | stmt locks' effect' next' => rfl
    | _ => exact h.elim
  | commit keep next => exact h.elim
  | rollback next => exact h.elim

theorem query {q q' : σ → β} {f f' : β → Prog σ ρ ε α}
    (h : ∀ v v', E v v' → (f (q v)).Alike E (f' (q' v'))) :
    (Prog.query q >>= f).Alike E (Prog.query q' >>= f') :=
  h

/-- A read that related stores answer alike. -/
theorem read {q : σ → α} (h : ∀ v v', E v v' → q v = q v') :
    (Prog.query q : Prog σ ρ ε α).Alike E (Prog.query q) :=
  h

theorem require {c : Prop} [Decidable c] {e : ε} :
    (Prog.require c e : Prog σ ρ ε PUnit).Alike E (Prog.require c e) := by
  rw [Prog.require]
  split <;> rfl

theorem expect {o : Option α} {e : ε} :
    (Prog.expect o e : Prog σ ρ ε α).Alike E (Prog.expect o e) := by
  cases o <;> rfl

theorem bind {p p' : Prog σ ρ ε β} {f f' : β → Prog σ ρ ε α} (h : p.Alike E p')
    (hf : ∀ b, (f b).Alike E (f' b)) : (p >>= f).Alike E (p' >>= f') := by
  induction p generalizing p' with
  | done a =>
    cases p' with
    | done b => exact of_done h ▸ hf a
    | _ => exact h.elim
  | fail e =>
    cases p' with
    | fail e' => exact h
    | _ => exact h.elim
  | stmt locks effect next ih =>
    cases p' with
    | stmt locks' effect' next' => exact fun v v' hv => ih v (h v v' hv)
    | _ => exact h.elim
  | commit keep next ih => exact h.elim
  | rollback next ih => exact h.elim

theorem forEach {bs : List β} {f : β → Prog σ ρ ε PUnit} (h : ∀ b ∈ bs, (f b).Alike E (f b)) :
    (Prog.forEach bs f).Alike E (Prog.forEach bs f) := by
  induction bs with
  | nil => rfl
  | cons b bs ih =>
    exact (h b List.mem_cons_self).bind fun _ => ih fun b' hb' => h b' (List.mem_cons_of_mem b hb')

end Alike

/-- What is left of a program that only reads after an event that came upon a store. -/
def meet (p : Prog σ ρ ε α) : Event ι ε × σ → Prog σ ρ ε α
  | (.step _, s) =>
    match p with
    | .stmt _ _ next => next s
    | _ => p
  | (.abort _ e, _) => if p.ended then p else fail e

/-- What is left of a program that only reads, after all that came upon a store. -/
def reading (p : Prog σ ρ ε α) (seen : List (Event ι ε × σ)) : Prog σ ρ ε α := seen.foldl meet p

theorem meet_of_ended {p : Prog σ ρ ε α} (h : p.ended = true) (x : Event ι ε × σ) :
    p.meet x = p := by
  obtain ⟨e, s⟩ := x
  cases e with
  | step i =>
    cases p with
    | stmt locks effect next => cases h
    | _ => rfl
  | abort i e => exact if_pos h

theorem Alike.ended {p p' : Prog σ ρ ε α} (h : p.Alike E p') : p.ended = p'.ended := by
  cases p <;> cases p' <;> first | rfl | exact h.elim

theorem Alike.meet {p p' : Prog σ ρ ε α} (h : p.Alike E p') {s s' : σ} (hs : E s s')
    (e : Event ι ε) : (p.meet (e, s)).Alike E (p'.meet (e, s')) := by
  by_cases hended : p.ended = true
  · rw [meet_of_ended hended, meet_of_ended (h.ended ▸ hended)]
    exact h
  · cases e with
    | abort i e =>
      have hmeet : ∀ {q : Prog σ ρ ε α} {v : σ}, ¬ q.ended = true →
          q.meet (Event.abort i e, v) = fail e := fun h => if_neg h
      rw [hmeet hended, hmeet fun h' => hended (h.ended.trans h')]
      rfl
    | step i =>
      cases p with
      | stmt locks effect next =>
        cases p' with
        | stmt locks' effect' next' => exact h s s' hs
        | _ => exact h.elim
      | done a => exact absurd rfl hended
      | fail e => exact absurd rfl hended
      | commit keep next => exact h.elim
      | rollback next => exact h.elim

/-- Programs that cannot tell related stores apart are left alike. -/
theorem Alike.reading {p p' : Prog σ ρ ε α} (h : p.Alike E p')
    {seen seen' : List (Event ι ε × σ)}
    (hseen : List.Forall₂ (fun x x' => x.1 = x'.1 ∧ E x.2 x'.2) seen seen') :
    (p.reading seen).Alike E (p'.reading seen') := by
  induction hseen generalizing p p' with
  | nil => exact h
  | @cons x x' seen seen' hx _ ih =>
    obtain ⟨e, s⟩ := x
    obtain ⟨e', s'⟩ := x'
    obtain ⟨rfl, hs⟩ := hx
    exact ih (h.meet hs e)

theorem ReadOnly.meet {p : Prog σ ρ ε α} (h : p.ReadOnly) (x : Event ι ε × σ) :
    (p.meet x).ReadOnly := by
  obtain ⟨e, s⟩ := x
  cases e with
  | step i =>
    cases p with
    | stmt locks effect next => exact h.2.2 s
    | _ => exact h
  | abort i e => exact .ite h trivial

end Prog

namespace Database

variable [DecidableEq ι] [DecidableEq ρ] {enforced : ρ → Bool} {d d' : Database ι σ ρ ε α} {i : ι}

/-- The events of a session in a run, each with the committed store that it came upon. -/
def seen (enforced : ρ → Bool) (i : ι) : Database ι σ ρ ε α → List (Event ι ε) →
    List (Event ι ε × σ)
  | _, [] => []
  | d, e :: es =>
    if e.session = i then (e, d.store) :: seen enforced i (d.next enforced e) es
    else seen enforced i (d.next enforced e) es

theorem seen_cons {e : Event ι ε} {es : List (Event ι ε)} : seen enforced i d (e :: es) =
    if e.session = i then (e, d.store) :: seen enforced i (d.next enforced e) es
    else seen enforced i (d.next enforced e) es := rfl

/-- An event of a session that only reads. -/
private theorem session_next_readOnly {p : Prog σ ρ ε α} (hp : p.ReadOnly)
    (hsession : d.session i = ⟨p, id⟩) {e : Event ι ε} (he : e.session = i) :
    (d.next enforced e).session i = ⟨p.meet (e, d.store), id⟩ := by
  subst he
  have hput : ∀ {d' : Database ι σ ρ ε α} {q : Prog σ ρ ε α},
      (d'.put e.session ⟨q, id⟩).session e.session = ⟨q, id⟩ := by
    intro d' q
    rw [session_put_self, ite_self]
  by_cases hended : p.ended = true
  · -- nothing happens to a session that has ended
    have hsame : d.next enforced e = d := by
      cases e with
      | step i => exact next_ended (hsession ▸ hended)
      | abort i e => exact if_pos (hsession ▸ hended)
    rw [hsame, hsession, Prog.meet_of_ended hended]
  · cases e with
    | abort i e =>
      rw [next, if_neg (hsession ▸ hended), Prog.meet, if_neg hended]
      exact hput
    | step i =>
      cases p with
      | stmt locks effect rest =>
        obtain ⟨hlocks, rfl, -⟩ := hp
        have hsession : d.session i = ⟨.stmt locks id rest, id⟩ := hsession
        -- no lock is wanted, so the statement does not wait
        have hfree : ((locks d.store).any fun l => enforced l.1 && d.excluded i l) = false := by
          rw [hlocks]
          rfl
        have hstep : d.next enforced (.step i) = ({ d with
            held := d.held ++ (locks d.store).map fun l => (i, l) } : Database ι σ ρ ε α).put i
              ⟨rest d.store, id⟩ := by
          rw [next, hsession]
          exact if_neg (by simpa using hfree)
        rw [hstep]
        exact hput
      | done a => exact absurd rfl hended
      | fail e => exact absurd rfl hended
      | commit keep rest => exact hp.elim
      | rollback rest => exact hp.elim

/-- What is left of a session that only reads is a function of what its events came upon. -/
theorem session_run {p : Prog σ ρ ε α} (hp : p.ReadOnly) (hsession : d.session i = ⟨p, id⟩)
    (es : List (Event ι ε)) :
    (runFrom (next enforced) d es).session i = ⟨p.reading (seen enforced i d es), id⟩ := by
  induction es generalizing d p with
  | nil => exact hsession
  | cons e es ih =>
    rw [runFrom_cons, seen_cons]
    split
    case isTrue he =>
      exact ih (hp.meet (e, d.store)) (session_next_readOnly hp hsession he)
    case isFalse he =>
      exact ih hp ((session_next_ne fun hi => he hi.symm).trans hsession)

/-- A session that only reads and cannot tell related stores apart ends alike in any two runs that
show it related stores. -/
theorem result_of_alike {p p' : Prog σ ρ ε α} (hp : p.ReadOnly) (hp' : p'.ReadOnly)
    (halike : p.Alike E p') (hsession : d.session i = ⟨p, id⟩) (hsession' : d'.session i = ⟨p', id⟩)
    {es es' : List (Event ι ε)}
    (hseen : List.Forall₂ (fun x x' => x.1 = x'.1 ∧ E x.2 x'.2) (seen enforced i d es)
      (seen enforced i d' es')) :
    ((runFrom (next enforced) d es).session i).rest.result =
      ((runFrom (next enforced) d' es').session i).rest.result := by
  rw [session_run hp hsession, session_run hp' hsession']
  exact (halike.reading hseen).result

end Database

end Relational.ReadCommitted
