import Mathlib.Data.List.Induction
import VielHome.Relational.Optimistic

/-!
# Calls that write in batches

A call that reads, and then sends several writes that it has decided on, leaves the store in between
in a state that only makes sense together with the writes that are still owed. Nothing keeps other
calls from writing then. `Prog.Batches` says that a program reads and sends one batch, and
`holds_of_inTurn` what such calls keep: a property of the store that every batch keeps when it is
made on its own holds whenever no call is under way, in every run in which a batch begins only while
no other one is open (`Database.InTurn`).
-/

namespace Relational.ReadCommitted

variable {ι σ ω ε α : Type}

/-- What the program does next to the store is one write, which has `Q` together with what is left
to do after it; it may come to its end before that if `ends`. -/
def Prog.NextWrite (apply : ω → σ → σ) (Q : ω → Prog (Logged σ ω) Empty ε α → Prop) (ends : Prop) :
    Prog (Logged σ ω) Empty ε α → (Logged σ ω → Logged σ ω) → Prop
  | .done _, _ => ends
  | .fail _, _ => ends
  | .stmt _ effect next, pending => ∀ v, (next v).NextWrite apply Q ends fun s => effect (pending s)
  | .commit _ next, pending => ∃ w, pending = Logged.make apply w ∧ Q w next
  | .rollback _, _ => False

/-- The program sends the writes of the list, and does nothing else. -/
def Prog.Owes (apply : ω → σ → σ) :
    List ω → Prog (Logged σ ω) Empty ε α → (Logged σ ω → Logged σ ω) → Prop
  | [], p, _ => ∃ a, p = .done a
  | w :: ws, p, pending =>
    p.NextWrite apply (fun w' next => w' = w ∧ Owes apply ws next id) False pending

/-- The program reads, and then sends one of the batches, or comes to its end without. -/
def Prog.Batches (apply : ω → σ → σ) (Batch : ω → List ω → Prop)
    (p : Prog (Logged σ ω) Empty ε α) (pending : Logged σ ω → Logged σ ω) : Prop :=
  p.NextWrite apply (fun w next => ∃ ws, Batch w ws ∧ next.Owes apply ws id) True pending

/-- Of a write and those that come after it, only the last one ends the batch. -/
def EndsLast (Ends : ω → Prop) : ω → List ω → Prop
  | w, [] => Ends w
  | w, u :: ws => ¬ Ends w ∧ EndsLast Ends u ws

namespace Prog

variable {apply : ω → σ → σ} {Q : ω → Prog (Logged σ ω) Empty ε α → Prop} {ends : Prop}
  {Batch : ω → List ω → Prop} {β : Type}

theorem Owes.done {pending : Logged σ ω → Logged σ ω} (a : α) :
    (Prog.done a : Prog (Logged σ ω) Empty ε α).Owes apply [] pending := ⟨a, rfl⟩

theorem Owes.send (w : ω) :
    (Prog.send apply w : Prog (Logged σ ω) Empty ε PUnit).Owes apply [w] id :=
  fun _ => ⟨w, rfl, rfl, ⟨⟩, rfl⟩

theorem Owes.send_bind {w : ω} {ws : List ω} {f : PUnit → Prog (Logged σ ω) Empty ε β}
    (h : (f ⟨⟩).Owes apply ws id) :
    (Prog.send apply w >>= f : Prog (Logged σ ω) Empty ε β).Owes apply (w :: ws) id :=
  fun _ => ⟨w, rfl, rfl, h⟩

theorem Batches.done (a : α) : (Prog.done a : Prog (Logged σ ω) Empty ε α).Batches apply Batch id :=
  trivial

theorem Batches.read {q : σ → α} {f : α → Prog (Logged σ ω) Empty ε β}
    (h : ∀ s, (f (q s)).Batches apply Batch id) :
    (Prog.read q >>= f : Prog (Logged σ ω) Empty ε β).Batches apply Batch id :=
  fun s => h s.data

theorem Batches.require {c : Prop} [Decidable c] {e : ε} {f : PUnit → Prog (Logged σ ω) Empty ε β}
    (h : c → (f ⟨⟩).Batches apply Batch id) :
    (Prog.require c e >>= f : Prog (Logged σ ω) Empty ε β).Batches apply Batch id := by
  rw [Prog.require_bind]
  split
  case isTrue hc => exact h hc
  case isFalse => trivial

theorem Batches.expect {o : Option α} {e : ε} {f : α → Prog (Logged σ ω) Empty ε β}
    (h : ∀ a, o = some a → (f a).Batches apply Batch id) :
    (Prog.expect o e >>= f : Prog (Logged σ ω) Empty ε β).Batches apply Batch id := by
  rw [Prog.expect_bind]
  cases o with
  | none => trivial
  | some a => exact h a rfl

theorem Batches.of_owes {p : Prog (Logged σ ω) Empty ε α} {pending : Logged σ ω → Logged σ ω} {w : ω}
    {ws : List ω} (hbatch : Batch w ws) (h : p.Owes apply (w :: ws) pending) :
    p.Batches apply Batch pending := by
  have hmono : ∀ (p : Prog (Logged σ ω) Empty ε α) pending,
      p.NextWrite apply (fun w' next => w' = w ∧ Owes apply ws next id) False pending →
      p.Batches apply Batch pending := by
    intro p
    induction p with
    | done a => exact fun _ h => h.elim
    | fail e => exact fun _ h => h.elim
    | stmt locks effect next ih => exact fun _ h v => ih v _ (h v)
    | commit keep next ih => exact fun _ ⟨w', hw', heq, howes⟩ =>
        ⟨w', hw', ws, heq ▸ hbatch, howes⟩
    | rollback next ih => exact fun _ h => h
  exact hmono p pending h

/-- Dropping the open transaction of a program that has ended changes nothing. -/
theorem NextWrite.of_put {p : Prog (Logged σ ω) Empty ε α} {pending : Logged σ ω → Logged σ ω}
    (h : p.NextWrite apply Q ends pending) :
    p.NextWrite apply Q ends (if p.ended then id else pending) := by
  cases p with
  | done a => exact h
  | fail e => exact h
  | stmt locks effect next => exact h
  | commit keep next => exact h
  | rollback next => exact h

end Prog

namespace Database

variable [DecidableEq ι] {apply : ω → σ → σ} {Q : ω → Prog (Logged σ ω) Empty ε α → Prop}
  {ends : Prop} {d : Database ι (Logged σ ω) Empty ε α} {i : ι}

/-- A step of a program brings it nearer to its next write, or makes it. -/
theorem next_nextWrite (h : (d.session i).rest.NextWrite apply Q ends (d.session i).pending) :
    (∀ j, j ≠ i → (d.next Empty.elim (.step i)).session j = d.session j) ∧
      (((d.next Empty.elim (.step i)).store = d.store ∧
          ((d.next Empty.elim (.step i)).session i).rest.NextWrite apply Q ends
            ((d.next Empty.elim (.step i)).session i).pending) ∨
        ∃ w next, Q w next ∧ (d.next Empty.elim (.step i)).store = d.store.make apply w ∧
          (d.next Empty.elim (.step i)).session i = ⟨next, id⟩) := by
  cases hsession : d.session i with
  | mk rest pending =>
    rw [hsession] at h
    have hstay : d.next Empty.elim (.step i) = d →
        (∀ j, j ≠ i → (d.next Empty.elim (.step i)).session j = d.session j) ∧
        (((d.next Empty.elim (.step i)).store = d.store ∧
          ((d.next Empty.elim (.step i)).session i).rest.NextWrite apply Q ends
            ((d.next Empty.elim (.step i)).session i).pending) ∨
        ∃ w next, Q w next ∧ (d.next Empty.elim (.step i)).store = d.store.make apply w ∧
          (d.next Empty.elim (.step i)).session i = ⟨next, id⟩) := by
      intro hnext
      rw [hnext, hsession]
      exact ⟨fun _ _ => rfl, Or.inl ⟨rfl, h⟩⟩
    cases rest with
    | done a => exact hstay (next_ended (by rw [hsession]; rfl))
    | fail e => exact hstay (next_ended (by rw [hsession]; rfl))
    | rollback rest => exact h.elim
    | stmt locks effect rest =>
      rcases (next_stmt hsession : d.next Empty.elim (.step i) = d ∨ _) with hnext | hnext
      · exact hstay hnext
      · rw [hnext]
        refine ⟨fun j hj => session_put_ne hj, Or.inl ⟨store_put, ?_⟩⟩
        rw [session_put_self]
        exact (h (pending d.store)).of_put
    | commit keep rest =>
      obtain ⟨w, rfl, hw⟩ := h
      rw [next_commit hsession]
      refine ⟨fun j hj => session_put_ne hj, Or.inr ⟨w, rest, hw, store_put, ?_⟩⟩
      rw [session_put_self]
      split <;> rfl

/-! ### Batches in turn -/

/-- The last write, if there is one, has ended its batch. -/
def Whole (Ends : ω → Prop) (s : Logged σ ω) : Prop := ∀ w ∈ s.writes.getLast?, Ends w

instance {Ends : ω → Prop} [DecidablePred Ends] : DecidablePred (Whole (σ := σ) Ends) := fun s =>
  inferInstanceAs (Decidable (∀ w ∈ s.writes.getLast?, Ends w))

/-- A batch begins with a write that is fresh, while no other batch is open, and no call is cut off
while one is. -/
def InTurn (Begins Ends : ω → Prop) (fresh : ω → σ → Prop)
    (d : Database ι (Logged σ ω) Empty ε α) : Event ι ε → Prop
  | .step i => ∀ w ∈ d.written (.step i), Begins w → Whole Ends d.store ∧ fresh w d.store.data
  | .abort _ _ => Whole Ends d.store

instance {Begins Ends : ω → Prop} {fresh : ω → σ → Prop} [DecidablePred Begins]
    [DecidablePred Ends] [∀ w, DecidablePred (fresh w)] (d : Database ι (Logged σ ω) Empty ε α) :
    (e : Event ι ε) → Decidable (d.InTurn Begins Ends fresh e)
  | .step i => inferInstanceAs (Decidable (∀ w ∈ d.written (.step i), Begins w →
      Whole Ends d.store ∧ fresh w d.store.data))
  | .abort _ _ => inferInstanceAs (Decidable (Whole Ends d.store))

section Turns

variable {Begins Ends : ω → Prop} {fresh : ω → σ → Prop} {Batch : ω → List ω → Prop}
  {P : Logged σ ω → Prop}

/-- No batch is open. -/
structure Closed (apply : ω → σ → σ) (Ends : ω → Prop) (Batch : ω → List ω → Prop)
    (P : Logged σ ω → Prop) (d : Database ι (Logged σ ω) Empty ε α) : Prop where
  whole : Whole Ends d.store
  holds : P d.store
  batches : ∀ i, (d.session i).rest.Batches apply Batch (d.session i).pending

/-- A session owes the rest of its batch, with which the property holds again. -/
structure Opened (apply : ω → σ → σ) (Ends : ω → Prop) (Batch : ω → List ω → Prop)
    (P : Logged σ ω → Prop) (d : Database ι (Logged σ ω) Empty ε α) (i : ι) (w : ω) (ws : List ω) :
    Prop where
  notWhole : ¬ Whole Ends d.store
  endsLast : EndsLast Ends w ws
  holds : P ((w :: ws).foldl (fun s w => s.make apply w) d.store)
  owes : (d.session i).rest.Owes apply (w :: ws) (d.session i).pending
  batches : ∀ j, j ≠ i → (d.session j).rest.Batches apply Batch (d.session j).pending

theorem whole_make {s : Logged σ ω} {w : ω} : Whole Ends (s.make apply w) ↔ Ends w := by
  simp [Whole]

/-- After one write of a batch, the rest of it is owed. -/
theorem closed_or_opened_of_make {d' : Database ι (Logged σ ω) Empty ε α} {w : ω} {ws : List ω}
    {next : Prog (Logged σ ω) Empty ε α} (hends : EndsLast Ends w ws)
    (hholds : P ((w :: ws).foldl (fun s w => s.make apply w) d.store))
    (hstore : d'.store = d.store.make apply w) (hsession : d'.session i = ⟨next, id⟩)
    (howes : next.Owes apply ws id)
    (hothers : ∀ j, j ≠ i → (d'.session j).rest.Batches apply Batch (d'.session j).pending) :
    Closed apply Ends Batch P d' ∨ ∃ u ws', Opened apply Ends Batch P d' i u ws' := by
  cases ws with
  | nil =>
    refine Or.inl ⟨by rw [hstore]; exact whole_make.mpr hends, by rw [hstore]; exact hholds, ?_⟩
    intro j
    by_cases hj : j = i
    · obtain ⟨a, rfl⟩ := howes
      rw [hj, hsession]
      exact Prog.Batches.done a
    · exact hothers j hj
  | cons u ws =>
    refine Or.inr ⟨u, ws, ?_, hends.2, by rw [hstore]; exact hholds, by rw [hsession]; exact howes,
      hothers⟩
    rw [hstore, whole_make]
    exact hends.1

theorem mem_written {d : Database ι (Logged σ ω) Empty ε α} {e : Event ι ε} {w : ω}
    (h : (d.next Empty.elim e).store = d.store.make apply w) : w ∈ d.written e := by
  simp [written, h]

/-- A step from a state in which no batch is open may begin one. -/
theorem Closed.next (hshape : ∀ w ws, Batch w ws → Begins w ∧ EndsLast Ends w ws)
    (hbatch : ∀ s w ws, P s → Batch w ws → fresh w s.data →
      P ((w :: ws).foldl (fun s w => s.make apply w) s))
    (h : Closed apply Ends Batch P d) {e : Event ι ε} (he : d.InTurn Begins Ends fresh e) :
    Closed apply Ends Batch P (d.next Empty.elim e) ∨
      ∃ w ws, Opened apply Ends Batch P (d.next Empty.elim e) e.session w ws := by
  cases e with
  | abort i e =>
    left
    rw [Database.next]
    split
    case isTrue => exact h
    case isFalse =>
      refine ⟨by rw [store_put]; exact h.whole, by rw [store_put]; exact h.holds, fun j => ?_⟩
      by_cases hj : j = i
      · rw [hj, session_put_self]
        trivial
      · rw [session_put_ne hj]
        exact h.batches j
  | step i =>
    obtain ⟨hothers, hstep⟩ := next_nextWrite (h.batches i)
    rcases hstep with ⟨hstore, hsession⟩ | ⟨w, next, ⟨ws, hws, howes⟩, hstore, hsession⟩
    · refine Or.inl ⟨by rw [hstore]; exact h.whole, by rw [hstore]; exact h.holds, fun j => ?_⟩
      by_cases hj : j = i
      · rw [hj]
        exact hsession
      · rw [hothers j hj]
        exact h.batches j
    · obtain ⟨hbegins, hends⟩ := hshape w ws hws
      have hfresh := (he w (mem_written hstore) hbegins).2
      refine closed_or_opened_of_make hends (hbatch d.store w ws h.holds hws hfresh) hstore hsession
        howes fun j hj => ?_
      rw [hothers j hj]
      exact h.batches j

/-- While a batch is open, only its session writes. -/
theorem Opened.next (hshape : ∀ w ws, Batch w ws → Begins w ∧ EndsLast Ends w ws) {w : ω}
    {ws : List ω} (h : Opened apply Ends Batch P d i w ws) {e : Event ι ε}
    (he : d.InTurn Begins Ends fresh e) :
    Closed apply Ends Batch P (d.next Empty.elim e) ∨
      ∃ w ws, Opened apply Ends Batch P (d.next Empty.elim e) i w ws := by
  cases e with
  | abort j e => exact absurd he h.notWhole
  | step j =>
    by_cases hj : j = i
    · subst hj
      obtain ⟨hothers, hstep⟩ := next_nextWrite h.owes
      have hbatches : ∀ k, k ≠ j → ((d.next Empty.elim (.step j)).session k).rest.Batches apply Batch
          ((d.next Empty.elim (.step j)).session k).pending := by
        intro k hk
        rw [hothers k hk]
        exact h.batches k hk
      rcases hstep with ⟨hstore, hsession⟩ | ⟨_, next, ⟨rfl, howes⟩, hstore, hsession⟩
      · exact Or.inr ⟨w, ws, by rw [hstore]; exact h.notWhole, h.endsLast,
          by rw [hstore]; exact h.holds, hsession, hbatches⟩
      · exact closed_or_opened_of_make h.endsLast h.holds hstore hsession howes hbatches
    · obtain ⟨hothers, hstep⟩ := next_nextWrite (h.batches j hj)
      rcases hstep with ⟨hstore, hsession⟩ | ⟨w', next, ⟨ws', hws', -⟩, hstore, -⟩
      · refine Or.inr ⟨w, ws, by rw [hstore]; exact h.notWhole, h.endsLast,
          by rw [hstore]; exact h.holds, ?_, fun k hk => ?_⟩
        · rw [hothers i fun hij => hj hij.symm]
          exact h.owes
        · by_cases hkj : k = j
          · rw [hkj]
            exact hsession
          · rw [hothers k hkj]
            exact h.batches k hk
      · -- another batch would have to wait
        exact absurd (he w' (mem_written hstore) (hshape w' ws' hws').1).1 h.notWhole

/-- After a run of batches in turn no batch is open, or that of a session that has made a step. -/
theorem closed_or_opened_run (hshape : ∀ w ws, Batch w ws → Begins w ∧ EndsLast Ends w ws)
    (hbatch : ∀ s w ws, P s → Batch w ws → fresh w s.data →
      P ((w :: ws).foldl (fun s w => s.make apply w) s))
    (hd : Closed apply Ends Batch P d) {es : List (Event ι ε)}
    (hes : EachStep (next Empty.elim) (InTurn Begins Ends fresh) d es) :
    Closed apply Ends Batch P (runFrom (Database.next Empty.elim) d es) ∨
      ∃ e ∈ es, ∃ w ws,
        Opened apply Ends Batch P (runFrom (Database.next Empty.elim) d es) e.session w ws := by
  induction es using List.reverseRecOn with
  | nil => exact Or.inl hd
  | append_singleton es e ih =>
    obtain ⟨hes, he, -⟩ := eachStep_append.mp hes
    rw [runFrom_append]
    rcases ih hes with hclosed | ⟨e', he', w, ws, hopened⟩
    · exact (hclosed.next hshape hbatch he).imp_right fun hopened =>
        ⟨e, List.mem_append_right _ (List.mem_singleton_self e), hopened⟩
    · exact (hopened.next hshape he).imp_right fun hopened =>
        ⟨e', List.mem_append_left _ he', hopened⟩

/-- Calls that send one batch each: what every batch keeps, when it is made on its own and its first
write is fresh, holds whenever no call is under way, in every run in which batches are made in
turn. -/
theorem holds_of_inTurn (hshape : ∀ w ws, Batch w ws → Begins w ∧ EndsLast Ends w ws)
    (hbatch : ∀ s w ws, P s → Batch w ws → fresh w s.data →
      P ((w :: ws).foldl (fun s w => s.make apply w) s))
    {store : Logged σ ω} {program : ι → Prog (Logged σ ω) Empty ε α}
    (hprogram : ∀ i, (program i).Batches apply Batch id) (hwhole : Whole Ends store)
    (hstore : P store) {es : List (Event ι ε)}
    (hes : EachStep (next Empty.elim) (InTurn Begins Ends fresh) (start store program) es)
    (hidle : ∀ i, (∀ e ∈ es, e.session ≠ i) ∨ ((runFrom (Database.next Empty.elim)
      (start store program) es).session i).rest.ended = true) :
    P (runFrom (Database.next Empty.elim) (start store program) es).store := by
  rcases closed_or_opened_run hshape hbatch ⟨hwhole, hstore, hprogram⟩ hes with
    hclosed | ⟨e, he, w, ws, hopened⟩
  · exact hclosed.holds
  · -- a session that owes a write has made a step, and has not come to its end
    have howes := hopened.owes
    rcases hidle e.session with hnone | hend
    · exact absurd rfl (hnone e he)
    · cases hrest : ((runFrom (Database.next Empty.elim) (start store program) es).session
          e.session).rest with
      | done a => rw [hrest] at howes; exact howes.elim
      | fail e => rw [hrest] at howes; exact howes.elim
      | stmt locks effect next => rw [hrest] at hend; exact absurd hend (by simp [Prog.ended])
      | commit keep next => rw [hrest] at hend; exact absurd hend (by simp [Prog.ended])
      | rollback next => rw [hrest] at hend; exact absurd hend (by simp [Prog.ended])

end Turns

end Database

end Relational.ReadCommitted
