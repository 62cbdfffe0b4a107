import Mathlib.Data.List.Forall2
import Mathlib.Data.List.Nodup
import VielHome.Relational.Discipline

/-!
# Writes that do not look again

A call that reads a row, checks what it read, and then writes the row whatever has become of it
relies on nobody else having written in between. Nothing enforces this. `Logged` is a store with
the list of the writes that were made to it, where a write is a value that carries what its call
had read; the list is only a record, and no call reads it.

`Prog.send` is one write, committed at once, and `sending` is the discipline of calls that only
read and send writes that they have checked. `eachStep_of_fresh` says what such calls keep: an
invariant and a relation between one state and the next, as soon as every write that is still
`fresh` when it is made keeps them, in every run that makes fresh writes only.
-/

namespace Relational.ReadCommitted

variable {ι σ ω ε α : Type}

/-- A store with the writes that were made to it, in their order. -/
structure Logged (σ ω : Type) where
  data : σ
  writes : List ω := []

/-- The store after one more write. -/
def Logged.make (apply : ω → σ → σ) (w : ω) (s : Logged σ ω) : Logged σ ω where
  data := apply w s.data
  writes := s.writes ++ [w]

@[simp] theorem Logged.data_make {apply : ω → σ → σ} {w : ω} {s : Logged σ ω} :
    (s.make apply w).data = apply w s.data := rfl

@[simp] theorem Logged.writes_make {apply : ω → σ → σ} {w : ω} {s : Logged σ ω} :
    (s.make apply w).writes = s.writes ++ [w] := rfl

/-- A read of the store. -/
def Prog.read (q : σ → α) : Prog (Logged σ ω) Empty ε α := Prog.query fun s => q s.data

/-- A write that is sent on its own. -/
def Prog.send (apply : ω → σ → σ) (w : ω) : Prog (Logged σ ω) Empty ε PUnit := do
  Prog.write [] (Logged.make apply w)
  Prog.commitAll

/-- Calls that send writes with `Checked`, and take no locks. -/
def sending (apply : ω → σ → σ) (Checked : ω → Prop) : Discipline (Logged σ ω) Empty where
  inv _ := True
  commits s s' := ∃ w, Checked w ∧ s' = s.make apply w
  kept _ := false
  same _ _ _ _ := True
  same_refl _ _ _ := trivial
  same_trans _ _ _ _ _ _ _ := trivial

namespace Prog

theorem ReadOnly.read (q : σ → α) : (Prog.read q : Prog (Logged σ ω) Empty ε α).ReadOnly :=
  ReadOnly.query _

section Solo

variable {β : Type} {c d : Logged σ ω}

theorem solo_read_bind {q : σ → α} {f : α → Prog (Logged σ ω) Empty ε β} :
    (read q >>= f : Prog (Logged σ ω) Empty ε β).solo c d = (f (q d.data)).solo c d := rfl

end Solo

variable {apply : ω → σ → σ} {Checked : ω → Prop}

/-- The program only reads, and sends writes with `Checked`. -/
def Sends (apply : ω → σ → σ) (Checked : ω → Prop) (p : Prog (Logged σ ω) Empty ε α) : Prop :=
  ∀ last, p.Safe (sending apply Checked) Safe.Clean last [] id

namespace Sends

variable {β : Type} {f : α → Prog (Logged σ ω) Empty ε β}

theorem done (a : α) : (Prog.done a : Prog (Logged σ ω) Empty ε α).Sends apply Checked :=
  fun _ => ⟨rfl, rfl⟩

/-- What a program only reads for may be anything. -/
theorem readOnly {p : Prog (Logged σ ω) Empty ε α} (hp : p.ReadOnly)
    (hf : ∀ a, (f a).Sends apply Checked) : (p >>= f).Sends apply Checked :=
  fun _ => Safe.readOnly hp fun a last _ => hf a last

theorem read {q : σ → α} (h : ∀ s, (f (q s)).Sends apply Checked) :
    (Prog.read q >>= f : Prog (Logged σ ω) Empty ε β).Sends apply Checked :=
  fun _ => Safe.query fun s _ _ _ => h s.data s

theorem require {c : Prop} [Decidable c] {e : ε}
    {f : PUnit → Prog (Logged σ ω) Empty ε β} (h : c → (f ⟨⟩).Sends apply Checked) :
    (Prog.require c e >>= f : Prog (Logged σ ω) Empty ε β).Sends apply Checked :=
  fun last => Safe.require fun hc => h hc last

theorem expect {o : Option α} {e : ε} (h : ∀ a, o = some a → (f a).Sends apply Checked) :
    (Prog.expect o e >>= f : Prog (Logged σ ω) Empty ε β).Sends apply Checked :=
  fun last => Safe.expect fun a ha => h a ha last

theorem send {w : ω} (hw : Checked w) :
    (Prog.send apply w : Prog (Logged σ ω) Empty ε PUnit).Sends apply Checked :=
  fun _ => Safe.write fun _ _ _ _ => Safe.commitAll fun _ _ _ _ =>
    ⟨trivial, ⟨w, hw, rfl⟩, fun _ _ _ => trivial, rfl, rfl⟩

end Sends

end Prog

namespace Database

variable [DecidableEq ι] {apply : ω → σ → σ} {Checked : ω → Prop} {fresh : ω → σ → Prop}

/-- The writes that an event makes. -/
def written (d : Database ι (Logged σ ω) Empty ε α) (e : Event ι ε) : List ω :=
  (d.next Empty.elim e).store.writes.drop d.store.writes.length

/-- What the event writes is fresh. -/
def Fresh (fresh : ω → σ → Prop) (d : Database ι (Logged σ ω) Empty ε α) (e : Event ι ε) : Prop :=
  ∀ w ∈ d.written e, fresh w d.store.data

instance [∀ w, DecidablePred (fresh w)] (d : Database ι (Logged σ ω) Empty ε α) (e : Event ι ε) :
    Decidable (d.Fresh fresh e) :=
  inferInstanceAs (Decidable (∀ w ∈ d.written e, fresh w d.store.data))

/-- An event of calls that send checked writes makes one of them or leaves the store. -/
theorem eachStep_sends {store : Logged σ ω} {program : ι → Prog (Logged σ ω) Empty ε α}
    (hsends : ∀ i, (program i).Sends apply Checked) (es : List (Event ι ε)) :
    EachStep (next Empty.elim) (fun d e => (d.next Empty.elim e).store = d.store ∨ ∃ w,
      Checked w ∧ (d.next Empty.elim e).store = d.store.make apply w)
      (start store program) es := by
  have hsound : (start store program).Sound (sending apply Checked) :=
    sound_start trivial fun i => (hsends i store).mono fun _ _ _ _ _ => trivial
  have horderly : EachStep (next Empty.elim) (Orderly Empty.elim (sending apply Checked).kept)
      (start store program) es :=
    eachStep_orderly_of_enforced (fun l _ => l.elim) _ _
  exact (eachStep_commits hsound horderly).mono fun _ _ h => h.2

/-- A run of calls that send checked writes, all of them fresh when they are made: what every
fresh write keeps is kept, and how it relates one state to the next is how every event does. -/
theorem eachStep_of_fresh {I : Logged σ ω → Prop} {R : σ → σ → Prop} {store : Logged σ ω}
    {program : ι → Prog (Logged σ ω) Empty ε α} (hsends : ∀ i, (program i).Sends apply Checked)
    {es : List (Event ι ε)}
    (hes : EachStep (next Empty.elim) (Fresh fresh) (start store program) es)
    (hstore : I store) (hrefl : ∀ s, R s s)
    (hwrite : ∀ s w, I s → Checked w → fresh w s.data →
      I (s.make apply w) ∧ R s.data (apply w s.data)) :
    EachStep (next Empty.elim) (fun d e => I (d.next Empty.elim e).store ∧
      R d.store.data (d.next Empty.elim e).store.data) (start store program) es := by
  have hsent : EachStep (next Empty.elim) (fun d e => (d.next Empty.elim e).store = d.store ∨ ∃ w,
      Checked w ∧ (d.next Empty.elim e).store = d.store.make apply w) (start store program) es :=
    eachStep_sends hsends es
  have hstart : I (start store program).store := hstore
  generalize start store program = d at hes hsent hstart ⊢
  induction es generalizing d with
  | nil => trivial
  | cons e es ih =>
    obtain ⟨hfresh, hes⟩ := hes
    obtain ⟨hstep, hsent⟩ := hsent
    have hkept : I (d.next Empty.elim e).store ∧
        R d.store.data (d.next Empty.elim e).store.data := by
      rcases hstep with hsame | ⟨w, hchecked, hw⟩
      · rw [hsame]
        exact ⟨hstart, hrefl _⟩
      · have hwritten : w ∈ d.written e := by simp [written, hw]
        rw [hw]
        exact hwrite _ w hstart hchecked (hfresh w hwritten)
    exact ⟨hkept, ih _ hes hsent hkept.1⟩

/-- What holds in the beginning and after each event holds in all states of the run. -/
theorem forall_prefix_of_eachStep {enforced : Empty → Bool} {I : Logged σ ω → Prop}
    {d : Database ι (Logged σ ω) Empty ε α} (hd : I d.store) {es : List (Event ι ε)}
    (hes : EachStep (next enforced) (fun d e => I (d.next enforced e).store) d es) :
    ∀ es', es' <+: es → I (runFrom (next enforced) d es').store := by
  rintro es' ⟨rest, rfl⟩
  have hkept : ∀ (d : Database ι (Logged σ ω) Empty ε α) e, I d.store →
      I (d.next enforced e).store → I (d.next enforced e).store := fun _ _ _ h => h
  exact runFrom_induction_of_eachStep hkept hd (eachStep_append.mp hes).1

end Database

/-! ### Who has written -/

/-- The program comes to its end with one write, which has `Q`, and with nothing after it. -/
def Prog.SendsOne (apply : ω → σ → σ) (Q : ω → Prop) :
    Prog (Logged σ ω) Empty ε α → (Logged σ ω → Logged σ ω) → Prop
  | .done _, _ => False
  | .fail _, _ => True
  | .stmt _ effect next, pending => ∀ v, (next v).SendsOne apply Q fun s => effect (pending s)
  | .commit _ next, pending => (∃ w, Q w ∧ pending = Logged.make apply w) ∧ ∃ a, next = .done a
  | .rollback _, _ => False

namespace Prog.SendsOne

variable {apply : ω → σ → σ} {Q : ω → Prop} {β : Type} {f : α → Prog (Logged σ ω) Empty ε β}

theorem send {w : ω} (hw : Q w) :
    (Prog.send apply w : Prog (Logged σ ω) Empty ε PUnit).SendsOne apply Q id :=
  fun _ => ⟨⟨w, hw, rfl⟩, ⟨⟩, rfl⟩

theorem read {q : σ → α} (h : ∀ s, (f (q s)).SendsOne apply Q id) :
    (Prog.read q >>= f : Prog (Logged σ ω) Empty ε β).SendsOne apply Q id :=
  fun s => h s.data

theorem require {c : Prop} [Decidable c] {e : ε} {f : PUnit → Prog (Logged σ ω) Empty ε β}
    (h : (f ⟨⟩).SendsOne apply Q id) :
    (Prog.require c e >>= f : Prog (Logged σ ω) Empty ε β).SendsOne apply Q id := by
  rw [Prog.require_bind]
  split
  · exact h
  · trivial

theorem of_put {p : Prog (Logged σ ω) Empty ε α} {pending : Logged σ ω → Logged σ ω}
    (h : p.SendsOne apply Q pending) :
    p.SendsOne apply Q (if p.ended then id else pending) := by
  cases p with
  | done a => exact h.elim
  | fail e => trivial
  | stmt locks effect next => exact h
  | commit keep next => exact h
  | rollback next => exact h.elim

end Prog.SendsOne

namespace Database

variable [DecidableEq ι] {apply : ω → σ → σ} {Q : ι → ω → Prop}

/-- The sessions that have written during a run, in the order of their writes. -/
def senders : Database ι (Logged σ ω) Empty ε α → List (Event ι ε) → List ι
  | _, [] => []
  | d, e :: es => (d.written e).map (fun _ => e.session) ++ (d.next Empty.elim e).senders es

theorem senders_append {d : Database ι (Logged σ ω) Empty ε α} {es es' : List (Event ι ε)} :
    d.senders (es ++ es') = d.senders es ++ (runFrom (next Empty.elim) d es).senders es' := by
  induction es generalizing d with
  | nil => rfl
  | cons e es ih => simp [senders, ih]

/-- Who has written so far is not forgotten later. -/
theorem senders_prefix {d : Database ι (Logged σ ω) Empty ε α} {es es' : List (Event ι ε)}
    (h : es' <+: es) : d.senders es' <+: d.senders es := by
  obtain ⟨rest, rfl⟩ := h
  rw [senders_append]
  exact List.prefix_append _ _

/-- Of the sessions, those of the list have sent their write and are done, and the others have it
still to send, or have failed. -/
structure Sent (apply : ω → σ → σ) (Q : ι → ω → Prop) (d : Database ι (Logged σ ω) Empty ε α)
    (order : List ι) : Prop where
  nodup : order.Nodup
  done : ∀ i ∈ order, ∃ a, (d.session i).rest = .done a
  owes : ∀ i, i ∉ order → (d.session i).rest.SendsOne apply (Q i) (d.session i).pending
  writes : List.Forall₂ Q order d.store.writes

theorem Sent.mem_iff {d : Database ι (Logged σ ω) Empty ε α} {order : List ι}
    (h : d.Sent apply Q order) {i : ι} : i ∈ order ↔ ∃ a, (d.session i).rest = .done a := by
  refine ⟨h.done i, fun ⟨a, ha⟩ => ?_⟩
  by_contra hi
  have hopen := h.owes i hi
  rw [ha] at hopen
  exact hopen

/-- Replacing a session that has still to send its write by one that has as well. -/
theorem Sent.put {d : Database ι (Logged σ ω) Empty ε α} {order : List ι}
    (h : d.Sent apply Q order) {i : ι} {s : Session (Logged σ ω) Empty ε α} (hi : i ∉ order)
    (hs : s.rest.SendsOne apply (Q i) s.pending) : (d.put i s).Sent apply Q order := by
  refine ⟨h.nodup, fun j hj => ?_, fun j hj => ?_, by rw [store_put]; exact h.writes⟩
  · rw [session_put_ne (ne_of_mem_of_not_mem hj hi)]
    exact h.done j hj
  · by_cases hji : j = i
    · subst hji
      rw [session_put_self]
      exact hs.of_put
    · rw [session_put_ne hji]
      exact h.owes j hj

theorem Sent.next {d : Database ι (Logged σ ω) Empty ε α} {order : List ι}
    (h : d.Sent apply Q order) (e : Event ι ε) :
    (d.next Empty.elim e).Sent apply Q (order ++ (d.written e).map fun _ => e.session) := by
  -- a step that leaves the store has written nothing
  have hstay : ∀ {d' : Database ι (Logged σ ω) Empty ε α}, d.next Empty.elim e = d' →
      d'.store = d.store → d'.Sent apply Q order →
      (d.next Empty.elim e).Sent apply Q (order ++ (d.written e).map fun _ => e.session) := by
    intro d' hd' hstore hsent
    have hnil : d.written e = [] := by simp [written, hd', hstore]
    rw [hnil, hd', List.map_nil, List.append_nil]
    exact hsent
  cases e with
  | abort i e =>
    by_cases hended : (d.session i).rest.ended = true
    · exact hstay (if_pos hended) rfl h
    · refine hstay (if_neg hended) store_put (h.put (fun hi => ?_) trivial)
      obtain ⟨a, ha⟩ := h.done i hi
      exact hended (by rw [ha]; rfl)
  | step i =>
    by_cases hi : i ∈ order
    · obtain ⟨a, ha⟩ := h.done i hi
      exact hstay (next_ended (by rw [ha]; rfl)) rfl h
    · have hopen := h.owes i hi
      cases hsession : d.session i with
      | mk rest pending =>
        rw [hsession] at hopen
        cases rest with
        | done a => exact hopen.elim
        | fail e => exact hstay (next_ended (by rw [hsession]; rfl)) rfl h
        | rollback rest => exact hopen.elim
        | stmt locks effect rest =>
          set locked : Database ι (Logged σ ω) Empty ε α := { d with
            held := d.held ++ (locks (pending d.store)).map fun l => (i, l) }
          have hlocked : locked.Sent apply Q order := ⟨h.nodup, h.done, h.owes, h.writes⟩
          have hstep : d.next Empty.elim (.step i) = d ∨ d.next Empty.elim (.step i) =
              locked.put i ⟨rest (pending d.store), fun s => effect (pending s)⟩ :=
            next_stmt hsession
          rcases hstep with hnext | hnext
          · exact hstay hnext rfl h
          · exact hstay hnext store_put (hlocked.put hi (hopen (pending d.store)))
        | commit keep rest =>
          -- the one commit that the session owes, and with it its write
          obtain ⟨⟨w, hw, rfl⟩, a, rfl⟩ := hopen
          have hnext : d.next Empty.elim (.step i) = Database.put { d with
              store := d.store.make apply w
              held := d.held.filter fun h => h.1 ≠ i ∨ h.2.1 ∈ keep } i ⟨.done a, id⟩ :=
            next_commit hsession
          have hwritten : d.written (.step i) = [w] := by simp [written, hnext, store_put]
          rw [hwritten, hnext]
          refine ⟨?_, fun j hj => ?_, fun j hj => ?_, ?_⟩
          · exact h.nodup.append (List.nodup_singleton _) (List.disjoint_singleton.mpr hi)
          · rcases List.mem_append.mp hj with hj | hj
            · rw [session_put_ne (ne_of_mem_of_not_mem hj hi)]
              exact h.done j hj
            · obtain rfl : j = i := List.mem_singleton.mp hj
              exact ⟨a, by rw [session_put_self]⟩
          · rw [List.mem_append, not_or] at hj
            have hne : j ≠ i := fun hji => hj.2 (List.mem_singleton.mpr hji)
            rw [session_put_ne hne]
            exact h.owes j hj.1
          · rw [store_put]
            exact List.rel_append h.writes (List.Forall₂.cons hw .nil)

/-- After a run of programs that come to their end with one write, the sessions that have written
are those that are done, and theirs are the writes that were made. -/
theorem sent_run {data : σ} {program : ι → Prog (Logged σ ω) Empty ε α}
    (hone : ∀ i, (program i).SendsOne apply (Q i) id) (es : List (Event ι ε)) :
    (runFrom (next Empty.elim) (start ⟨data, []⟩ program) es).Sent apply Q
      ((start ⟨data, []⟩ program).senders es) := by
  have hstart : (start ⟨data, []⟩ program).Sent apply Q [] :=
    ⟨List.nodup_nil, by simp, fun i _ => hone i, .nil⟩
  generalize start ⟨data, []⟩ program = d at hstart ⊢
  suffices ∀ order, d.Sent apply Q order →
      (runFrom (next Empty.elim) d es).Sent apply Q (order ++ d.senders es) from
    this [] hstart
  clear hstart
  induction es generalizing d with
  | nil => exact fun order h => by rwa [senders, List.append_nil]
  | cons e es ih =>
    intro order h
    rw [senders, ← List.append_assoc]
    exact ih _ _ (h.next e)

end Database

end Relational.ReadCommitted
