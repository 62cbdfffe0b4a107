import VielHome.Relational.Guards

/-!
# Programs on a part of the store

A program on one store is also a program on a store that contains it: it reads and writes through
`get` and `put`, and its locks are locks of the larger store (`Prog.lift`). A program that writes
nothing, though it may take locks, keeps to any discipline (`Prog.NoWrites`), and so does the lifted
program.

A program that writes leaves the rest of the store alone (`Prog.Leaves`): it keeps to every
discipline that is only about the rest, and alone it does not change the rest either.
-/

namespace Relational.ReadCommitted

variable {σ τ ρ κ ε α β : Type}

namespace Prog

/-- The program on a part of the store. -/
def lift (get : τ → σ) (put : σ → τ → τ) (lock : ρ → κ) : Prog σ ρ ε α → Prog τ κ ε α
  | done a => done a
  | fail e => fail e
  | stmt locks effect next =>
    stmt (fun t => (locks (get t)).map fun l => (lock l.1, l.2)) (fun t => put (effect (get t)) t)
      fun t => (next (get t)).lift get put lock
  | commit keep next => commit (keep.map lock) (next.lift get put lock)
  | rollback next => rollback (next.lift get put lock)

section Lift

variable {get : τ → σ} {put : σ → τ → τ} {lock : ρ → κ}

/-- A program after another is lifted part by part. -/
theorem lift_bind (p : Prog σ ρ ε α) (f : α → Prog σ ρ ε β) :
    (p >>= f).lift get put lock = p.lift get put lock >>= fun a => (f a).lift get put lock := by
  induction p with
  | done a => rfl
  | fail e => rfl
  | stmt locks effect next ih => exact congrArg (stmt _ _) (funext fun t => ih (get t))
  | commit keep next ih => exact congrArg (commit _) ih
  | rollback next ih => exact congrArg rollback ih

/-- A query reads the part. -/
theorem lift_query (hput : ∀ t, put (get t) t = t) (q : σ → α) :
    (query q : Prog σ ρ ε α).lift get put lock = query fun t => q (get t) :=
  congrArg (fun effect => stmt (fun _ => []) effect fun t => done (q (get t))) (funext hput)

/-- A check is the same. -/
theorem lift_require (c : Prop) [Decidable c] (e : ε) :
    (require c e : Prog σ ρ ε PUnit).lift get put lock = require c e := by
  rw [require, require]
  split <;> rfl

/-- So is what has to be there. -/
theorem lift_expect (o : Option α) (e : ε) :
    (expect o e : Prog σ ρ ε α).lift get put lock = expect o e := by
  cases o <;> rfl

end Lift

/-- A program that may take locks, and writes nothing. -/
def NoWrites : Prog σ ρ ε α → Prop
  | .done _ => True
  | .fail _ => True
  | .stmt _ effect next => effect = id ∧ ∀ v, (next v).NoWrites
  | .commit _ _ => False
  | .rollback _ => False

namespace NoWrites

/-- A query writes nothing. -/
theorem query (q : σ → α) : (Prog.query q : Prog σ ρ ε α).NoWrites := ⟨rfl, fun _ => trivial⟩

/-- Nor does one that takes locks. -/
theorem queryUnder (locks : σ → List (ρ × Mode)) (q : σ → α) :
    (Prog.queryUnder locks q : Prog σ ρ ε α).NoWrites := ⟨rfl, fun _ => trivial⟩

/-- Nor does a check. -/
theorem require (c : Prop) [Decidable c] (e : ε) :
    (Prog.require c e : Prog σ ρ ε PUnit).NoWrites := by
  rw [Prog.require]
  split <;> trivial

/-- Nor does what has to be there. -/
theorem expect (o : Option α) (e : ε) : (Prog.expect o e : Prog σ ρ ε α).NoWrites := by
  cases o <;> trivial

/-- A program after another. -/
theorem bind {p : Prog σ ρ ε α} {f : α → Prog σ ρ ε β} (h : p.NoWrites)
    (hf : ∀ a, (f a).NoWrites) : (p >>= f).NoWrites := by
  induction p with
  | done a => exact hf a
  | fail e => trivial
  | stmt locks effect next ih => exact ⟨h.1, fun v => ih v (h.2 v)⟩
  | commit keep next ih => exact h.elim
  | rollback next ih => exact h.elim

/-- A branch. -/
theorem ite {c : Prop} [Decidable c] {p q : Prog σ ρ ε α} (hp : p.NoWrites) (hq : q.NoWrites) :
    (if c then p else q).NoWrites := by
  split
  · exact hp
  · exact hq

/-- What writes nothing writes nothing when it is lifted. -/
theorem lift {p : Prog σ ρ ε α} (h : p.NoWrites) {get : τ → σ} {put : σ → τ → τ}
    (hput : ∀ t, put (get t) t = t) (lock : ρ → κ) : (p.lift get put lock).NoWrites := by
  induction p with
  | done a => trivial
  | fail e => trivial
  | stmt locks effect next ih =>
    obtain ⟨rfl, hnext⟩ := h
    exact ⟨funext hput, fun t => ih (get t) (hnext (get t))⟩
  | commit keep next ih => exact h.elim
  | rollback next ih => exact h.elim

end NoWrites

/-- Every write of the program relates the store before it to the store after it, and no lock that
the program takes is kept. -/
def Leaves (R : σ → σ → Prop) (kept : ρ → Bool) : Prog σ ρ ε α → Prop
  | .done _ => True
  | .fail _ => True
  | .stmt locks effect next =>
    (∀ v, ∀ l ∈ locks v, kept l.1 = false) ∧ (∀ v, R v (effect v)) ∧ ∀ v, (next v).Leaves R kept
  | .commit _ next => next.Leaves R kept
  | .rollback next => next.Leaves R kept

namespace Leaves

variable {R : σ → σ → Prop} {kept : ρ → Bool}

/-- A program after another. -/
theorem bind {p : Prog σ ρ ε α} {f : α → Prog σ ρ ε β} (h : p.Leaves R kept)
    (hf : ∀ a, (f a).Leaves R kept) : (p >>= f).Leaves R kept := by
  induction p with
  | done a => exact hf a
  | fail e => trivial
  | stmt locks effect next ih => exact ⟨h.1, h.2.1, fun v => ih v (h.2.2 v)⟩
  | commit keep next ih => exact ih h
  | rollback next ih => exact ih h

/-- A check. -/
theorem require (c : Prop) [Decidable c] (e : ε) :
    (Prog.require c e : Prog σ ρ ε PUnit).Leaves R kept := by
  rw [Prog.require]
  split <;> trivial

/-- What has to be there. -/
theorem expect (o : Option α) (e : ε) : (Prog.expect o e : Prog σ ρ ε α).Leaves R kept := by
  cases o <;> trivial

/-- A program that writes nothing leaves everything alone. -/
theorem of_noWrites {p : Prog σ ρ ε α} (h : p.NoWrites) (hrefl : ∀ s, R s s)
    (hkept : ∀ l, kept l = false) : p.Leaves R kept := by
  induction p with
  | done a => trivial
  | fail e => trivial
  | stmt locks effect next ih =>
    obtain ⟨rfl, hnext⟩ := h
    exact ⟨fun _ l _ => hkept l.1, hrefl, fun v => ih v (hnext v)⟩
  | commit keep next ih => exact h.elim
  | rollback next ih => exact h.elim

/-- A commit. -/
theorem commitAll : (Prog.commitAll : Prog σ ρ ε PUnit).Leaves R kept := trivial

/-- A commit that keeps some locks. -/
theorem commitKeeping (keep : List ρ) :
    (Prog.commitKeeping keep : Prog σ ρ ε PUnit).Leaves R kept := trivial

/-- A transaction. -/
theorem transaction {p : Prog σ ρ ε α} (h : p.Leaves R kept) :
    (Prog.transaction p).Leaves R kept := by
  rw [Prog.transaction]
  exact h.bind fun _ => commitAll.bind fun _ => trivial

/-- A loop. -/
theorem forEach {bs : List β} {f : β → Prog σ ρ ε PUnit} (h : ∀ b, (f b).Leaves R kept) :
    (Prog.forEach bs f).Leaves R kept := by
  induction bs with
  | nil => trivial
  | cons b bs ih => exact (h b).bind fun _ => ih

/-- A write to what is left alone. -/
theorem write {locks : List (ρ × Mode)} {w : σ → σ} (hlocks : ∀ l ∈ locks, kept l.1 = false)
    (hw : ∀ s, R s (w s)) : (Prog.write locks w : Prog σ ρ ε PUnit).Leaves R kept :=
  ⟨fun _ => hlocks, hw, fun _ => trivial⟩

/-- A write that fails unless a condition holds. -/
theorem writeIf {locks : List (ρ × Mode)} {ok : σ → Bool} {e : ε} {w : σ → σ}
    (hlocks : ∀ l ∈ locks, kept l.1 = false) (hw : ∀ s, R s (w s)) :
    (Prog.writeIf locks ok e w : Prog σ ρ ε PUnit).Leaves R kept := by
  refine ⟨fun _ => hlocks, hw, fun v => ?_⟩
  dsimp only
  split <;> trivial

/-- A write that a constraint may refuse. -/
theorem writeUnless {locks : List (ρ × Mode)} {refused : σ → Option ε} {w : σ → σ}
    (hlocks : ∀ l ∈ locks, kept l.1 = false) (hw : ∀ s, R s (w s)) :
    (Prog.writeUnless locks refused w : Prog σ ρ ε PUnit).Leaves R kept := by
  refine ⟨fun _ => hlocks, hw, fun v => ?_⟩
  dsimp only
  split <;> trivial

variable (hrefl : ∀ s, R s s)

include hrefl

/-- A query under locks that are not kept. -/
theorem queryUnder {locks : σ → List (ρ × Mode)} {q : σ → α}
    (hlocks : ∀ v, ∀ l ∈ locks v, kept l.1 = false) :
    (Prog.queryUnder locks q : Prog σ ρ ε α).Leaves R kept :=
  ⟨hlocks, hrefl, fun _ => trivial⟩

/-- A query. -/
theorem query (q : σ → α) : (Prog.query q : Prog σ ρ ε α).Leaves R kept :=
  queryUnder hrefl fun _ _ hl => absurd hl List.not_mem_nil

/-- A compare-and-set. -/
theorem claim {lock : ρ} {matched : σ → Bool} {e : ε} {w : σ → σ} (hlock : kept lock = false)
    (hw : ∀ s, R s (w s)) : (Prog.claim lock matched e w : Prog σ ρ ε PUnit).Leaves R kept := by
  refine (query hrefl _).bind fun _ => (require _ _).bind fun _ => writeIf (fun l hl => ?_) hw
  rw [List.mem_singleton.mp hl]
  exact hlock

/-- An update of one row after the other. -/
theorem updateEach {bs : List β} {lock : β → ρ} {matched : β → σ → Bool} {w : β → σ → σ}
    (hlock : ∀ b, kept (lock b) = false) (hw : ∀ b s, R s (w b s)) :
    (Prog.updateEach bs lock matched w : Prog σ ρ ε PUnit).Leaves R kept := by
  refine forEach fun b => (queryUnder hrefl fun _ l hl => ?_).bind fun still => ?_
  · rw [List.mem_singleton.mp hl]
    exact hlock b
  · split
    · exact write (fun _ hl => absurd hl List.not_mem_nil) (hw b)
    · trivial

omit hrefl

/-- What a program does on a part of the store leaves the rest alone, whatever the program is. -/
theorem lift {R : τ → τ → Prop} {kept : κ → Bool} (p : Prog σ ρ ε α) {get : τ → σ}
    {put : σ → τ → τ} {lock : ρ → κ} (hput : ∀ c t, R t (put c t))
    (hlock : ∀ l, kept (lock l) = false) : (p.lift get put lock).Leaves R kept := by
  induction p with
  | done a => trivial
  | fail e => trivial
  | stmt locks effect next ih =>
    refine ⟨fun t l hl => ?_, fun t => hput _ t, fun t => ih (get t)⟩
    obtain ⟨l', -, rfl⟩ := List.mem_map.mp hl
    exact hlock l'.1
  | commit keep next ih => exact ih
  | rollback next ih => exact ih

/-- On a larger store the program leaves alone what it leaves alone on its part. -/
theorem lifted {R' : τ → τ → Prop} {kept' : κ → Bool} {p : Prog σ ρ ε α} {get : τ → σ}
    {put : σ → τ → τ} {lock : ρ → κ} (hp : p.Leaves R kept)
    (hR : ∀ t c, R (get t) c → R' t (put c t)) (hlock : ∀ l, kept l = false → kept' (lock l) = false) :
    (p.lift get put lock).Leaves R' kept' := by
  induction p with
  | done a => trivial
  | fail e => trivial
  | stmt locks effect next ih =>
    obtain ⟨hlocks, heffect, hnext⟩ := hp
    refine ⟨fun t l hl => ?_, fun t => hR t _ (heffect _), fun t => ih (get t) (hnext _)⟩
    obtain ⟨l', hl', rfl⟩ := List.mem_map.mp hl
    exact hlock l'.1 (hlocks (get t) l' hl')
  | commit keep next ih => exact ih hp
  | rollback next ih => exact ih hp

/-- A program with its handler. -/
theorem tryCatch {p : Prog σ ρ ε α} {handler : ε → Prog σ ρ ε α} (hp : p.Leaves R kept)
    (hhandler : ∀ e, (handler e).Leaves R kept) : (p.tryCatch handler).Leaves R kept := by
  induction p with
  | done a => trivial
  | fail e => exact hhandler e
  | stmt locks effect next ih => exact ⟨hp.1, hp.2.1, fun v => ih v (hp.2.2 v)⟩
  | commit keep next ih => exact ih hp
  | rollback next ih => exact ih hp

/-- Fewer locks may be kept. -/
theorem mono {kept' : ρ → Bool} {p : Prog σ ρ ε α} (hp : p.Leaves R kept)
    (hkept : ∀ l, kept l = false → kept' l = false) : p.Leaves R kept' := by
  induction p with
  | done a => trivial
  | fail e => trivial
  | stmt locks effect next ih =>
    exact ⟨fun v l hl => hkept l.1 (hp.1 v l hl), hp.2.1, fun v => ih v (hp.2.2 v)⟩
  | commit keep next ih => exact ih hp
  | rollback next ih => exact ih hp

/-- Alone, such a program leaves the rest of the store as it was. -/
theorem solo {p : Prog σ ρ ε α} (hp : p.Leaves R kept)
    (htrans : ∀ {s s' s''}, R s s' → R s' s'' → R s s'') {s c w : σ} (hc : R s c) (hw : R s w) :
    R s (p.solo c w).2.1 ∧ R s (p.solo c w).2.2 := by
  induction p generalizing c w with
  | done a => exact ⟨hc, hw⟩
  | fail e => exact ⟨hc, hc⟩
  | stmt locks effect next ih => exact ih w (hp.2.2 w) hc (htrans hw (hp.2.1 w))
  | commit keep next ih => exact ih hp hw hw
  | rollback next ih => exact ih hp hc hc

end Leaves

/-- A program that is done only after it has committed, or rolled back, all that it did since it
was `concluded`. -/
def Concludes : Bool → Prog σ ρ ε α → Prop
  | concluded, .done _ => concluded = true
  | _, .fail _ => True
  | _, .stmt _ _ next => ∀ v, (next v).Concludes false
  | _, .commit keep next => next.Concludes keep.isEmpty
  | _, .rollback next => next.Concludes true

namespace Concludes

/-- A program after another ends as the second one does. -/
theorem bind {f : α → Prog σ ρ ε β} (hf : ∀ a concluded, (f a).Concludes concluded) (p : Prog σ ρ ε α)
    (concluded : Bool) : (p >>= f).Concludes concluded := by
  induction p generalizing concluded with
  | done a => exact hf a concluded
  | fail e => trivial
  | stmt locks effect next ih => exact fun v => ih v false
  | commit keep next ih => exact ih keep.isEmpty
  | rollback next ih => exact ih true

/-- A transaction ends with nothing pending. -/
theorem transaction (p : Prog σ ρ ε α) (concluded : Bool) : (Prog.transaction p).Concludes concluded := by
  rw [Prog.transaction]
  refine bind (fun a concluded => ?_) p concluded
  exact List.isEmpty_nil

/-- A program with its handler. -/
theorem tryCatch {p : Prog σ ρ ε α} {handler : ε → Prog σ ρ ε α} {concluded : Bool}
    (hp : p.Concludes concluded) (hhandler : ∀ e, (handler e).Concludes true) :
    (p.tryCatch handler).Concludes concluded := by
  induction p generalizing concluded with
  | done a => exact hp
  | fail e => exact hhandler e
  | stmt locks effect next ih => exact fun v => ih v (hp v)
  | commit keep next ih => exact ih hp
  | rollback next ih => exact ih hp

/-- Alone, such a program ends with nothing left to commit. -/
theorem solo {p : Prog σ ρ ε α} {concluded : Bool} (hp : p.Concludes concluded) {c w : σ}
    (h : concluded = true → c = w) : (p.solo c w).2.1 = (p.solo c w).2.2 := by
  induction p generalizing concluded c w with
  | done a => exact h hp
  | fail e => rfl
  | stmt locks effect next ih => exact ih w (hp w) fun hfalse => by cases hfalse
  | commit keep next ih => exact ih hp fun _ => rfl
  | rollback next ih => exact ih hp fun _ => rfl

end Concludes

end Prog

section Rules

variable [DecidableEq ρ]

section Safe

variable {D : Discipline σ ρ} {post : β → σ → List (ρ × Mode × σ) → (σ → σ) → Prop} {last : σ}
  {notes : List (ρ × Mode × σ)} {pending : σ → σ}

/-- What a program without writes reads does not matter to one that relies on nothing of it. -/
theorem Prog.Safe.noWrites {p : Prog σ ρ ε α} {f : α → Prog σ ρ ε β} (hp : p.NoWrites)
    (h : ∀ a last' notes', D.Later last last' → (∀ n ∈ notes, n ∈ notes') →
      (f a).Safe D post last' notes' pending) :
    (p >>= f).Safe D post last notes pending := by
  induction p generalizing last notes with
  | done a => exact h a last notes (.refl last) fun _ hn => hn
  | fail e => trivial
  | stmt locks effect next ih =>
    obtain ⟨rfl, hnext⟩ := hp
    intro s _ hlast _
    exact ih _ (hnext _) fun a last' notes' hlater hnotes =>
      h a last' notes' (hlast.trans hlater) fun n hn => hnotes n (List.mem_append_left _ hn)
  | commit keep next ih => exact hp.elim
  | rollback next ih => exact hp.elim

/-- A program whose writes change the store only as a commit may, once some fact about the store is
known that commits do not change. -/
theorem Prog.Safe.leaves {R : σ → σ → Prop} {P : σ → Prop} {p : Prog σ ρ ε α}
    (hp : p.Leaves R D.kept) (hrefl : ∀ s, R s s)
    (htrans : ∀ {s s' s''}, R s s' → R s' s'' → R s s'')
    (hP : ∀ s s', D.anyone s s' → P s → P s')
    (hcommit : ∀ s s', D.inv s → P s → R s s' →
      D.inv s' ∧ D.commits s s' ∧ ∀ l m, D.same l m s s')
    (hlast : P last) (hpending : ∀ s, R s (pending s)) :
    p.Safe D (fun _ _ _ _ => True) last notes pending := by
  induction p generalizing last notes pending with
  | done a => trivial
  | fail e => trivial
  | stmt locks effect next ih =>
    intro s _ hlater _
    exact ih _ (hp.2.2 _) (hlater.keeps hP hlast) fun s => htrans (hpending s) (hp.2.1 _)
  | commit keep next ih =>
    intro s hs hlater _
    have hs' := hlater.keeps hP hlast
    obtain ⟨hinv, hcommits, hsame⟩ := hcommit s _ hs hs' (hpending s)
    exact ⟨hinv, hcommits, fun l m _ => hsame l m, fun n _ _ => hsame _ _,
      ih hp (hP _ _ (D.commits_anyone _ _ hcommits) hs') hrefl⟩
  | rollback next ih => exact ih hp hlast hrefl

end Safe

/-- A program that has concluded all when it is done leaves nothing behind. -/
theorem Prog.Safe.clean {D : Discipline σ ρ} {post : α → σ → List (ρ × Mode × σ) → (σ → σ) → Prop}
    {p : Prog σ ρ ε α} {last : σ} {notes : List (ρ × Mode × σ)} {pending : σ → σ} {concluded : Bool}
    (h : p.Safe D post last notes pending) (hp : p.Concludes concluded)
    (hconcluded : concluded = true → notes = [] ∧ pending = id) :
    p.Safe D Prog.Safe.Clean last notes pending := by
  induction p generalizing last notes pending concluded with
  | done a => exact hconcluded hp
  | fail e => trivial
  | stmt locks effect next ih =>
    exact fun s hs hlast hknows => ih _ (h s hs hlast hknows) (hp _) (fun hfalse => by cases hfalse)
  | commit keep next ih =>
    intro s hs hlast hknows
    obtain ⟨hinv, hcommits, hsame, hkeep, hnext⟩ := h s hs hlast hknows
    refine ⟨hinv, hcommits, hsame, hkeep, ih hnext hp fun hempty => ⟨?_, rfl⟩⟩
    rw [List.isEmpty_iff.mp hempty]
    simp
  | rollback next ih => exact ih h hp fun _ => ⟨rfl, rfl⟩

/-- A program that leaves alone what the discipline is about keeps it. -/
theorem Prog.Guarded.leaves {G : Guards σ ρ} {R : σ → σ → Prop} {p : Prog σ ρ ε α} {last : σ}
    {pending : σ → σ} (hp : p.Leaves R G.kept) (hrefl : ∀ s, R s s)
    (htrans : ∀ {s s' s''}, R s s' → R s' s'' → R s s'')
    (hinv : ∀ {s s'}, R s s' → G.inv s → G.inv s') (hcommits : ∀ {s s'}, R s s' → G.commits s s')
    (hsame : ∀ {s s'}, R s s' → ∀ l m, G.same l m s s')
    (hguard : ∀ {s s'}, R s s' → ∀ l, G.guard l s → G.guard l s')
    (hpending : ∀ s, R s (pending s)) : p.Guarded G (AtEnd G) last [] pending := by
  induction p generalizing last pending with
  | done a => exact givesBack_nil
  | fail e => exact givesBack_nil
  | stmt locks effect next ih =>
    obtain ⟨hlocks, heffect, hnext⟩ := hp
    intro s _ _ _ _
    have htaken : G.taken (locks (pending s)) s = [] := by
      rw [Discipline.taken, List.map_eq_nil_iff, List.filter_eq_nil_iff]
      intro l hl
      simp [hlocks (pending s) l hl]
    rw [htaken]
    exact ih (pending s) (hnext _) fun s => htrans (hpending s) (heffect _)
  | commit keep next ih =>
    intro s hs _ _ _ _
    have hpend := hpending s
    refine ⟨hinv hpend hs, hcommits hpend, fun l m _ => hsame hpend l m, fun l _ => hguard hpend l,
      fun l hl => absurd hl.choose_spec List.not_mem_nil, ?_⟩
    exact ih hp hrefl
  | rollback next ih => exact ⟨givesBack_nil, ih hp hrefl⟩

end Rules

end Relational.ReadCommitted
