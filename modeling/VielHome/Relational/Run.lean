import Mathlib.Tactic.Common

/-!
# Runs of a state machine

A state machine is a total step function: an event that fails is a step to the same state.
`runFrom` folds the steps of a list of events, `Reachable` is the set of states some list
reaches, and the induction over the list is packaged once, in three forms:

* `runFrom_induction`, for a property every step keeps;
* `runFrom_induction_of_eachStep`, for a property kept by the steps that meet a condition,
  over a run all of whose steps do;
* `track_induction`, for a relation between the state and a history variable that the run
  computes but the state does not store.
-/

namespace Relational

universe u v w

variable {σ : Type u} {ε : Type v} {γ : Type w} (step : σ → ε → σ)

/-- The state after a list of events. -/
def runFrom (s : σ) (es : List ε) : σ := es.foldl step s

@[simp] theorem runFrom_nil (s : σ) : runFrom step s [] = s := rfl

@[simp] theorem runFrom_cons (s : σ) (e : ε) (es : List ε) :
    runFrom step s (e :: es) = runFrom step (step s e) es := rfl

theorem runFrom_append (s : σ) (es es' : List ε) :
    runFrom step s (es ++ es') = runFrom step (runFrom step s es) es' :=
  List.foldl_append

/-- The states some run from `init` reaches. -/
def Reachable (init s : σ) : Prop := ∃ es, runFrom step init es = s

/-- Every event of the run meets `C` in the state in which it happens. -/
def EachStep (C : σ → ε → Prop) : σ → List ε → Prop
  | _, [] => True
  | s, e :: es => C s e ∧ EachStep C (step s e) es

instance EachStep.decidable {C : σ → ε → Prop} [DecidableRel C] :
    (s : σ) → (es : List ε) → Decidable (EachStep step C s es)
  | _, [] => inferInstanceAs (Decidable True)
  | s, e :: es =>
    have := EachStep.decidable (C := C) (step s e) es
    inferInstanceAs (Decidable (C s e ∧ EachStep step C (step s e) es))

/-- The value of a history variable after a run: `update` sees each event and the state in
which it happens. -/
def track (update : σ → ε → γ → γ) : γ → σ → List ε → γ
  | g, _, [] => g
  | g, s, e :: es => track update (update s e g) (step s e) es

variable {step}

theorem Reachable.refl (init : σ) : Reachable step init init := ⟨[], rfl⟩

theorem Reachable.next {init s : σ} (h : Reachable step init s) (e : ε) :
    Reachable step init (step s e) := by
  obtain ⟨es, rfl⟩ := h
  exact ⟨es ++ [e], by simp [runFrom_append]⟩

theorem Reachable.runFrom {init s : σ} (h : Reachable step init s) (es : List ε) :
    Reachable step init (runFrom step s es) := by
  obtain ⟨es', rfl⟩ := h
  exact ⟨es' ++ es, runFrom_append step init es' es⟩

/-- A property every step keeps holds after every run. -/
theorem runFrom_induction {P : σ → Prop} (hstep : ∀ s e, P s → P (step s e)) {s : σ} (hs : P s)
    (es : List ε) : P (runFrom step s es) := by
  induction es generalizing s with
  | nil => exact hs
  | cons e es ih => exact ih (hstep s e hs)

theorem Reachable.induction {P : σ → Prop} (hstep : ∀ s e, P s → P (step s e)) {init s : σ}
    (hinit : P init) (h : Reachable step init s) : P s := by
  obtain ⟨es, rfl⟩ := h
  exact runFrom_induction hstep hinit es

theorem eachStep_append {C : σ → ε → Prop} {s : σ} {es es' : List ε} :
    EachStep step C s (es ++ es') ↔
      EachStep step C s es ∧ EachStep step C (Relational.runFrom step s es) es' := by
  induction es generalizing s with
  | nil => simp [EachStep]
  | cons e es ih => simp [EachStep, ih, and_assoc]

/-- What holds of every step holds of those of a run. -/
theorem EachStep.of_forall {C : σ → ε → Prop} (h : ∀ s e, C s e) {s : σ} (es : List ε) :
    EachStep step C s es := by
  induction es generalizing s with
  | nil => trivial
  | cons e es ih => exact ⟨h s e, ih⟩

/-- A weaker condition holds of every step too. -/
theorem EachStep.mono {C C' : σ → ε → Prop} (h : ∀ s e, C s e → C' s e) {s : σ} {es : List ε}
    (hes : EachStep step C s es) : EachStep step C' s es := by
  induction es generalizing s with
  | nil => trivial
  | cons e es ih => exact ⟨h s e hes.1, ih hes.2⟩

/-- A property kept by the steps that meet `C` holds after a run of such steps. -/
theorem runFrom_induction_of_eachStep {P : σ → Prop} {C : σ → ε → Prop}
    (hstep : ∀ s e, P s → C s e → P (step s e)) {s : σ} (hs : P s) {es : List ε}
    (hes : EachStep step C s es) : P (runFrom step s es) := by
  induction es generalizing s with
  | nil => exact hs
  | cons e es ih => exact ih (hstep s e hs hes.1) hes.2

/-- What follows of each step that meets `C` from a property kept by such steps holds of every step
of a run of them. -/
theorem EachStep.of_invariant {P : σ → Prop} {C C' : σ → ε → Prop}
    (hstep : ∀ s e, P s → C s e → P (step s e)) (hgood : ∀ s e, P s → C s e → C' s e) {s : σ}
    (hs : P s) {es : List ε} (hes : EachStep step C s es) : EachStep step C' s es := by
  induction es generalizing s with
  | nil => trivial
  | cons e es ih => exact ⟨hgood s e hs hes.1, ih (hstep s e hs hes.1) hes.2⟩

/-- A property that a step keeps exactly when it meets `C` holds all the way through a run
exactly when every step does. -/
theorem forall_prefix_iff {P : σ → Prop} {A C : σ → ε → Prop}
    (hstep : ∀ s e, A s e → P s → (P (step s e) ↔ C s e)) {s : σ} (hs : P s) {es : List ε}
    (hes : EachStep step A s es) :
    (∀ es', es' <+: es → P (runFrom step s es')) ↔ EachStep step C s es := by
  induction es generalizing s with
  | nil =>
    refine iff_of_true (fun es' hes' => ?_) trivial
    rw [List.prefix_nil.mp hes']
    exact hs
  | cons e es ih =>
    constructor
    · intro hall
      have hP : P (step s e) := hall [e] ⟨es, rfl⟩
      refine ⟨(hstep s e hes.1 hs).mp hP, (ih hP hes.2).mp fun es' hes' => ?_⟩
      exact hall (e :: es') (List.cons_prefix_cons.mpr ⟨rfl, hes'⟩)
    · rintro ⟨hC, hrest⟩ es' hes'
      have hP : P (step s e) := (hstep s e hes.1 hs).mpr hC
      cases es' with
      | nil => exact hs
      | cons e' es' =>
        obtain ⟨rfl, hprefix⟩ := List.cons_prefix_cons.mp hes'
        exact (ih hP hes.2).mpr hrest es' hprefix

/-- A relation between state and history that every step keeps holds after every run. -/
theorem track_induction {update : σ → ε → γ → γ} {R : σ → γ → Prop}
    (hstep : ∀ s e g, R s g → R (step s e) (update s e g)) {s : σ} {g : γ} (h : R s g)
    (es : List ε) : R (runFrom step s es) (track step update g s es) := by
  induction es generalizing s g with
  | nil => exact h
  | cons e es ih => exact ih (hstep s e g h)

end Relational
