import VielHome.BuildingVerification.Service
import VielHome.Relational.Guards

/-!
# Buildings are decided once

The verification of a building is its list of cases and its status. All cases but the latest one
are decided (`OnlyLastOpen`), a decided case never changes (`KeepsDecided`), and the status of the
building is that of its latest case (`Agrees`) whenever nobody is at work on it: a call takes the
verification over when it reads what it decides by, breaks the agreement when it writes the case,
and restores it when it writes the building.

This holds in any interleaving in which nobody takes a verification over while somebody else is at
work on it, no call is cut off before it has restored the agreement, and a building is evaluated
once.
-/

namespace VielHome.BuildingVerification

open Relational
open Community (BuildingStatus Time)
open Relational.ReadCommitted (Database Discipline Event Free Guards Mode Owns Prog Restored
  not_free_of_exclusive)

variable {s s' : Store} {buildingId : ℕ}

/-! ### Cases of a building -/

/-- The case was decided: it is `VERIFIED` or `REJECTED`. -/
def IsDecided (k : BuildingVerificationCase) : Prop := k.status = .verified ∨ k.status = .rejected

instance (k : BuildingVerificationCase) : Decidable (IsDecided k) :=
  inferInstanceAs (Decidable (_ ∨ _))

theorem mem_casesOf {k : BuildingVerificationCase} :
    k ∈ s.casesOf buildingId ↔ k ∈ s.cases ∧ k.buildingId = buildingId := by
  simp [Store.casesOf, Table.mem_rows]

theorem casesOf_create {params : BackOfficeRepository.CaseParams}
    (h : s'.cases = s.cases.create params.row params.row_id) :
    s'.casesOf buildingId =
      if params.buildingId = buildingId then
        s.casesOf buildingId ++ [params.row s.cases.next]
      else s.casesOf buildingId := by
  have hrows : s'.cases.rows = s.cases.rows ++ [params.row s.cases.next] := by rw [h]; rfl
  have hbuilding : (params.row s.cases.next).buildingId = params.buildingId := rfl
  rw [Store.casesOf, hrows, List.filter_append]
  by_cases hid : params.buildingId = buildingId
  · rw [if_pos hid, List.filter_cons_of_pos (by simp [hbuilding, hid])]
    rfl
  · rw [if_neg hid, List.filter_cons_of_neg (by simp [hbuilding, hid])]
    exact List.append_nil _

section Modify

variable {caseId : ℕ} {f : BuildingVerificationCase → BuildingVerificationCase}
  {hf : ∀ k, (f k).id = k.id}

theorem casesOf_modify (hbuilding : ∀ k, (f k).buildingId = k.buildingId)
    (h : s'.cases = s.cases.modify caseId f hf) :
    s'.casesOf buildingId =
      (s.casesOf buildingId).map fun k => if k.id = caseId then f k else k := by
  have hrows : s'.cases.rows = s.cases.rows.map fun k => if k.id = caseId then f k else k := by
    rw [h]
    exact List.map_congr_left fun k _ => by simp
  rw [Store.casesOf, hrows, List.filter_map]
  refine congrArg _ (List.filter_congr fun k _ => ?_)
  simp only [Function.comp]
  split
  · rw [hbuilding]
  · rfl

/-- A rewritten case belongs to one building only. -/
theorem casesOf_modify_ne {k : BuildingVerificationCase} (hk : s.cases.find? caseId = some k)
    (hne : buildingId ≠ k.buildingId) (hbuilding : ∀ k, (f k).buildingId = k.buildingId)
    (h : s'.cases = s.cases.modify caseId f hf) : s'.casesOf buildingId = s.casesOf buildingId := by
  rw [casesOf_modify hbuilding h]
  refine (List.map_congr_left fun r hr => if_neg fun hid => ?_).trans (List.map_id _)
  obtain ⟨hr, hr'⟩ := mem_casesOf.mp hr
  obtain rfl : r = k := Option.some.inj ((hid ▸ Table.find?_of_mem hr).symm.trans hk)
  exact hne hr'.symm

end Modify

/-! ### What holds of the cases and the status -/

/-- The building of every case is there. -/
def Housed (s : Store) : Prop := ∀ k ∈ s.cases, (s.buildings.find? k.buildingId).isSome

/-- Of the cases of a building at most the latest one is undecided. -/
def OnlyLastOpen (s : Store) : Prop :=
  ∀ buildingId, ∀ k ∈ (s.casesOf buildingId).dropLast, IsDecided k

/-- A building has the status of its latest case. -/
def Agrees (buildingId : ℕ) (s : Store) : Prop :=
  ∀ k, s.latestCase buildingId = some k → s.statusOf buildingId = some k.status

instance (buildingId : ℕ) (s : Store) : Decidable (Agrees buildingId s) :=
  inferInstanceAs (Decidable (∀ k ∈ s.latestCase buildingId,
    s.statusOf buildingId = some k.status))

/-- Decided cases do not change. -/
def KeepsDecided (s s' : Store) : Prop :=
  ∀ id k, s.cases.find? id = some k → IsDecided k → s'.cases.find? id = some k

/-- An undecided case is the latest one of its building. -/
theorem OnlyLastOpen.latest (h : OnlyLastOpen s) {k : BuildingVerificationCase}
    (hk : k ∈ s.casesOf buildingId) (hopen : ¬ IsDecided k) :
    ∃ l, s.casesOf buildingId = l ++ [k] := by
  rcases List.eq_nil_or_concat' (s.casesOf buildingId) with hnil | ⟨l, x, heq⟩
  · rw [hnil] at hk
    exact absurd hk List.not_mem_nil
  · refine ⟨l, ?_⟩
    have hdecided := h buildingId
    rw [heq, List.dropLast_concat] at hdecided
    rw [heq, List.mem_append, List.mem_singleton] at hk
    rcases hk with hk | rfl
    · exact absurd (hdecided k hk) hopen
    · exact heq

/-- At most one case of a building is undecided. -/
theorem OnlyLastOpen.unique (h : OnlyLastOpen s) {k k' : BuildingVerificationCase} (hk : k ∈ s.cases)
    (hk' : k' ∈ s.cases) (hbuilding : k.buildingId = k'.buildingId) (hopen : ¬ IsDecided k)
    (hopen' : ¬ IsDecided k') : k = k' := by
  obtain ⟨l, hl⟩ := h.latest (mem_casesOf.mpr ⟨hk, rfl⟩) hopen
  obtain ⟨l', hl'⟩ := h.latest (mem_casesOf.mpr ⟨hk', hbuilding.symm⟩) hopen'
  exact (List.append_inj' (hl.symm.trans hl') rfl).2 |> List.singleton_inj.mp

/-- When the latest case is decided, all are. -/
theorem OnlyLastOpen.all_decided (h : OnlyLastOpen s) {latest : BuildingVerificationCase}
    (hlatest : s.latestCase buildingId = some latest) (hdecided : IsDecided latest) :
    ∀ k ∈ s.casesOf buildingId, IsDecided k := by
  intro k hk
  by_contra hopen
  obtain ⟨l, hl⟩ := h.latest hk hopen
  rw [Store.latestCase, hl, List.getLast?_concat] at hlatest
  exact hopen (Option.some.inj hlatest ▸ hdecided)

/-! ### What the sessions rely on -/

/-- The verification of a building is the same. -/
def SameVerification (buildingId : ℕ) (s s' : Store) : Prop :=
  s'.casesOf buildingId = s.casesOf buildingId ∧ s'.statusOf buildingId = s.statusOf buildingId

theorem SameVerification.refl : SameVerification buildingId s s := ⟨rfl, rfl⟩

theorem SameVerification.trans {s'' : Store} (h : SameVerification buildingId s s')
    (h' : SameVerification buildingId s' s'') : SameVerification buildingId s s'' :=
  ⟨h'.1.trans h.1, h'.2.trans h.2⟩

theorem SameVerification.latestCase (h : SameVerification buildingId s s') :
    s'.latestCase buildingId = s.latestCase buildingId := congrArg List.getLast? h.1

theorem SameVerification.agrees (h : SameVerification buildingId s s') (hs : Agrees buildingId s) :
    Agrees buildingId s' := by
  intro k hk
  rw [h.2]
  exact hs k (h.latestCase.symm.trans hk)

/-- What a lock protects. -/
def sameFor : Lock → Store → Store → Prop
  | .verification buildingId, s, s' => SameVerification buildingId s s'
  | .row _ _, _, _ => True

theorem sameFor_refl (l : Lock) (s : Store) : sameFor l s s := by
  cases l with
  | verification buildingId => exact .refl
  | row table id => trivial

theorem sameFor_trans {l : Lock} {s s' s'' : Store} (h : sameFor l s s') (h' : sameFor l s' s'') :
    sameFor l s s'' := by
  cases l with
  | verification buildingId => exact SameVerification.trans h h'
  | row table id => trivial

/-- What a lock guards: that the status of the building agrees with its latest case. -/
def guardOf : Lock → Store → Prop
  | .verification buildingId, s => Agrees buildingId s
  | .row _ _, _ => True

instance : (l : Lock) → DecidablePred (guardOf l)
  | .verification buildingId => inferInstanceAs (DecidablePred (Agrees buildingId))
  | .row _ _ => inferInstanceAs (DecidablePred fun _ => True)

/-- A case that is new and no appeal is the first one of its building. -/
def EvaluatedOnce (s s' : Store) : Prop :=
  ∀ k ∈ s'.cases, k.isAppeal = false → s.cases.find? k.id = none → s.casesOf k.buildingId = []

instance (s s' : Store) : Decidable (EvaluatedOnce s s') :=
  inferInstanceAs (Decidable (∀ k ∈ s'.cases, k.isAppeal = false → s.cases.find? k.id = none →
    s.casesOf k.buildingId = []))

/-- What the sessions rely on: a case that was decided stays as it is. -/
def verification : Guards Store Lock where
  inv s := Housed s ∧ OnlyLastOpen s
  commits := KeepsDecided
  kept _ := true
  same l _ s s' := sameFor l s s'
  same_refl l _ s := sameFor_refl l s
  same_trans _ _ _ _ _ h h' := sameFor_trans h h'
  guard := guardOf
  allowed := EvaluatedOnce
  during _ _ := True

instance (l : Lock) : DecidablePred (verification.guard l) :=
  inferInstanceAs (DecidablePred (guardOf l))

instance (s s' : Store) : Decidable (verification.allowed s s') :=
  inferInstanceAs (Decidable (EvaluatedOnce s s'))

instance (l : Lock) : DecidablePred (verification.during l) :=
  inferInstanceAs (DecidablePred fun _ => True)

/-! ### Sessions at work -/

variable {α β : Type} {last s₀ : Store} {notes : List (Lock × Mode × Store)}
  {post : β → Store → List (Lock × Mode × Store) → (Store → Store) → Prop}

/-- The session is at work on the verification of one building, which was that of `s₀` when it
took it over, or when it committed last. -/
def AtWork (buildingId : ℕ) (s₀ : Store) (notes : List (Lock × Mode × Store)) : Prop :=
  (.verification buildingId, .exclusive, s₀) ∈ notes ∧
    ∀ n ∈ notes, ∀ b, n.1 = .verification b → b = buildingId

theorem AtWork.same (h : AtWork buildingId s₀ notes) (hknows : verification.Knows notes s) :
    SameVerification buildingId s₀ s := hknows _ h.1

theorem AtWork.append_row (h : AtWork buildingId s₀ notes) {table : TableName} {id : ℕ} {m : Mode} :
    AtWork buildingId s₀ (notes ++ [(.row table id, m, s)]) := by
  refine ⟨List.mem_append_left _ h.1, fun n hn b hb => ?_⟩
  rcases List.mem_append.mp hn with hn | hn
  · exact h.2 n hn b hb
  · rw [List.mem_singleton.mp hn] at hb
    cases hb

theorem AtWork.refreshed (h : AtWork buildingId s₀ notes) :
    AtWork buildingId s (ReadCommitted.refreshed [.verification buildingId] notes s) := by
  refine ⟨ReadCommitted.mem_refreshed.mpr ⟨s₀, h.1, List.mem_singleton_self _, rfl⟩,
    fun n hn b hb => ?_⟩
  obtain ⟨s₁, hn, -, -⟩ := ReadCommitted.mem_refreshed.mp hn
  exact h.2 _ hn b hb

/-- A commit changes the verification of the building that the session is at work on, and no
other. -/
theorem AtWork.conclude (h : AtWork buildingId s₀ notes)
    (hothers : ∀ b, b ≠ buildingId → SameVerification b s s') :
    (∀ l m, Free notes l m → sameFor l s s') ∧
      ∀ l, ¬ Owns notes l → guardOf l s → guardOf l s' := by
  refine ⟨fun l m hl => ?_, fun l hl hguard => ?_⟩
  · cases l with
    | row table id => trivial
    | verification b =>
      refine hothers b fun hb => ?_
      exact not_free_of_exclusive h.1 (hb ▸ hl)
  · cases l with
    | row table id => trivial
    | verification b =>
      have hb : b ≠ buildingId := fun hb => hl ⟨s₀, hb ▸ h.1⟩
      exact (hothers b hb).agrees hguard

/-- The one building that the session is at work on agrees again. -/
theorem AtWork.restored (h : AtWork buildingId s₀ notes) (hagrees : Agrees buildingId s) :
    Restored verification notes s := by
  rintro l ⟨s₁, hl⟩
  cases l with
  | row table id => trivial
  | verification b => exact (h.2 _ hl b rfl) ▸ hagrees

/-! ### The statements of the calls -/

/-- The status of the building is written last, and agrees with the latest case. -/
theorem guarded_updateBuildingStatus {status : BuildingStatus} (hwork : AtWork buildingId s₀ notes)
    (hstatus : ∀ k, s₀.latestCase buildingId = some k → k.status = status)
    (hhoused : (s₀.statusOf buildingId).isSome) :
    (BuildingRepository.updateBuildingStatus buildingId status).Guarded verification
      (Prog.Guarded.AtEnd verification) last notes id := by
  have hfound : ∀ s, verification.Knows notes s → (s.buildings.find? buildingId).isSome = true := by
    intro s hknows
    have hsome := (hwork.same hknows).2 ▸ hhoused
    rwa [Store.statusOf, Option.isSome_map] at hsome
  rw [BuildingRepository.updateBuildingStatus, Prog.transaction]
  refine Prog.Guarded.writeIf (fun s _ _ hknows hmissing => ?_) fun s₁ _ _ _ _ => ?_
  · exact absurd (hmissing.symm.trans (hfound s hknows)) Bool.false_ne_true
  refine Prog.Guarded.commitAll fun s hs _ hknows _ _ => ?_
  have hknows' : verification.Knows notes s := fun n hn => hknows n (List.mem_append_left _ hn)
  have hwork' : AtWork buildingId s₀ (notes ++ [(.row .building buildingId, .exclusive, s₁)]) :=
    hwork.append_row
  obtain ⟨b, hb⟩ := Option.isSome_iff_exists.mp (hfound s hknows')
  have hothers : ∀ b, b ≠ buildingId → SameVerification b s (s.onBuildings
      (·.modify buildingId (BuildingRepository.withStatus status)
        (BuildingRepository.withStatus_id status))) := by
    intro b hb
    refine ⟨rfl, ?_⟩
    rw [Store.statusOf, Store.onBuildings_buildings, Table.find?_modify_ne hb]
    rfl
  obtain ⟨hsame, hguard⟩ := hwork'.conclude hothers
  refine ⟨⟨fun k hk => ?_, hs.2⟩, fun _ _ hk _ => hk, hsame, hguard,
    hwork'.restored fun k hk => ?_, ReadCommitted.givesBack_nil⟩
  · -- every building is still there
    have hsome := hs.1 k hk
    rw [id, Store.onBuildings_buildings, Table.find?_modify]
    split
    · rwa [Option.isSome_map]
    · exact hsome
  · have hlatest : s₀.latestCase buildingId = some k := (hwork.same hknows').latestCase.symm.trans hk
    rw [id, Store.statusOf, Store.onBuildings_buildings, Table.find?_modify_self hb, hstatus k hlatest]
    rfl

end VielHome.BuildingVerification
