import VielHome.Cases.Service
import VielHome.Relational.Discipline
import VielHome.Relational.Merges

/-!
# Merged cases in any interleaving

The cases of a building form a forest, and so do the support cases: no case leads back to itself
through the cases it was merged into, and a merged case is closed. Every commit of the calls that
work on cases is one step of these forests (`CaseCall.safe`), in any interleaving in which nobody
merges a case while somebody else

* has found this case unmerged and is about to merge another one into it;
* has found it closed and is about to reopen it;
* has found it open, or waiting for its creator, and is about to answer in it.

A merge, a reopening and an answer all rest on the case being unmerged, and check it on a read
that is over when they write.
-/

namespace VielHome.Cases.Merged

open Relational Community
open Relational.ReadCommitted (Database Discipline Event Free Mode Prog not_free_of_exclusive)

variable {s s' : Store} {table : TableName} {caseId : ℕ}

/-! ### The forests -/

/-- What matters of a case: what it is merged into, and its status. -/
structure View where
  into : Option ℕ
  status : CaseStatus

/-- The case is not merged by a change, and stays closed if it was merged before. -/
structure View.Keeps (v v' : View) : Prop where
  into : v'.into = v.into
  closed : v.into ≠ none → v.status = .closed → v'.status = .closed

/-- What is claimed of a case is about this much of it. -/
def View.ofCase (c : Case) : View := ⟨c.mergedIntoId, c.status⟩

/-- The same of a support case. -/
def View.ofSupportCase (c : SupportCase) : View := ⟨c.mergedIntoId, c.status⟩

/-- A case of one of the systems. -/
def look (table : TableName) (caseId : ℕ) (s : Store) : Option View :=
  match table with
  | .buildingCase => (s.buildingCases.find? caseId).map .ofCase
  | .supportCase => (s.supportCases.find? caseId).map .ofSupportCase

/-- What the cases of a system are merged into, and which are closed. -/
def merges (table : TableName) (s : Store) : Merges ℕ where
  into caseId := (look table caseId s).bind View.into
  closed caseId := (look table caseId s).map View.status = some .closed

/-- What a case was merged into. -/
@[simp] theorem into_merges (table : TableName) (s : Store) (caseId : ℕ) :
    (merges table s).into caseId = (look table caseId s).bind View.into := rfl

/-- Which cases are closed. -/
@[simp] theorem closed_merges (table : TableName) (s : Store) (caseId : ℕ) :
    (merges table s).closed caseId ↔ (look table caseId s).map View.status = some .closed := Iff.rfl

/-- The cases of both systems form a forest. -/
def Forests (s : Store) : Prop := ∀ table, (merges table s).Forest

/-- What a case that is there was merged into. -/
theorem into_of_look {v : View} (h : look table caseId s = some v) :
    (merges table s).into caseId = v.into := by
  rw [into_merges, h]
  rfl

/-- Whether a case that is there is closed. -/
theorem closed_of_look {v : View} (h : look table caseId s = some v) :
    (merges table s).closed caseId ↔ v.status = .closed := by
  rw [closed_merges, h]
  simp

/-- A case of a forest that is not closed is not merged. -/
theorem Forests.unmerged (hs : Forests s) {v : View} (h : look table caseId s = some v)
    (hopen : v.status ≠ .closed) : v.into = none := by
  by_contra hmerged
  obtain ⟨t, ht⟩ := Option.ne_none_iff_exists'.mp hmerged
  have hinto : (merges table s).into caseId = some t := (into_of_look h).trans ht
  exact hopen ((closed_of_look h).mp ((hs table).closed caseId t hinto))

/-- The merges agree where all cases look the same. -/
theorem merges_congr (h : ∀ caseId, look table caseId s' = look table caseId s) :
    merges table s' = merges table s := by
  refine Merges.ext (funext fun caseId => ?_) (funext fun caseId => ?_)
  · rw [into_merges, into_merges, h]
  · exact congrArg (fun v => Option.map View.status v = some .closed) (h caseId)

/-! ### What the sessions rely on -/

/-- What a lock protects: how a case looks, and that a case is unmerged. -/
def sameFor : Lock → Store → Store → Prop
  | .row table caseId, s, s' => look table caseId s' = look table caseId s
  | .merge table caseId, s, s' => (merges table s).into caseId = none → (merges table s').into caseId = none

/-- A store is the same as itself, for every lock. -/
theorem sameFor_refl (l : Lock) (s : Store) : sameFor l s s := by
  cases l with
  | row table caseId => exact rfl
  | merge table caseId => exact fun h => h

/-- What is the same twice in a row is the same. -/
theorem sameFor_trans {l : Lock} {s s' s'' : Store} (h : sameFor l s s') (h' : sameFor l s' s'') :
    sameFor l s s'' := by
  cases l with
  | row table caseId => exact Eq.trans h' h
  | merge table caseId => exact fun hnone => h' (h hnone)

/-- Every commit is one step of both forests. -/
def mergeDiscipline : Discipline Store Lock where
  inv := Forests
  commits s s' := ∀ table, Merges.Step (merges table s) (merges table s')
  kept _ := true
  same l _ s s' := sameFor l s s'
  same_refl l _ s := sameFor_refl l s
  same_trans _ _ _ _ _ h h' := sameFor_trans h h'

/-! ### What a commit does -/

/-- What a commit has to keep, with the locks that it may disturb. -/
def Commits (disturbed : Lock → Prop) (s s' : Store) : Prop :=
  (∀ table, Merges.Step (merges table s) (merges table s')) ∧ ∀ l, ¬ disturbed l → sameFor l s s'

/-- A commit that disturbs nothing but locks of the session. -/
theorem Commits.conclude {notes : List (Lock × Mode × Store)} {disturbed : Lock → Prop} {P : Prop}
    (h : Commits disturbed s s') (hs : Forests s)
    (hheld : ∀ l m, Free notes l m → ¬ disturbed l) (hrest : P) :
    Forests s' ∧ (∀ table, Merges.Step (merges table s) (merges table s')) ∧
      (∀ l m, Free notes l m → sameFor l s s') ∧ P :=
  ⟨fun table => (h.1 table).forest (hs table), h.1, fun l m hl => h.2 l (hheld l m hl), hrest⟩

/-- A commit after which every case looks as before. -/
theorem quiet_commit (h : ∀ table caseId, look table caseId s' = look table caseId s) :
    Commits (fun _ => False) s s' := by
  have hmerges : ∀ table, merges table s' = merges table s := fun table => merges_congr (h table)
  refine ⟨fun table => .of_eq (hmerges table), fun l _ => ?_⟩
  cases l with
  | row table caseId => exact h table caseId
  | merge table caseId =>
    intro hnone
    rw [hmerges table]
    exact hnone

section OneCase

variable {v v' : View} (hv : look table caseId s = some v) (hv' : look table caseId s' = some v')
  (hothers : ∀ t j, ¬ (t = table ∧ j = caseId) → look t j s' = look t j s)

include hothers

/-- The other system does not change. -/
private theorem merges_other {t : TableName} (ht : t ≠ table) : merges t s' = merges t s :=
  merges_congr fun j => hothers t j fun h => ht h.1

/-- Another case that is closed stays so. -/
private theorem closed_of_ne {j : ℕ} (hj : j ≠ caseId) (h : (merges table s).closed j) :
    (merges table s').closed j :=
  (congrArg (Option.map View.status) (hothers table j fun h => hj h.2)).trans h

include hv'

/-- The merges after one case was rewritten. -/
private theorem into_eq_update :
    (merges table s').into = Function.update (merges table s).into caseId v'.into := by
  funext j
  by_cases hj : j = caseId
  · rw [hj, Function.update_self, into_of_look hv']
  · rw [Function.update_of_ne hj]
    exact congrArg (·.bind View.into) (hothers table j fun h => hj h.2)

include hv

/-- A commit that rewrites one case, and does not merge or revive it. -/
theorem rewrite_commit (hkeeps : v.Keeps v') :
    Commits (fun l => l = .row table caseId) s s' := by
  obtain ⟨hinto, hclosed⟩ := hkeeps
  have hinto' : (merges table s').into = (merges table s).into := by
    rw [into_eq_update hv' hothers, hinto]
    exact Function.update_eq_self_iff.mpr (into_of_look hv).symm
  refine ⟨fun t => ?_, fun l hl => ?_⟩
  · by_cases ht : t = table
    · subst ht
      refine .quiet hinto' fun j u hj hclosed' => ?_
      by_cases hji : j = caseId
      · subst hji
        refine (closed_of_look hv').mpr (hclosed ?_ ((closed_of_look hv).mp hclosed'))
        rw [← into_of_look hv, hj]
        simp
      · exact closed_of_ne hothers hji hclosed'
    · exact .of_eq (merges_other hothers ht)
  · cases l with
    | row t j =>
      refine hothers t j fun h => hl ?_
      rw [h.1, h.2]
    | merge t j =>
      intro hnone
      by_cases ht : t = table
      · rw [ht] at hnone ⊢
        rw [hinto', hnone]
      · rw [merges_other hothers ht, hnone]

/-- A commit that merges one case into another one that is not merged. -/
theorem merge_commit {t : ℕ} (hne : t ≠ caseId) (hnone : v.into = none)
    (ht : (merges table s).into t = none) (hinto : v'.into = some t)
    (hclosed : v'.status = .closed) :
    Commits (fun l => l = .row table caseId ∨ l = .merge table caseId) s s' := by
  have hinto' := into_eq_update hv' hothers
  refine ⟨fun u => ?_, fun l hl => ?_⟩
  · by_cases hu : u = table
    · subst hu
      refine .merge caseId t hne ((into_of_look hv).trans hnone) ht (hinto ▸ hinto')
        ((closed_of_look hv').mpr hclosed) fun j hj => ?_
      exact closed_of_ne hothers hj
    · exact .of_eq (merges_other hothers hu)
  · cases l with
    | row u j =>
      refine hothers u j fun h => hl (Or.inl ?_)
      rw [h.1, h.2]
    | merge u j =>
      intro hunmerged
      by_cases hu : u = table
      · have hj : j ≠ caseId := fun hj => hl (Or.inr (by rw [hu, hj]))
        rw [hu] at hunmerged ⊢
        rw [hinto', Function.update_of_ne hj, hunmerged]
      · rw [merges_other hothers hu, hunmerged]

end OneCase

/-! ### The statements of the calls -/

variable {α β : Type} {last : Store} {notes : List (Lock × Mode × Store)} {pending : Store → Store}
  {post : β → Store → List (Lock × Mode × Store) → (Store → Store) → Prop}
  {g : View → View} {w : Store → Store}

/-- The write rewrites one case by `g`, and no other one. -/
def Rewrites (table : TableName) (caseId : ℕ) (g : View → View) (w : Store → Store) : Prop :=
  ∀ s, look table caseId (w s) = (look table caseId s).map g ∧
    ∀ t j, ¬ (t = table ∧ j = caseId) → look t j (w s) = look t j s

/-- An update of a case rewrites it alone. -/
theorem rewrites_buildingCases {f : Case → Case} (hf : ∀ c, (f c).id = c.id)
    (hg : ∀ c, View.ofCase (f c) = g (View.ofCase c)) :
    Rewrites .buildingCase caseId g fun s => s.onBuildingCases (·.modify caseId f hf) := by
  refine fun s => ⟨?_, fun t j hj => ?_⟩
  · simp only [look, Store.onBuildingCases_buildingCases, Table.find?_modify, if_pos]
    rw [Option.map_map, Option.map_map]
    exact Option.map_congr fun c _ => hg c
  · cases t with
    | buildingCase =>
      have hne : j ≠ caseId := fun h => hj ⟨rfl, h⟩
      simp only [look, Store.onBuildingCases_buildingCases, Table.find?_modify_ne hne]
    | supportCase => rfl

/-- So does one of a support case. -/
theorem rewrites_supportCases {f : SupportCase → SupportCase} (hf : ∀ c, (f c).id = c.id)
    (hg : ∀ c, View.ofSupportCase (f c) = g (View.ofSupportCase c)) :
    Rewrites .supportCase caseId g fun s => s.onSupportCases (·.modify caseId f hf) := by
  refine fun s => ⟨?_, fun t j hj => ?_⟩
  · simp only [look, Store.onSupportCases_supportCases, Table.find?_modify, if_pos]
    rw [Option.map_map, Option.map_map]
    exact Option.map_congr fun c _ => hg c
  · cases t with
    | buildingCase => rfl
    | supportCase =>
      have hne : j ≠ caseId := fun h => hj ⟨rfl, h⟩
      simp only [look, Store.onSupportCases_supportCases, Table.find?_modify_ne hne]

/-- The commit of a change to a case whose row the session has locked. -/
theorem conclude_rewrite {s₀ : Store} {v : View} {P : Prop} (hs : Forests s)
    (hknows : mergeDiscipline.Knows notes s) (hw : Rewrites table caseId g w)
    (hrow : (.row table caseId, .exclusive, s₀) ∈ notes) (hv : look table caseId s₀ = some v)
    (hkeeps : v.Keeps (g v)) (hrest : P) :
    Forests (w s) ∧ (∀ table, Merges.Step (merges table s) (merges table (w s))) ∧
      (∀ l m, Free notes l m → sameFor l s (w s)) ∧ P := by
  have hv' : look table caseId s = some v := (hknows _ hrow).trans hv
  have hnew : look table caseId (w s) = some (g v) := by rw [(hw s).1, hv', Option.map_some]
  refine Commits.conclude (rewrite_commit hv' hnew (hw s).2 hkeeps) hs
    (fun l m hl hdisturbed => ?_) hrest
  exact not_free_of_exclusive (hdisturbed ▸ hrow) hl

/-- What is known of a row that matches. -/
def Matches (table : TableName) (caseId : ℕ) (g : View → View)
    (notes : List (Lock × Mode × Store)) (matched : Store → Bool) : Prop :=
  ∀ s, Forests s → mergeDiscipline.Knows notes s → matched s = true →
    ∃ v, look table caseId s = some v ∧ v.Keeps (g v)

section Update

variable {matched : Store → Bool} {e : Failure} {f : PUnit → Call β}
  (hw : Rewrites table caseId g w) (hmatched : Matches table caseId g notes matched)

include hw hmatched

/-- A transaction that changes a case when its row matches. -/
theorem safe_updateRow (hf : ∀ last, (f ⟨⟩).Safe mergeDiscipline post last [] id) :
    (Prog.transaction (Prog.writeIf [(.row table caseId, .exclusive)] matched e w) >>= f).Safe
      mergeDiscipline post last notes id := by
  rw [Prog.transaction, Prog.bind_assoc]
  refine Prog.Safe.writeIf fun s₀ hs₀ _ hknows₀ hok => ?_
  obtain ⟨v, hv, hkeeps⟩ := hmatched s₀ hs₀ hknows₀ hok
  refine Prog.Safe.commitAll fun s hs _ hknows => ?_
  exact conclude_rewrite hs hknows hw
    (List.mem_append_right _ (Discipline.mem_taken List.mem_cons_self rfl)) hv hkeeps (hf _)

/-- An `updateMany` of one case that has to match, with a write to another table behind it. -/
theorem safe_claim_write {w' : Store → Store} (hw' : ∀ t j s, look t j (w' s) = look t j s) :
    (Prog.transaction (Prog.claim (.row table caseId) matched e w >>= fun _ =>
      Prog.write [] w')).Safe mergeDiscipline (fun _ _ _ _ => True) last notes id := by
  have hboth : Rewrites table caseId g fun s => w' (w s) := fun s =>
    ⟨(hw' _ _ _).trans (hw s).1, fun t j hj => (hw' _ _ _).trans ((hw s).2 t j hj)⟩
  rw [Prog.transaction, Prog.bind_assoc]
  refine Prog.Safe.claim fun s₀ hs₀ _ hknows₀ hok => ?_
  obtain ⟨v, hv, hkeeps⟩ := hmatched s₀ hs₀ hknows₀ hok
  refine Prog.Safe.write fun _ _ _ _ => Prog.Safe.commitAll fun s hs _ hknows => ?_
  exact conclude_rewrite hs hknows hboth (List.mem_append_left _
    (List.mem_append_right _ (Discipline.mem_taken List.mem_cons_self rfl))) hv hkeeps trivial

/-- A transaction that is an `updateMany` of one case, which has to match. -/
theorem safe_claim (hf : ∀ last, (f ⟨⟩).Safe mergeDiscipline post last [] id) :
    (Prog.transaction (Prog.claim (.row table caseId) matched e w) >>= f).Safe mergeDiscipline post
      last notes id := by
  rw [Prog.transaction, Prog.bind_assoc]
  refine Prog.Safe.claim fun s₀ hs₀ _ hknows₀ hok => ?_
  obtain ⟨v, hv, hkeeps⟩ := hmatched s₀ hs₀ hknows₀ hok
  refine Prog.Safe.commitAll fun s hs _ hknows => ?_
  exact conclude_rewrite hs hknows hw
    (List.mem_append_right _ (Discipline.mem_taken List.mem_cons_self rfl)) hv hkeeps (hf _)

end Update

/-- A session has found the case unmerged, and relies on it. -/
def Relies (table : TableName) (caseId : ℕ) (notes : List (Lock × Mode × Store)) : Prop :=
  ∃ s₀, (.merge table caseId, .shared, s₀) ∈ notes ∧ (merges table s₀).into caseId = none

/-- A case that is relied on was not merged. -/
theorem Relies.unmerged (h : Relies table caseId notes) (hknows : mergeDiscipline.Knows notes s) :
    (merges table s).into caseId = none := by
  obtain ⟨s₀, hnote, hnone⟩ := h
  exact hknows _ hnote hnone

/-- A merge, when nobody has merged the target since it was read. -/
theorem safe_claimMerge {t : ℕ} {matched : Store → Bool} {e : Failure}
    (hw : Rewrites table caseId (fun _ => ⟨some t, .closed⟩) w) (hne : t ≠ caseId)
    (hrelies : Relies table t notes)
    (hmatched : ∀ s, matched s = true → ∃ v, look table caseId s = some v ∧ v.into = none) :
    (Prog.transaction (claimMerge table caseId matched e w)).Safe mergeDiscipline
      (fun _ _ _ _ => True) last notes id := by
  rw [Prog.transaction, claimMerge, Prog.bind_assoc]
  refine Prog.Safe.query fun _ _ _ _ => ?_
  rw [Prog.bind_assoc]
  refine Prog.Safe.require fun _ => Prog.Safe.writeIf fun s₀ _ _ _ hok => ?_
  obtain ⟨v, hv, hnone⟩ := hmatched s₀ hok
  refine Prog.Safe.commitAll fun s hs _ hknows => ?_
  have hrow := Discipline.mem_taken (D := mergeDiscipline) (s := s₀)
    (List.mem_cons_self (a := ((.row table caseId : Lock), Mode.exclusive))
      (l := [(.merge table caseId, .exclusive)])) rfl
  have hmerge := Discipline.mem_taken (D := mergeDiscipline) (s := s₀)
    (List.mem_cons_of_mem ((.row table caseId : Lock), Mode.exclusive)
      (List.mem_cons_self (a := ((.merge table caseId : Lock), Mode.exclusive)) (l := []))) rfl
  have hv' : look table caseId s = some v :=
    (hknows _ (List.mem_append_right _ hrow)).trans hv
  have htarget : (merges table s).into t = none :=
    hrelies.unmerged fun n hn => hknows n (List.mem_append_left _ hn)
  have hnew : look table caseId (w s) = some ⟨some t, .closed⟩ := by
    rw [(hw s).1, hv', Option.map_some]
  refine Commits.conclude (merge_commit hv' hnew (hw s).2 hne hnone htarget rfl rfl) hs
    (fun l m hl hdisturbed => ?_) trivial
  rcases hdisturbed with rfl | rfl
  · exact not_free_of_exclusive (List.mem_append_right _ hrow) hl
  · exact not_free_of_exclusive (List.mem_append_right _ hmerge) hl

/-! ### Which rows match -/

/-- What changes nothing keeps a case. -/
theorem View.Keeps.refl (v : View) : v.Keeps v := ⟨rfl, fun _ h => h⟩

/-- The case with another status. -/
def View.withStatus (status : CaseStatus) (v : View) : View := { v with status }

/-- An unmerged case may be given any status. -/
theorem View.keeps_of_unmerged {v : View} {status : CaseStatus} (h : v.into = none) :
    v.Keeps (v.withStatus status) :=
  ⟨rfl, fun hmerged => absurd h hmerged⟩

/-- So does closing it. -/
theorem View.keeps_closed (v : View) : v.Keeps (v.withStatus .closed) := ⟨rfl, fun _ _ => rfl⟩

/-- A row that matches a status other than `CLOSED` is no merged case. -/
theorem matches_of_open {status found : CaseStatus} {matched : Store → Bool}
    (hmatched : ∀ s, matched s = true → ∃ v, look table caseId s = some v ∧ v.status = found)
    (hopen : found ≠ .closed) : Matches table caseId (View.withStatus status) notes matched := by
  intro s hs _ hok
  obtain ⟨v, hv, hstatus⟩ := hmatched s hok
  exact ⟨v, hv, View.keeps_of_unmerged (hs.unmerged hv (hstatus ▸ hopen))⟩

/-- A row that the session relies on is no merged case. -/
theorem matches_of_relies {status : CaseStatus} {matched : Store → Bool}
    (hmatched : ∀ s, matched s = true → ∃ v, look table caseId s = some v)
    (hrelies : Relies table caseId notes) :
    Matches table caseId (View.withStatus status) notes matched := by
  intro s _ hknows hok
  obtain ⟨v, hv⟩ := hmatched s hok
  exact ⟨v, hv, View.keeps_of_unmerged ((into_of_look hv).symm.trans (hrelies.unmerged hknows))⟩

section Rows

/-- The case that is found. -/
theorem look_of_find? {c : Case} (h : s.buildingCases.find? caseId = some c) :
    look .buildingCase caseId s = some (View.ofCase c) := by
  rw [look, h]
  rfl

/-- The support case that is found. -/
theorem look_of_findSupport? {c : SupportCase} (h : s.supportCases.find? caseId = some c) :
    look .supportCase caseId s = some (View.ofSupportCase c) := by
  rw [look, h]
  rfl

/-- A case that has a status is there. -/
theorem look_of_hasStatus {status : CaseStatus}
    (h : CaseRepository.hasStatus caseId status s = true) :
    ∃ v, look .buildingCase caseId s = some v ∧ v.status = status := by
  obtain ⟨c, hc, hstatus⟩ := (Option.any_eq_true _ _).mp h
  exact ⟨_, look_of_find? hc, of_decide_eq_true hstatus⟩

/-- So is a support case. -/
theorem look_of_supportHasStatus {status : CaseStatus}
    (h : BackOfficeRepository.hasStatus caseId status s = true) :
    ∃ v, look .supportCase caseId s = some v ∧ v.status = status := by
  obtain ⟨c, hc, hstatus⟩ := (Option.any_eq_true _ _).mp h
  exact ⟨_, look_of_findSupport? hc, of_decide_eq_true hstatus⟩

/-- A case that can be merged is there, and was not merged. -/
theorem look_of_mergeable {status : CaseStatus}
    (h : CaseRepository.mergeable caseId status s = true) :
    ∃ v, look .buildingCase caseId s = some v ∧ v.into = none := by
  obtain ⟨c, hc, hmergeable⟩ := (Option.any_eq_true _ _).mp h
  exact ⟨_, look_of_find? hc, (of_decide_eq_true hmergeable).2⟩

/-- So is a support case. -/
theorem look_of_supportMergeable {status : CaseStatus}
    (h : BackOfficeRepository.mergeable caseId status s = true) :
    ∃ v, look .supportCase caseId s = some v ∧ v.into = none := by
  obtain ⟨c, hc, hmergeable⟩ := (Option.any_eq_true _ _).mp h
  exact ⟨_, look_of_findSupport? hc, (of_decide_eq_true hmergeable).2⟩

/-- A support case that is there is seen. -/
theorem look_of_isSome (h : (s.supportCases.find? caseId).isSome = true) :
    ∃ v, look .supportCase caseId s = some v := by
  obtain ⟨c, hc⟩ := Option.isSome_iff_exists.mp h
  exact ⟨_, look_of_findSupport? hc⟩

end Rows

end VielHome.Cases.Merged
