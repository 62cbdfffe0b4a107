import VielHome.BuildingVerification.Decided

/-!
# The calls that decide about a building

One lemma for each call: it keeps the cases of the building decided, and gives the verification
back with the status of the building agreeing (`VerificationCall.guarded`).
-/

namespace VielHome.BuildingVerification

open Relational
open Community (BuildingStatus Time)
open Relational.ReadCommitted (Database Event GivesBack Guards Mode Owns Prog Restored)

variable {s s' : Store} {buildingId : ℕ} {α β : Type} {last s₀ : Store}
  {notes : List (Lock × Mode × Store)}
  {post : β → Store → List (Lock × Mode × Store) → (Store → Store) → Prop}

/-! ### A new case -/

/-- Who locks the building again is at work on it. -/
theorem AtWork.append (h : AtWork buildingId s₀ notes) :
    AtWork buildingId s (notes ++ [(.verification buildingId, .exclusive, s)]) := by
  refine ⟨List.mem_append_right _ (List.mem_singleton_self _), fun n hn b hb => ?_⟩
  rcases List.mem_append.mp hn with hn | hn
  · exact h.2 n hn b hb
  · rw [List.mem_singleton.mp hn] at hb
    exact (Lock.verification.inj hb).symm

/-- Who has just locked the building is at work on it. -/
theorem atWork_singleton :
    AtWork buildingId s [(.verification buildingId, .exclusive, s)] := by
  refine ⟨List.mem_singleton_self _, fun n hn b hb => ?_⟩
  rw [List.mem_singleton.mp hn] at hb
  exact (Lock.verification.inj hb).symm

/-- Whoever is at work on a building owns no lock beyond a commit that it does not keep. -/
theorem AtWork.owned (h : AtWork buildingId s₀ notes) (l : Lock) (hl : Owns notes l)
    (hkeep : l ∉ [Lock.verification buildingId]) : guardOf l s := by
  obtain ⟨s₁, hl⟩ := hl
  cases l with
  | row table id => trivial
  | verification b =>
    obtain rfl : b = buildingId := h.2 _ hl b rfl
    exact absurd (List.mem_singleton_self _) hkeep

section NewCase

variable {params : BackOfficeRepository.CaseParams}
  (hcases : s'.cases = s.cases.create params.row params.row_id)
  (hbuildings : s'.buildings = s.buildings)

include hcases

/-- A new case changes no case that was decided. -/
theorem keepsDecided_create : KeepsDecided s s' := by
  intro id k hk _
  rw [hcases]
  exact Table.find?_create_of_find? hk

/-- A new case is the last one, and the others were decided. -/
theorem onlyLastOpen_create (hs : OnlyLastOpen s)
    (hdecided : ∀ k ∈ s.casesOf params.buildingId, IsDecided k) : OnlyLastOpen s' := by
  intro b k hk
  rw [casesOf_create hcases] at hk
  split at hk
  case isTrue hb =>
    subst hb
    rw [List.dropLast_concat] at hk
    exact hdecided k hk
  case isFalse => exact hs b k hk

/-- The new case is the latest one. -/
theorem latestCase_create :
    s'.latestCase params.buildingId = some (params.row s.cases.next) := by
  rw [Store.latestCase, casesOf_create hcases, if_pos rfl, List.getLast?_concat]

include hbuildings

/-- The new case is of a building that is there. -/
theorem housed_create (hs : Housed s) (hhoused : (s.buildings.find? params.buildingId).isSome) :
    Housed s' := by
  intro k hk
  rw [hbuildings]
  rw [hcases] at hk
  rcases Table.mem_create.mp hk with hk | rfl
  · exact hs k hk
  · exact hhoused

/-- Nothing changes for other buildings. -/
theorem same_create {b : ℕ} (hb : b ≠ params.buildingId) : SameVerification b s s' := by
  refine ⟨?_, ?_⟩
  · rw [casesOf_create hcases, if_neg (Ne.symm hb)]
  · rw [Store.statusOf, Store.statusOf, hbuildings]

end NewCase

/-- What a case may be created for: a building of which the caller knows nothing, when the case is
the first one; or a building that the caller is at work on, all of whose cases are decided. -/
inductive Creates (params : BackOfficeRepository.CaseParams) : List (Lock × Mode × Store) → Prop
  | first (hfirst : params.isAppeal = false) : Creates params []
  | next {notes : List (Lock × Mode × Store)} {taken : Store}
    (hwork : AtWork params.buildingId taken notes)
    (hhoused : (taken.statusOf params.buildingId).isSome)
    (hdecided : ∀ k ∈ taken.casesOf params.buildingId, IsDecided k) : Creates params notes

namespace Creates

variable {params : BackOfficeRepository.CaseParams}

/-- Who creates a case is at work on the building. -/
theorem atWork (h : Creates params notes) :
    AtWork params.buildingId s (notes ++ [(.verification params.buildingId, .exclusive, s)]) := by
  cases h with
  | first hfirst => exact atWork_singleton
  | next hwork _ _ => exact hwork.append

/-- All cases that the building has when the new one is committed are decided. -/
theorem decided (h : Creates params notes) (hknows : verification.Knows notes s)
    (hcases : s'.cases = s.cases.create params.row params.row_id) (honce : EvaluatedOnce s s') :
    ∀ k ∈ s.casesOf params.buildingId, IsDecided k := by
  cases h with
  | first hfirst =>
    have hnew : params.row s.cases.next ∈ s'.cases := by
      rw [hcases]
      exact Table.mem_create.mpr (Or.inr rfl)
    have hnil := honce _ hnew hfirst (Table.find?_of_next_le le_rfl)
    intro k hk
    rw [show s.casesOf params.buildingId = [] from hnil] at hk
    exact absurd hk List.not_mem_nil
  | next hwork _ hdecided =>
    rw [(hwork.same hknows).1]
    exact hdecided

/-- When the building is not there, nothing was taken over. -/
theorem givesBack (h : Creates params notes) (hknows : verification.Knows notes s)
    (hmissing : (s.buildings.find? params.buildingId).isSome = false)
    (hguard : Agrees params.buildingId s ∨ Owns notes (.verification params.buildingId)) :
    GivesBack verification s (notes ++ [(.verification params.buildingId, .exclusive, s)]) := by
  cases h with
  | first hfirst =>
    intro s' _ _ hknows'
    rcases hguard with hguard | ⟨s₁, hs₁⟩
    · exact atWork_singleton.restored ((atWork_singleton.same hknows').agrees hguard)
    · exact absurd hs₁ List.not_mem_nil
  | next hwork hhoused _ =>
    have hsome := (hwork.same hknows).2 ▸ hhoused
    rw [Store.statusOf, Option.isSome_map] at hsome
    exact absurd (hmissing.symm.trans hsome) Bool.false_ne_true

end Creates

/-- After the case is committed the session is at work on its building, whose latest case it is. -/
theorem guarded_createBuildingVerificationCase {params : BackOfficeRepository.CaseParams}
    {f : PUnit → Call β} (hcreates : Creates params notes)
    (h : ∀ last notes, AtWork params.buildingId last notes →
      (∀ k, last.latestCase params.buildingId = some k → k.status = params.status) →
      (last.statusOf params.buildingId).isSome →
      (f ⟨⟩).Guarded verification post last notes id) :
    (BackOfficeRepository.createBuildingVerificationCase params >>= f).Guarded verification post last
      notes id := by
  rw [BackOfficeRepository.createBuildingVerificationCase, Prog.bind_assoc]
  refine Prog.Guarded.writeUnless (fun s e _ _ hknows hrefused hguard => ?_)
    fun s₁ _ _ _ hhoused _ => ?_
  · -- the building is not there
    refine hcreates.givesBack hknows ?_ (hguard _ (List.mem_singleton_self _) rfl)
    by_contra hsome
    rw [Bool.not_eq_false] at hsome
    simp [hsome] at hrefused
  -- the foreign key has let the row through
  have hthere : (s₁.buildings.find? params.buildingId).isSome = true := by
    by_contra hsome
    simp [hsome] at hhoused
  refine Prog.Guarded.commitKeeping fun s hs _ hknows honce _ => ?_
  have hwork := hcreates.atWork (s := s₁)
  have hknows₀ : verification.Knows notes s := fun n hn => hknows n (List.mem_append_left _ hn)
  have hfound : (s.statusOf params.buildingId).isSome := by
    rw [(hwork.same hknows).2, Store.statusOf, Option.isSome_map]
    exact hthere
  have hhoused' : (s.buildings.find? params.buildingId).isSome := by
    rwa [Store.statusOf, Option.isSome_map] at hfound
  have hcases : (s.onCases (·.create params.row params.row_id)).cases =
      s.cases.create params.row params.row_id := rfl
  have hothers : ∀ b, b ≠ params.buildingId →
      SameVerification b s (s.onCases (·.create params.row params.row_id)) :=
    fun b hb => same_create hcases rfl hb
  obtain ⟨hsame, hguard⟩ := hwork.conclude hothers
  have hdecided := hcreates.decided hknows₀ rfl honce
  refine ⟨⟨housed_create rfl rfl hs.1 hhoused', onlyLastOpen_create rfl hs.2 hdecided⟩,
    keepsDecided_create rfl, hsame, hguard, hwork.owned, h _ _ hwork.refreshed ?_ hfound⟩
  intro k hk
  rw [latestCase_create (s := s) rfl] at hk
  exact Option.some.inj hk ▸ rfl

/-! ### A decision -/

section Decision

variable {k : BuildingVerificationCase} {f : BuildingVerificationCase → BuildingVerificationCase}
  {hf : ∀ k, (f k).id = k.id} (hcases : s'.cases = s.cases.modify k.id f hf)
  (hbuilding : ∀ k, (f k).buildingId = k.buildingId)

include hcases

/-- A decision about an open case changes no case that was decided. -/
theorem keepsDecided_modify (hk : s.cases.find? k.id = some k) (hopen : ¬ IsDecided k) :
    KeepsDecided s s' := by
  intro id k' hk' hdecided
  have hid : id ≠ k.id := by
    rintro rfl
    exact hopen (Option.some.inj (hk.symm.trans hk') ▸ hdecided)
  rw [hcases, Table.find?_modify_ne hid]
  exact hk'

include hbuilding

/-- The open case was the last one. -/
theorem onlyLastOpen_modify (hk : s.cases.find? k.id = some k) (hopen : ¬ IsDecided k)
    (hs : OnlyLastOpen s) : OnlyLastOpen s' := by
  intro b r hr
  rw [casesOf_modify hbuilding hcases, ← List.map_dropLast] at hr
  obtain ⟨r', hr', rfl⟩ := List.mem_map.mp hr
  have hdecided : IsDecided r' := hs b r' hr'
  have hmem : r' ∈ s.cases := (mem_casesOf.mp (List.dropLast_subset _ hr')).1
  -- the rewritten case is not among the earlier ones
  have hid : r'.id ≠ k.id := by
    intro hid
    obtain rfl : r' = k := Table.eq_of_key_eq hmem (Table.mem_of_find? hk) hid
    exact hopen hdecided
  rwa [if_neg hid]

/-- The latest case is the one that was decided. -/
theorem latestCase_modify (hlatest : s.latestCase buildingId = some k) :
    s'.latestCase buildingId = some (f k) := by
  rw [Store.latestCase, casesOf_modify hbuilding hcases, List.getLast?_map]
  rw [Store.latestCase] at hlatest
  rw [hlatest, Option.map_some, if_pos rfl]

/-- A decision leaves the buildings as they are. -/
theorem housed_modify (hbuildings : s'.buildings = s.buildings) (hs : Housed s) : Housed s' := by
  intro r hr
  rw [hcases] at hr
  obtain ⟨r', hr', rfl⟩ := Table.mem_modify.mp hr
  rw [hbuildings]
  split
  · rw [hbuilding]
    exact hs r' hr'
  · exact hs r' hr'

/-- Nothing changes for other buildings. -/
theorem same_modify {b : ℕ} (hk : s.cases.find? k.id = some k)
    (hbuildings : s'.buildings = s.buildings) (hb : b ≠ k.buildingId) :
    SameVerification b s s' := by
  refine ⟨casesOf_modify_ne hk hb hbuilding hcases, ?_⟩
  rw [Store.statusOf, Store.statusOf, hbuildings]

end Decision

/-- The latest case of a building, still open, is decided. -/
theorem guarded_decideBuildingVerificationCase {params : BackOfficeRepository.DecisionParams}
    {now : Time} {k : BuildingVerificationCase} {f : PUnit → Call β}
    (hwork : AtWork buildingId s₀ notes) (hlatest : s₀.latestCase buildingId = some k)
    (hid : k.id = params.id) (hopen : ¬ IsDecided k)
    (hhoused : (s₀.statusOf buildingId).isSome)
    (h : ∀ last notes, AtWork buildingId last notes →
      (∀ k, last.latestCase buildingId = some k → k.status = params.status) →
      (last.statusOf buildingId).isSome → (f ⟨⟩).Guarded verification post last notes id) :
    (BackOfficeRepository.decideBuildingVerificationCase params buildingId now >>= f).Guarded
      verification post last notes id := by
  -- while this call is at work, the case that it has read stays the latest
  have hthere : ∀ s, verification.Knows notes s →
      s.cases.find? params.id = some k ∧ k.buildingId = buildingId := by
    intro s hknows
    have hmem := List.mem_of_getLast? ((hwork.same hknows).latestCase.trans hlatest)
    obtain ⟨hmem, hbuilding⟩ := mem_casesOf.mp hmem
    exact ⟨hid ▸ Table.find?_of_mem hmem, hbuilding⟩
  rw [BackOfficeRepository.decideBuildingVerificationCase, Prog.bind_assoc]
  refine Prog.Guarded.writeIf (fun s _ _ hknows hmissing => ?_) fun s₁ _ _ _ _ => ?_
  · rw [id, (hthere s hknows).1] at hmissing
    cases hmissing
  refine Prog.Guarded.commitKeeping fun s hs _ hknows _ _ => ?_
  have hknows₀ : verification.Knows notes s := fun n hn => hknows n (List.mem_append_left _ hn)
  have hwork' : AtWork buildingId s₀
      (notes ++ [(.row .buildingVerificationCase params.id, .exclusive, s₁)]) := hwork.append_row
  obtain ⟨hk, hbuilding⟩ := hthere s hknows₀
  rw [← hid] at hk
  have hcases : (s.onCases (·.modify params.id (params.apply now) (params.apply_id now))).cases =
      s.cases.modify k.id (params.apply now) (params.apply_id now) := by rw [hid]; rfl
  have hsame := hwork.same hknows₀
  obtain ⟨hothers, hguard⟩ := hwork'.conclude fun b hb =>
    same_modify hcases (fun _ => rfl) hk rfl (hbuilding.symm ▸ hb)
  refine ⟨⟨housed_modify hcases (fun _ => rfl) rfl hs.1,
    onlyLastOpen_modify hcases (fun _ => rfl) hk hopen hs.2⟩, keepsDecided_modify hcases hk hopen,
    hothers, hguard, hwork'.owned, h _ _ hwork'.refreshed (fun k' hk' => ?_) ?_⟩
  · have hlatest' := latestCase_modify hcases (fun _ => rfl) (hsame.latestCase.trans hlatest)
    exact Option.some.inj (hlatest'.symm.trans hk') ▸ rfl
  · rw [← hsame.2] at hhoused
    exact hhoused

/-! ### The calls -/

variable {s : Store}

/-- `evaluateNewBuilding` keeps what the sessions rely on. -/
theorem guarded_evaluateNewBuilding (params : BuildingVerificationService.EvaluateParams)
    (now : Time) :
    (BuildingVerificationService.evaluateNewBuilding params now).Guarded verification
      (Prog.Guarded.AtEnd verification) last [] id := by
  rw [BuildingVerificationService.evaluateNewBuilding]
  refine Prog.Guarded.query fun s _ _ _ => ?_
  refine guarded_createBuildingVerificationCase (.first rfl) fun last notes hwork hlatest hhoused => ?_
  exact guarded_updateBuildingStatus hwork hlatest hhoused

/-- The building of a case is there. -/
theorem isSome_statusOf (hs : Housed s) {k : BuildingVerificationCase} (hk : k ∈ s.cases) :
    (s.statusOf k.buildingId).isSome := by
  rw [Store.statusOf, Option.isSome_map]
  exact hs k hk

/-- A case that is still to be decided is not decided. -/
theorem not_isDecided_of_decidable {k : BuildingVerificationCase}
    (h : k.status ∈ BuildingVerificationPolicy.DECIDABLE_STATUSES) : ¬ IsDecided k := by
  rintro (hverified | hrejected)
  · rw [hverified] at h
    exact absurd h (by decide)
  · rw [hrejected] at h
    exact absurd h (by decide)

/-- `decideCase` keeps what the sessions rely on. -/
theorem guarded_decideCase (caseId : ℕ) (decision : BuildingVerificationDecision)
    (reviewerPersonId : ℕ) (reason : Option String) (now : Time) :
    (BuildingVerificationService.decideCase caseId decision reviewerPersonId reason now).Guarded
      verification (Prog.Guarded.AtEnd verification) last [] id := by
  rw [BuildingVerificationService.decideCase, BuildingVerificationService.getCase, Prog.bind_assoc]
  refine Prog.Guarded.queryUnder fun s hs _ _ _ => ?_
  rw [id, List.nil_append]
  refine Prog.Guarded.expect (fun hnone => ?_) fun k hk => ?_
  · rw [hnone]
    exact ReadCommitted.givesBack_nil
  rw [hk, BuildingVerificationService.deciding, BuildingVerificationPolicy.assertDecidable]
  refine Prog.Guarded.require (fun hdecided => ?_) fun hdecidable => ?_
  · rw [if_neg hdecided]
    exact ReadCommitted.givesBack_nil
  rw [if_pos hdecidable]
  have hmem := Table.mem_of_find? hk
  have hopen := not_isDecided_of_decidable hdecidable
  -- an open case is the latest one
  obtain ⟨l, hl⟩ := hs.2.latest (mem_casesOf.mpr ⟨hmem, rfl⟩) hopen
  have hlatest : s.latestCase k.buildingId = some k := by
    rw [Store.latestCase, hl, List.getLast?_concat]
  refine guarded_decideBuildingVerificationCase (atWork_singleton (s := s)) hlatest
    (Table.key_of_find? hk) hopen (isSome_statusOf hs.1 hmem) fun last notes hwork hstatus hhoused => ?_
  exact guarded_updateBuildingStatus hwork hstatus hhoused

/-- So does `appealCase`. -/
theorem guarded_appealCase (buildingId callerPersonId : ℕ) :
    (BuildingVerificationService.appealCase buildingId callerPersonId).Guarded verification
      (Prog.Guarded.AtEnd verification) last [] id := by
  rw [BuildingVerificationService.appealCase]
  refine Prog.Guarded.query fun s _ _ _ => ?_
  refine Prog.Guarded.expect (fun _ => ReadCommitted.givesBack_nil) fun building _ => ?_
  refine Prog.Guarded.queryUnder fun s hs _ _ _ => ?_
  rw [id, List.nil_append]
  refine Prog.Guarded.expect (fun hnone => ?_) fun k hk => ?_
  · rw [hnone]
    exact ReadCommitted.givesBack_nil
  rw [hk, BuildingVerificationService.appealing, BuildingVerificationPolicy.assertCanAppeal,
    Prog.bind_assoc]
  refine Prog.Guarded.require (fun hrejected => ?_) fun hrejected => ?_
  · rw [if_neg fun h => hrejected h.1]
    exact ReadCommitted.givesBack_nil
  refine Prog.Guarded.require (fun hcreator => ?_) fun hcreator => ?_
  · rw [if_neg fun h => hcreator h.2]
    exact ReadCommitted.givesBack_nil
  rw [if_pos ⟨hrejected, hcreator⟩]
  obtain ⟨hmem, rfl⟩ := mem_casesOf.mp (List.mem_of_getLast? hk)
  refine guarded_createBuildingVerificationCase (.next atWork_singleton (isSome_statusOf hs.1 hmem)
    (hs.2.all_decided hk (Or.inr hrejected))) fun last notes hwork hlatest hhoused => ?_
  exact guarded_updateBuildingStatus hwork hlatest hhoused

/-- The calls that write cases. -/
inductive VerificationCall
  | evaluateNewBuilding (params : BuildingVerificationService.EvaluateParams) (now : Time)
  | decideCase (caseId : ℕ) (decision : BuildingVerificationDecision) (reviewerPersonId : ℕ)
      (reason : Option String) (now : Time)
  | appealCase (buildingId callerPersonId : ℕ)

/-- The method that the call is made to. -/
def VerificationCall.call : VerificationCall → Call PUnit
  | .evaluateNewBuilding params now => BuildingVerificationService.evaluateNewBuilding params now
  | .decideCase caseId decision reviewerPersonId reason now =>
    BuildingVerificationService.decideCase caseId decision reviewerPersonId reason now
  | .appealCase buildingId callerPersonId =>
    BuildingVerificationService.appealCase buildingId callerPersonId

/-- So does every call. -/
theorem VerificationCall.guarded (c : VerificationCall) :
    c.call.Guarded verification (Prog.Guarded.AtEnd verification) s [] id := by
  cases c with
  | evaluateNewBuilding params now => exact guarded_evaluateNewBuilding params now
  | decideCase caseId decision reviewerPersonId reason now =>
    exact guarded_decideCase caseId decision reviewerPersonId reason now
  | appealCase buildingId callerPersonId => exact guarded_appealCase buildingId callerPersonId

/-! ### Runs -/

/-- No building has two undecided cases. -/
def AtMostOneOpen (s : Store) : Prop :=
  ∀ k ∈ s.cases, ∀ k' ∈ s.cases, k.buildingId = k'.buildingId → ¬ IsDecided k → ¬ IsDecided k' →
    k = k'

instance (s : Store) : Decidable (AtMostOneOpen s) :=
  inferInstanceAs (Decidable (∀ k ∈ s.cases, ∀ k' ∈ s.cases, _ → _ → _ → k = k'))

/-- What was decided stays so over any number of commits. -/
theorem KeepsDecided.of_later (h : verification.Later s s') : KeepsDecided s s' := by
  intro id k hk hdecided
  refine h.keeps (P := fun s => s.cases.find? id = some k) (fun s s' hstep hk => ?_) hk
  exact (show KeepsDecided s s' from hstep) id k hk hdecided

/-- The event takes no verification over that somebody else is at work on, cuts nobody off while
the building disagrees with its case, and evaluates no building that has a case. -/
abbrev Undisturbed {ι α : Type} [DecidableEq ι] (d : Sessions ι α) (e : Event ι Failure) : Prop :=
  d.Permitted Lock.enforced verification e

/-- Any number of calls, statement by statement in any order: a decided case never changes, no
building has two undecided cases, and whenever no call is in progress every building has the
status of its latest case, as long as no two calls are at work on one verification. -/
theorem decided_of_undisturbed {ι : Type} [DecidableEq ι] (hhoused : Housed s)
    (hopen : OnlyLastOpen s) (hagrees : ∀ buildingId, Agrees buildingId s)
    (calls : ι → VerificationCall) {es : List (Event ι Failure)}
    (hes : EachStep (Database.next Lock.enforced) Undisturbed
      (Database.start s fun i => (calls i).call) es) :
    ∀ es', es' <+: es →
      KeepsDecided (runCalls s (fun i => (calls i).call) es').store
        (runCalls s (fun i => (calls i).call) es).store ∧
      AtMostOneOpen (runCalls s (fun i => (calls i).call) es').store ∧
      ((runCalls s (fun i => (calls i).call) es').Quiet es' → ∀ buildingId,
        Agrees buildingId (runCalls s (fun i => (calls i).call) es').store) := by
  rintro es' ⟨rest, rfl⟩
  have hguard : ∀ l, verification.kept l = true → verification.guard l s := by
    intro l _
    cases l with
    | verification buildingId => exact hagrees buildingId
    | row table id => trivial
  have hstart : (Database.start s fun i => (calls i).call).Guarded verification :=
    Database.guarded_start ⟨hhoused, hopen⟩ hguard fun i => (calls i).guarded
  obtain ⟨hbefore, hafter⟩ := eachStep_append.mp hes
  have hguarded := (Database.guarded_run hstart hbefore).1
  refine ⟨KeepsDecided.of_later ?_, fun k hk k' hk' => hguarded.inv.2.unique hk hk',
    fun hquiet buildingId => ?_⟩
  · rw [runCalls, runCalls, runFrom_append]
    exact (Database.guarded_run hguarded hafter).2
  · exact Database.guard_of_quiet (l := .verification buildingId) hguarded hquiet rfl

/-- A building whose case is under review, and one whose case was rejected. -/
def underReview : Store where
  buildings := (Table.empty.create fun id =>
    { id, city := "Tabriz", district := "1", mainStreet := "Azadi", status := .underReview,
      createdById := 1 }).create fun id =>
    { id, city := "Tabriz", district := "2", mainStreet := "Baharan", status := .rejected,
      createdById := 1 }
  cases := (Table.empty.create fun id => { id, buildingId := 0, status := .underReview }).create
    fun id => { id, buildingId := 1, status := .rejected }

/-- Two reviewers decide the case that is under review, and the creator of the other building
appeals twice. -/
def twice : Fin 4 → VerificationCall
  | 0 => .decideCase 0 .approve 2 none 1
  | 1 => .decideCase 0 .reject 3 none 2
  | 2 => .appealCase 1 1
  | 3 => .appealCase 1 1

/-- The case of the runs is of a building that is there. -/
theorem housed_underReview : Housed underReview := by
  have hall : ∀ k ∈ underReview.cases, (underReview.buildings.find? k.buildingId).isSome = true := by
    decide +kernel
  exact hall

/-- The building of the runs agrees with its case. -/
theorem agrees_underReview (buildingId : ℕ) : Agrees buildingId underReview := by
  intro k hk
  have hmem := mem_casesOf.mp (List.mem_of_getLast? hk)
  have hall : ∀ k ∈ underReview.cases, underReview.statusOf k.buildingId = some k.status := by
    decide +kernel
  rw [← hmem.2]
  exact hall k hmem.1

/-- Only the last case of the runs is open. -/
theorem onlyLastOpen_underReview : OnlyLastOpen underReview := by
  have hone : ∀ buildingId, (underReview.casesOf buildingId).length ≤ 1 := by
    intro buildingId
    refine Table.length_filter_le_one_iff.mpr ?_
    have hdistinct : ∀ k ∈ underReview.cases, ∀ k' ∈ underReview.cases,
        k.buildingId = k'.buildingId → k = k' := by decide +kernel
    intro k hk k' hk' hbuilding hbuilding'
    refine hdistinct k hk k' hk' ?_
    rw [of_decide_eq_true hbuilding, of_decide_eq_true hbuilding']
  intro buildingId k hk
  have hlength := List.length_pos_of_mem hk
  rw [List.length_dropLast] at hlength
  have hle := hone buildingId
  omega

/-- One after the other, the second decision and the second appeal are refused. -/
theorem decided_of_undisturbed_twice :
    KeepsDecided
      (runCalls underReview (fun i => (twice i).call) (List.replicate 5 (Event.step 0))).store
      (runCalls underReview (fun i => (twice i).call)
        (List.replicate 5 (Event.step 0) ++ [Event.step 1] ++ List.replicate 6 (Event.step 2) ++
          List.replicate 2 (Event.step 3))).store ∧
    AtMostOneOpen
      (runCalls underReview (fun i => (twice i).call) (List.replicate 5 (Event.step 0))).store ∧
    ((runCalls underReview (fun i => (twice i).call) (List.replicate 5 (Event.step 0))).Quiet
        (List.replicate 5 (Event.step 0)) → ∀ buildingId,
      Agrees buildingId
        (runCalls underReview (fun i => (twice i).call) (List.replicate 5 (Event.step 0))).store) := by
  refine decided_of_undisturbed housed_underReview onlyLastOpen_underReview agrees_underReview twice
    (by decide +kernel) _ ?_
  simp only [List.append_assoc]
  exact List.prefix_append _ _

/-- The case as the first reviewer decides it. -/
def approvedCase : BuildingVerificationCase where
  id := 0
  buildingId := 0
  status := .verified
  decision := some .approve
  reviewedById := some 2
  decidedAt := some 1

/-- The case as the second reviewer decides it. -/
def rejectedCase : BuildingVerificationCase where
  id := 0
  buildingId := 0
  status := .rejected
  decision := some .reject
  reviewedById := some 3
  decidedAt := some 2

/-- Both reviewers read the case before either decides it: it is approved and then rejected, and
the building ends up approved. Both appeals read the rejected case before either is opened: two
cases of the building are open. -/
theorem not_decided_twice :
    ¬ KeepsDecided (runCalls underReview (fun i => (twice i).call)
        ([Event.step 0, Event.step 1] ++ List.replicate 2 (Event.step 0))).store
      (runCalls underReview (fun i => (twice i).call)
        ([Event.step 0, Event.step 1] ++ List.replicate 2 (Event.step 0) ++ List.replicate 2 (Event.step 1))).store ∧
    ((runCalls underReview (fun i => (twice i).call)
        ([Event.step 0, Event.step 1] ++ List.replicate 2 (Event.step 0) ++ List.replicate 4 (Event.step 1) ++
          List.replicate 2 (Event.step 0))).Quiet
        ([Event.step 0, Event.step 1] ++ List.replicate 2 (Event.step 0) ++ List.replicate 4 (Event.step 1) ++
          List.replicate 2 (Event.step 0)) ∧
      ¬ Agrees 0 (runCalls underReview (fun i => (twice i).call)
        ([Event.step 0, Event.step 1] ++ List.replicate 2 (Event.step 0) ++ List.replicate 4 (Event.step 1) ++
          List.replicate 2 (Event.step 0))).store) ∧
    ¬ AtMostOneOpen (runCalls underReview (fun i => (twice i).call)
      ([Event.step 2, Event.step 2, Event.step 3, Event.step 3] ++ List.replicate 4 (Event.step 2) ++
        List.replicate 4 (Event.step 3))).store := by
  refine ⟨fun h => ?_, ⟨fun i => ?_, fun h => ?_⟩, by decide +kernel⟩
  · have hkept := h 0 approvedCase (by decide +kernel) (by decide)
    exact absurd hkept (by decide +kernel)
  · revert i
    decide +kernel
  · have hstatus := h rejectedCase (by decide +kernel)
    exact absurd hstatus (by decide +kernel)

end VielHome.BuildingVerification
