import VielHome.Backoffice.Service
import VielHome.Building.Effect

/-!
# Two managers of one building

A building gets a manager by a change of the manager, by an approved request, and by a
decision of the back office about a case. All of them first look who manages the building
at the moment. None takes a lock for it: the advisory locks name a case, and no index keeps
a second current `MANAGER` membership out. A building keeps one manager in every run in
which nobody looks for its manager while somebody else who has looked has still to commit
what the look decided.
-/

namespace VielHome.Backoffice

open Relational Community Building
open Relational.ReadCommitted (Database Discipline Event Free Mode Prog not_free_of_exclusive)
open BackOfficeRepository (DecideParams decided decided_id hasCompetingManager recoveryMode verified)

/-! ### What the sessions rely on -/

/-- The current `MANAGER` memberships of the building. -/
def managersOf (buildingId : ℕ) (s : Store) : List Membership :=
  s.memberships.rows.filter fun m => m.IsManagerOf buildingId

/-- No building has two current `MANAGER` memberships. -/
def SingleManager (s : Store) : Prop := ∀ buildingId, (managersOf buildingId s).length ≤ 1

/-- There is one manager when any two are one. -/
theorem singleManager_iff {s : Store} :
    SingleManager s ↔ ∀ buildingId, ∀ m ∈ s.memberships, ∀ m' ∈ s.memberships,
      m.IsManagerOf buildingId → m'.IsManagerOf buildingId → m = m' := by
  refine forall_congr' fun buildingId => Table.length_filter_le_one_iff.trans ?_
  simp only [decide_eq_true_eq]

/-- Memberships stay in their buildings. -/
def KeepsBuildings (s s' : Store) : Prop :=
  ∀ id m, s.memberships.find? id = some m →
    ∃ m', s'.memberships.find? id = some m' ∧ m'.buildingId = m.buildingId

/-- A commit that changes nothing keeps the buildings of the memberships. -/
theorem KeepsBuildings.refl (s : Store) : KeepsBuildings s s := fun _ m hm => ⟨m, hm, rfl⟩

/-- So do two commits in a row. -/
theorem KeepsBuildings.trans {s s' s'' : Store} (h : KeepsBuildings s s')
    (h' : KeepsBuildings s' s'') : KeepsBuildings s s'' := by
  intro id m hm
  obtain ⟨m', hm', hbuilding⟩ := h id m hm
  obtain ⟨m'', hm'', hbuilding'⟩ := h' id m' hm'
  exact ⟨m'', hm'', hbuilding'.trans hbuilding⟩

/-- Under the lock of the managers of a building nobody becomes its manager who was not. -/
def sameManagers : Lock → Store → Store → Prop
  | .managers buildingId, s, s' => ∀ m' ∈ s'.memberships, m'.IsManagerOf buildingId →
    ∃ m ∈ s.memberships, m.IsManagerOf buildingId ∧ m.id = m'.id
  | _, _, _ => True

/-- A commit that makes no manager of the lock's building. -/
theorem sameManagers_of_mem {s s' : Store} {l : Lock}
    (h : ∀ buildingId, l = .managers buildingId → ∀ m ∈ s'.memberships,
      m.IsManagerOf buildingId → m ∈ s.memberships) : sameManagers l s s' := by
  unfold sameManagers
  split
  · exact fun m hm hmanager => ⟨m, h _ rfl m hm hmanager, hmanager, rfl⟩
  · trivial

/-- What is the same twice in a row is the same. -/
theorem sameManagers_trans {l : Lock} {s s' s'' : Store} (h : sameManagers l s s')
    (h' : sameManagers l s' s'') : sameManagers l s s'' := by
  unfold sameManagers at *
  split
  · intro m'' hm'' hmanager''
    obtain ⟨m', hm', hmanager', hid'⟩ := h' m'' hm'' hmanager''
    obtain ⟨m, hm, hmanager, hid⟩ := h m' hm' hmanager'
    exact ⟨m, hm, hmanager, hid.trans hid'⟩
  · trivial

/-- The lock of the managers of a building is the one that nobody enforces. -/
def managerDiscipline : Discipline Store Lock where
  inv := SingleManager
  commits := KeepsBuildings
  kept _ := true
  same l _ := sameManagers l
  same_refl _ _ _ := sameManagers_of_mem fun _ _ _ hm _ => hm
  same_trans _ _ _ _ _ := sameManagers_trans

/-- So do any number of commits. -/
theorem keepsBuildings_of_later {s s' : Store} (h : managerDiscipline.Later s s') :
    KeepsBuildings s s' := by
  induction h with
  | refl => exact KeepsBuildings.refl s
  | tail _ hlast ih => exact ih.trans hlast

/-! ### What a commit does to the managers -/

/-- What a commit has to keep, with the locks that it may disturb. -/
def Commits (disturbed : Lock → Prop) (s s' : Store) : Prop :=
  SingleManager s' ∧ KeepsBuildings s s' ∧ ∀ l, ¬ disturbed l → sameManagers l s s'

/-- Two writes of one commit are one. -/
theorem Commits.trans {disturbed : Lock → Prop} {s s' s'' : Store} (h : Commits disturbed s s')
    (h' : Commits disturbed s' s'') : Commits disturbed s s'' :=
  ⟨h'.1, h.2.1.trans h'.2.1, fun l hl => sameManagers_trans (h.2.2 l hl) (h'.2.2 l hl)⟩

variable {s s' : Store} {disturbed : Lock → Prop}

/-- A commit that makes no manager. -/
theorem commits_of_mem (hs : SingleManager s) (hkeeps : KeepsBuildings s s')
    (h : ∀ buildingId, ∀ m ∈ s'.memberships, m.IsManagerOf buildingId → m ∈ s.memberships) :
    Commits disturbed s s' := by
  refine ⟨singleManager_iff.mpr fun buildingId m hm m' hm' hmanager hmanager' => ?_, hkeeps,
    fun l _ => sameManagers_of_mem fun buildingId _ => h buildingId⟩
  exact singleManager_iff.mp hs buildingId m (h _ m hm hmanager) m' (h _ m' hm' hmanager')
    hmanager hmanager'

/-- A commit to other tables makes nobody a manager. -/
theorem quiet_commit (hs : SingleManager s) (hmembers : s'.memberships = s.memberships) :
    Commits disturbed s s' :=
  commits_of_mem hs (fun _ m hm => ⟨m, hmembers ▸ hm, rfl⟩) fun _ _ hm _ => hmembers ▸ hm

/-- An update of a membership keeps its building. -/
theorem keepsBuildings_modify {id : ℕ} {f : Membership → Membership} {h : ∀ m, (f m).id = m.id}
    (hbuilding : ∀ m, (f m).buildingId = m.buildingId)
    (hmembers : s'.memberships = s.memberships.modify id f h) : KeepsBuildings s s' := by
  intro id' m hm
  rw [hmembers, Table.find?_modify, hm]
  by_cases hid : id' = id
  · exact ⟨f m, if_pos hid, hbuilding m⟩
  · exact ⟨m, if_neg hid, rfl⟩

/-- The end of a membership. -/
theorem end_commit (id : ℕ) (f : Membership → Membership) (hf : ∀ m, (f m).id = m.id)
    (hs : SingleManager s) (hbuilding : ∀ m, (f m).buildingId = m.buildingId)
    (hended : ∀ m, (f m).isCurrent = false)
    (hmembers : s'.memberships = s.memberships.modify id f hf) : Commits disturbed s s' := by
  refine commits_of_mem hs (keepsBuildings_modify hbuilding hmembers) fun _ m hm hmanager => ?_
  obtain ⟨m₀, hm₀, rfl⟩ := (Table.mem_modify (h := hf)).mp (hmembers ▸ hm)
  split at hmanager
  case isTrue => exact absurd hmanager.2.2 (by rw [hended]; exact Bool.false_ne_true)
  case isFalse hne =>
    rw [if_neg hne]
    exact hm₀

/-- A membership of a building that nobody else manages is rewritten in any way. -/
theorem revive_commit {buildingId id : ℕ} {f : Membership → Membership}
    {hf : ∀ m, (f m).id = m.id} (hs : SingleManager s)
    (hbuilding : ∀ m, (f m).buildingId = m.buildingId)
    (hrow : ∀ m ∈ s.memberships, m.id = id → m.buildingId = buildingId)
    (hothers : ∀ m ∈ s.memberships, m.IsManagerOf buildingId → m.id = id)
    (hmembers : s'.memberships = s.memberships.modify id f hf) :
    Commits (· = .managers buildingId) s s' := by
  -- the managers of another building are what they were
  have hkept : ∀ other, other ≠ buildingId → ∀ m ∈ s'.memberships, m.IsManagerOf other →
      m ∈ s.memberships := by
    intro other hne m hm hmanager
    obtain ⟨m₀, hm₀, rfl⟩ := (Table.mem_modify (h := hf)).mp (hmembers ▸ hm)
    split at hmanager
    case isTrue hid =>
      exact absurd ((hmanager.1.symm.trans (hbuilding m₀)).trans (hrow m₀ hm₀ hid)) hne
    case isFalse hid =>
      rw [if_neg hid]
      exact hm₀
  have hid : ∀ m ∈ s'.memberships, m.IsManagerOf buildingId → m.id = id := by
    intro m hm hmanager
    obtain ⟨m₀, hm₀, rfl⟩ := (Table.mem_modify (h := hf)).mp (hmembers ▸ hm)
    split at hmanager
    case isTrue hid => rw [if_pos hid, hf, hid]
    case isFalse hid => rw [if_neg hid]; exact hothers m₀ hm₀ hmanager
  refine ⟨singleManager_iff.mpr fun other m hm m' hm' hmanager hmanager' => ?_,
    keepsBuildings_modify hbuilding hmembers, fun l hl => sameManagers_of_mem fun other hother => ?_⟩
  · by_cases hother : other = buildingId
    · subst hother
      exact Table.eq_of_key_eq hm hm' ((hid m hm hmanager).trans (hid m' hm' hmanager').symm)
    · exact singleManager_iff.mp hs other m (hkept other hother m hm hmanager) m'
        (hkept other hother m' hm' hmanager') hmanager hmanager'
  · refine hkept other ?_
    rintro rfl
    exact hl hother

/-- A new membership in a building that nobody manages. -/
theorem appoint_commit {buildingId : ℕ} (mk : ℕ → Membership) (h : ∀ id, (mk id).id = id)
    (hs : SingleManager s) (hbuilding : ∀ id, (mk id).buildingId = buildingId)
    (hnone : ∀ m ∈ s.memberships, ¬ m.IsManagerOf buildingId)
    (hmembers : s'.memberships = s.memberships.create mk h) :
    Commits (· = .managers buildingId) s s' := by
  have hmem : ∀ m ∈ s'.memberships, m ∈ s.memberships ∨ m = mk s.memberships.next :=
    fun m hm => Table.mem_create.mp (hmembers ▸ hm)
  have hkept : ∀ other, other ≠ buildingId → ∀ m ∈ s'.memberships, m.IsManagerOf other →
      m ∈ s.memberships := by
    intro other hne m hm hmanager
    refine (hmem m hm).resolve_right ?_
    rintro rfl
    exact hne (hmanager.1.symm.trans (hbuilding _))
  have hnew : ∀ m ∈ s'.memberships, m.IsManagerOf buildingId → m = mk s.memberships.next :=
    fun m hm hmanager => (hmem m hm).resolve_left fun hold => hnone m hold hmanager
  refine ⟨singleManager_iff.mpr fun other m hm m' hm' hmanager hmanager' => ?_,
    fun id m hm => ⟨m, ?_, rfl⟩, fun l hl => sameManagers_of_mem fun other hother => ?_⟩
  · by_cases hother : other = buildingId
    · subst hother
      rw [hnew m hm hmanager, hnew m' hm' hmanager']
    · exact singleManager_iff.mp hs other m (hkept other hother m hm hmanager) m'
        (hkept other hother m' hm' hmanager') hmanager hmanager'
  · rw [hmembers]
    exact Table.find?_create_of_find? hm
  · refine hkept other ?_
    rintro rfl
    exact hl hother

/-- A new membership in another role. -/
theorem join_commit (mk : ℕ → Membership) (h : ∀ id, (mk id).id = id) (hs : SingleManager s)
    (hrole : ∀ id, (mk id).role ≠ .manager) (hmembers : s'.memberships = s.memberships.create mk h) :
    Commits disturbed s s' := by
  refine commits_of_mem hs (fun id m hm => ⟨m, ?_, rfl⟩) fun _ m hm hmanager => ?_
  · rw [hmembers]
    exact Table.find?_create_of_find? hm
  · refine (Table.mem_create.mp (hmembers ▸ hm)).resolve_right ?_
    rintro rfl
    exact hrole _ hmanager.2.1

/-! ### Decisions of the back office -/

variable {α β : Type} {last : Store} {notes : List (Lock × Mode × Store)} {pending : Store → Store}
  {post : β → Store → List (Lock × Mode × Store) → (Store → Store) → Prop}

/-- The locks of the session, and those it has taken since, are not free. -/
theorem free_of_append {taken : List (Lock × Mode × Store)} {l : Lock} {m : Mode}
    (h : Free (notes ++ taken) l m) : Free notes l m :=
  fun n hn => h n (List.mem_append_left _ hn)

/-- A commit that disturbs nothing but locks of the session. -/
theorem Commits.conclude {P : Prop} (h : Commits disturbed s s')
    (hheld : ∀ l m, Free notes l m → ¬ disturbed l) (hrest : P) :
    SingleManager s' ∧ KeepsBuildings s s' ∧
      (∀ l m, Free notes l m → sameManagers l s s') ∧ P :=
  ⟨h.1, h.2.1, fun l m hl => h.2.2 l (hheld l m hl), hrest⟩

/-- A lock alone. -/
theorem safe_advisoryLock {lock : Lock} {f : PUnit → Call β}
    (h : ∀ last notes, (f ⟨⟩).Safe managerDiscipline post last notes pending) :
    (advisoryLock lock >>= f).Safe managerDiscipline post last notes pending := by
  rw [advisoryLock]
  exact Prog.Safe.write fun s _ _ _ => h s _

/-- The building has no manager but the one of a membership, and stays so. -/
def OnlyManager (buildingId membershipId : ℕ) (notes : List (Lock × Mode × Store)) : Prop :=
  ∃ s₀, (.managers buildingId, .exclusive, s₀) ∈ notes ∧
    ∀ m ∈ s₀.memberships, m.IsManagerOf buildingId → m.id = membershipId

/-- What is known of the manager is known with more locks. -/
theorem OnlyManager.mono {buildingId membershipId : ℕ} {notes' : List (Lock × Mode × Store)}
    (h : OnlyManager buildingId membershipId notes) (hnotes : ∀ n ∈ notes, n ∈ notes') :
    OnlyManager buildingId membershipId notes' := by
  obtain ⟨s₀, hnote, honly⟩ := h
  exact ⟨s₀, hnotes _ hnote, honly⟩

/-- What the lock of the managers says at the commit. -/
theorem OnlyManager.id_eq {buildingId membershipId : ℕ}
    (h : OnlyManager buildingId membershipId notes) (hknows : managerDiscipline.Knows notes s) :
    ∀ m ∈ s.memberships, m.IsManagerOf buildingId → m.id = membershipId := by
  obtain ⟨s₀, hnote, honly⟩ := h
  intro m hm hmanager
  obtain ⟨m₀, hm₀, hmanager₀, hid⟩ := hknows _ hnote m hm hmanager
  exact hid.symm.trans (honly m₀ hm₀ hmanager₀)

/-- Who knows of the only manager holds the lock of the managers. -/
theorem OnlyManager.held {buildingId membershipId : ℕ}
    (h : OnlyManager buildingId membershipId notes) (l : Lock) (m : Mode) (hl : Free notes l m) :
    l ≠ .managers buildingId := by
  obtain ⟨s₀, hnote, -⟩ := h
  rintro rfl
  exact not_free_of_exclusive hnote hl

/-- What follows, when no other manager was found. -/
theorem safe_refuseCompetingManager {buildingId membershipId : ℕ} {f : PUnit → Call β}
    (hpending : ∀ s, (pending s).memberships = s.memberships)
    (h : ∀ last notes, OnlyManager buildingId membershipId notes →
      (f ⟨⟩).Safe managerDiscipline post last notes pending) :
    (BackOfficeRepository.refuseCompetingManager buildingId membershipId >>= f).Safe
      managerDiscipline post last notes pending := by
  rw [BackOfficeRepository.refuseCompetingManager, Prog.bind_assoc]
  refine Prog.Safe.queryUnder fun s _ _ _ => Prog.Safe.require fun hnone => ?_
  refine h s _ ⟨s, List.mem_append_right _ (Discipline.mem_taken ?_ rfl), fun m hm hmanager => ?_⟩
  · rw [BackOfficeRepository.lookedForCompetingManager, hnone]
    exact List.mem_singleton.mpr rfl
  · have hm' : m ∈ (pending s).memberships.rows := (hpending s).symm ▸ hm
    by_contra hne
    exact List.any_eq_false.mp hnone m hm' (decide_eq_true ⟨hmanager, hne⟩)

/-- A membership of the building is found and rewritten, its building after it, and both are
committed. -/
theorem safe_claims {buildingId membershipId : ℕ} {p : Membership → Bool} {q : Building → Bool}
    {e e' : Failure} {f : Membership → Membership} {hf : ∀ m, (f m).id = m.id}
    {r : Building → Building} {hr : ∀ b, (r b).id = b.id} {g : PUnit → Call β}
    (hp : ∀ m, p m = true → m.buildingId = buildingId)
    (hpending : ∀ s, (pending s).memberships = s.memberships)
    (hcommit : ∀ s s', SingleManager s → managerDiscipline.Knows notes s →
      (∀ m ∈ s.memberships, m.id = membershipId → m.buildingId = buildingId) →
      s'.memberships = s.memberships.modify membershipId f hf →
      Commits (fun l => ∀ m, ¬ Free notes l m) s s')
    (hg : ∀ last, (g ⟨⟩).Safe managerDiscipline post last [] id) :
    (claimMembership membershipId p e f hf >>= fun _ =>
      claimBuilding buildingId q e' r hr >>= fun _ => Prog.commitAll >>= g).Safe
        managerDiscipline post last notes pending := by
  rw [claimMembership]
  refine Prog.Safe.claim fun s₁ _ _ _ hmatched => ?_
  rw [claimBuilding]
  refine Prog.Safe.claim fun s₂ _ hlast₂ _ _ => ?_
  refine Prog.Safe.commitAll fun s hs hlast hknows => ?_
  have hknows₀ : managerDiscipline.Knows notes s := fun n hn =>
    hknows n (List.mem_append_left _ (List.mem_append_left _ hn))
  -- the row that matched is still one of the building
  have hrow : ∀ m ∈ s.memberships, m.id = membershipId → m.buildingId = buildingId := by
    rintro m hm rfl
    rw [hpending s₁] at hmatched
    obtain ⟨m₁, hm₁, hpm₁⟩ := (Option.any_eq_true _ _).mp hmatched
    obtain ⟨m', hm', hbuilding⟩ := keepsBuildings_of_later (hlast₂.trans hlast) _ m₁ hm₁
    obtain rfl : m = m' := Option.some.inj ((Table.find?_of_mem hm).symm.trans hm')
    exact hbuilding.trans (hp m₁ hpm₁)
  refine (hcommit s _ hs hknows₀ hrow (congrArg (·.modify membershipId f hf) (hpending s))).conclude
    (fun l m hl hheld => ?_) (hg _)
  exact hheld m (free_of_append (free_of_append hl))

/-- The same, when the building is found to have no other manager. -/
theorem safe_revive {buildingId membershipId : ℕ} {p : Membership → Bool} {q : Building → Bool}
    {e e' : Failure} {f : Membership → Membership} {hf : ∀ m, (f m).id = m.id}
    {r : Building → Building} {hr : ∀ b, (r b).id = b.id} {g : PUnit → Call β}
    (hp : ∀ m, p m = true → m.buildingId = buildingId)
    (hbuilding : ∀ m, (f m).buildingId = m.buildingId)
    (hpending : ∀ s, (pending s).memberships = s.memberships)
    (hg : ∀ last, (g ⟨⟩).Safe managerDiscipline post last [] id) :
    (BackOfficeRepository.refuseCompetingManager buildingId membershipId >>= fun _ =>
      claimMembership membershipId p e f hf >>= fun _ =>
        claimBuilding buildingId q e' r hr >>= fun _ => Prog.commitAll >>= g).Safe
          managerDiscipline post last notes pending := by
  refine safe_refuseCompetingManager hpending fun last notes honly => ?_
  refine safe_claims hp hpending (fun s s' hs hknows hrow hmembers => ?_) hg
  obtain ⟨hsingle, hkeeps, hsame⟩ := revive_commit hs hbuilding hrow (honly.id_eq hknows) hmembers
  refine ⟨hsingle, hkeeps, fun l hl => hsame l ?_⟩
  obtain ⟨m, hfree⟩ := not_forall_not.mp hl
  exact honly.held l m hfree

/-- A decision makes no second manager. -/
theorem safe_decideManagerVerificationCaseAtomically (params : DecideParams) (now : Time) :
    (BackOfficeRepository.decideManagerVerificationCaseAtomically params now).Safe
      managerDiscipline (fun _ _ _ _ => True) last notes id := by
  rw [BackOfficeRepository.decideManagerVerificationCaseAtomically, Prog.transaction]
  simp only [Prog.bind_assoc]
  refine safe_advisoryLock fun last notes => ?_
  rw [claimCase]
  refine Prog.Safe.claim fun s _ _ _ _ => ?_
  rw [DecideParams.refuseCompetingManager, Prog.ite_bind]
  have hp : ∀ m : Membership, decide (m.buildingId = params.buildingId ∧
      m.personId = params.candidateId) = true → m.buildingId = params.buildingId :=
    fun m hm => (of_decide_eq_true hm).1
  have hbuilding : ∀ m, (decided params.decision now m).buildingId = m.buildingId := by
    intro m
    cases params.decision <;> rfl
  split
  · exact safe_revive hp hbuilding (fun _ => rfl) fun _ => trivial
  case isFalse hreject =>
    -- a rejection makes nobody the manager
    rw [Prog.pure_eq, Prog.done_bind]
    refine safe_claims hp (fun _ => rfl) (fun s s' hs _ _ hmembers => ?_) fun _ => trivial
    refine end_commit _ _ _ hs hbuilding (fun m => ?_) hmembers
    rw [not_ne_iff.mp hreject]
    rfl

/-- Nor does the restoration of one. -/
theorem safe_restoreManagerVerificationCaseAtomically (suspendedCaseId reviewerPersonId : ℕ)
    (reason : Option String) (now : Time) :
    (BackOfficeRepository.restoreManagerVerificationCaseAtomically suspendedCaseId reviewerPersonId
      reason now).Safe managerDiscipline (fun _ _ _ _ => True) last notes id := by
  rw [BackOfficeRepository.restoreManagerVerificationCaseAtomically, Prog.transaction]
  simp only [Prog.bind_assoc]
  refine safe_advisoryLock fun last notes => ?_
  refine Prog.Safe.query fun s _ _ _ => Prog.Safe.expect fun suspended _ => ?_
  refine Prog.Safe.require fun _ => Prog.Safe.query fun s _ _ _ => Prog.Safe.require fun _ => ?_
  rw [insertCase]
  refine Prog.Safe.writeUnless fun s _ _ _ _ => ?_
  exact safe_revive (fun m hm => (of_decide_eq_true hm).1) (fun _ => rfl) (fun _ => rfl)
    fun _ => trivial

/-- Nor does an approval of an owner. -/
theorem safe_castManagerVerificationApprovalAtomically (caseId ownerPersonId : ℕ) (now : Time) :
    (BackOfficeRepository.castManagerVerificationApprovalAtomically caseId ownerPersonId now).Safe
      managerDiscipline (fun _ _ _ _ => True) last notes id := by
  rw [BackOfficeRepository.castManagerVerificationApprovalAtomically, Prog.transaction]
  simp only [Prog.bind_assoc]
  refine safe_advisoryLock fun last notes => ?_
  refine Prog.Safe.query fun s _ _ _ => Prog.Safe.expect fun kase _ => ?_
  refine Prog.Safe.query fun s _ _ _ => Prog.Safe.require fun _ => ?_
  rw [BackOfficeRepository.insertApproval]
  refine Prog.Safe.writeUnless fun s _ _ _ _ => ?_
  refine Prog.Safe.query fun s _ _ _ => Prog.Safe.query fun s' _ _ _ => ?_
  rw [Prog.ite_bind]
  split
  · simp only [Prog.bind_assoc, BackOfficeRepository.resolveByOwners]
    rw [claimCase]
    refine Prog.Safe.claim fun s _ _ _ _ => ?_
    exact safe_revive (fun m hm => (of_decide_eq_true hm).1) (fun _ => rfl) (fun _ => rfl)
      fun _ => trivial
  · rw [Prog.pure_eq, Prog.done_bind]
    refine Prog.Safe.commitAll fun s hs _ _ => ?_
    refine Commits.conclude (quiet_commit hs ?_) (fun _ _ _ => not_false) trivial
    rfl

/-! ### Calls about the manager -/

/-- The end of the membership that was found, if one was. -/
def retire (now : Time) (current : Option Membership) (s : Store) : Store :=
  match current with
  | some m => s.onMemberships
    (·.modify m.id (BuildingRepository.retired now) (BuildingRepository.retired_id now))
  | none => s

/-- The membership of a new manager. -/
def appointed (params : BuildingRepository.ChangeManagerParams) (now : Time) (id : ℕ) : Membership :=
  { id, personId := params.newManagerPersonId, buildingId := params.buildingId, role := .manager,
    managerState := some params.managerState, managerAssignmentType := some params.assignmentType,
    assignedById := params.assignedById, startedAt := now }

theorem appointed_id (params : BuildingRepository.ChangeManagerParams) (now : Time) (id : ℕ) :
    (appointed params now id).id = id := rfl

/-- The former manager's membership is ended, if there was one. -/
theorem safe_retireManager {current : Option Membership} {now : Time} {f : PUnit → Call β}
    (h : ∀ last notes', (∀ n ∈ notes, n ∈ notes') → (f ⟨⟩).Safe managerDiscipline post last notes'
      fun s => retire now current (pending s)) :
    (BuildingRepository.retireManager now current >>= f).Safe managerDiscipline post last notes
      pending := by
  cases current with
  | none => exact h last notes fun _ hn => hn
  | some m =>
    rw [BuildingRepository.retireManager, updateMembership]
    exact Prog.Safe.writeIf fun s _ _ _ _ => h s _ fun _ hn => List.mem_append_left _ hn

/-- The only manager that was seen is ended, and another one takes the place. -/
theorem handoff_commit (params : BuildingRepository.ChangeManagerParams) (now : Time)
    {current : Option Membership} (hs : SingleManager s)
    (hseen : ∀ m ∈ s.memberships, m.IsManagerOf params.buildingId →
      some m.id = current.map Membership.id)
    (hmembers : s'.memberships = (retire now current s).memberships.create
      (appointed params now) (appointed_id params now)) :
    Commits (· = .managers params.buildingId) s s' := by
  have hretired : Commits (· = .managers params.buildingId) s (retire now current s) := by
    cases current with
    | none => exact quiet_commit hs rfl
    | some m =>
      exact end_commit m.id (BuildingRepository.retired now) (BuildingRepository.retired_id now) hs
        (fun _ => rfl) (fun _ => rfl) rfl
  refine hretired.trans
    (appoint_commit _ _ hretired.1 (fun _ => rfl) (fun m hm hmanager => ?_) hmembers)
  cases current with
  | none => exact absurd (hseen m hm hmanager) (Option.some_ne_none _)
  | some current =>
    obtain ⟨m₀, hm₀, rfl⟩ := (Table.mem_modify (h := BuildingRepository.retired_id now)).mp hm
    split at hmanager
    case isTrue => exact absurd hmanager.2.2 Bool.false_ne_true
    case isFalse hne => exact hne (Option.some.inj (hseen m₀ hm₀ hmanager))

/-- Nor does `changeManager`, under the lock that nobody enforces. -/
theorem safe_changeManager (params : BuildingRepository.ChangeManagerParams) (now : Time) :
    (BuildingService.changeManager params now).Safe managerDiscipline (fun _ _ _ _ => True) last
      [] id := by
  rw [BuildingService.changeManager]
  refine safe_getById_bind fun _ _ _ _ _ => ?_
  refine Prog.Safe.query fun s _ _ _ => ?_
  rw [ManagerAssignmentPolicy.assertNotSelfHandoff]
  refine Prog.Safe.require fun _ => Prog.Safe.query fun s _ _ _ => ?_
  rw [ManagerAssignmentPolicy.assertCandidateIsMember]
  refine Prog.Safe.require fun _ => ?_
  rw [BuildingRepository.changeManager, Prog.transaction]
  simp only [Prog.bind_assoc]
  refine Prog.Safe.queryUnder fun s₀ hs₀ _ _ => ?_
  have hnote : (.managers params.buildingId, .exclusive, s₀) ∈
      [] ++ managerDiscipline.taken [(.managers params.buildingId, .exclusive)] s₀ :=
    List.mem_append_right _ (Discipline.mem_taken (List.mem_singleton.mpr rfl) rfl)
  refine safe_retireManager fun last notes hnotes => ?_
  -- whoever manages the building at the commit was seen
  have hseen : ∀ s, managerDiscipline.Knows notes s → ∀ m ∈ s.memberships,
      m.IsManagerOf params.buildingId →
        some m.id = (s₀.currentManager params.buildingId).map Membership.id := by
    intro s hknows m hm hmanager
    obtain ⟨m₀, hm₀, hmanager₀, hid⟩ := hknows _ (hnotes _ hnote) m hm hmanager
    cases hcurrent : s₀.currentManager params.buildingId with
    | none => exact absurd hmanager₀ (Store.currentManager_eq_none.mp hcurrent m₀ hm₀)
    | some current =>
      obtain ⟨hmem, hmanages⟩ := Store.currentManager_eq_some hcurrent
      rw [← hid, singleManager_iff.mp hs₀ _ m₀ hm₀ current hmem hmanager₀ hmanages]
      rfl
  have hheld : ∀ l m, Free notes l m → l ≠ .managers params.buildingId := by
    rintro l m hl rfl
    exact not_free_of_exclusive (hnotes _ hnote) hl
  rw [insertMembership]
  refine Prog.Safe.writeUnless fun s₁ _ _ _ _ => ?_
  rw [Prog.ite_bind]
  split
  · rw [updateBuilding]
    refine Prog.Safe.writeIf fun s₂ _ _ _ _ => Prog.Safe.commitAll fun s hs _ hknows => ?_
    refine (handoff_commit params now hs (hseen s fun n hn => hknows n ?_) ?_).conclude
      (fun l m hl => hheld l m (free_of_append (free_of_append hl))) trivial
    · exact List.mem_append_left _ (List.mem_append_left _ hn)
    · rfl
  · refine Prog.Safe.commitAll fun s hs _ hknows => ?_
    refine (handoff_commit params now hs (hseen s fun n hn => hknows n ?_) ?_).conclude
      (fun l m hl => hheld l m (free_of_append hl)) trivial
    · exact List.mem_append_left _ hn
    · rfl

/-- Nor does `endManagement`. -/
theorem safe_endManagement (buildingId : ℕ) (now : Time) :
    (BuildingService.endManagement buildingId now).Safe managerDiscipline (fun _ _ _ _ => True) last
      [] id := by
  rw [BuildingService.endManagement]
  refine Prog.Safe.query fun s _ _ _ => ?_
  rw [ManagerAssignmentPolicy.assertHasActiveManager]
  refine Prog.Safe.expect fun current _ => ?_
  rw [BuildingRepository.endManagement, Prog.transaction, updateMembership]
  refine Prog.Safe.writeIf fun s _ _ _ _ => Prog.Safe.commitAll fun s hs _ _ => ?_
  exact Commits.conclude (end_commit current.id (BuildingRepository.retired now)
    (BuildingRepository.retired_id now) hs (fun _ => rfl) (fun _ => rfl) rfl)
    (fun _ _ _ => not_false) trivial

/-- The membership of an approved request. -/
def joined (personId buildingId : ℕ) (role : MembershipRole) (now : Time) (id : ℕ) : Membership :=
  { id, personId, buildingId, role,
    managerState := if role = .manager then some .provisional else none
    managerAssignmentType := if role = .manager then some .appointed else none
    startedAt := now }

theorem joined_id (personId buildingId : ℕ) (role : MembershipRole) (now : Time) (id : ℕ) :
    (joined personId buildingId role now id).id = id := rfl

/-- A new manager is the only one where none was found. -/
theorem safe_createMembership (personId buildingId : ℕ) (role : MembershipRole) (now : Time)
    (hnone : role = .manager → ∃ s₀, (.managers buildingId, .exclusive, s₀) ∈ notes ∧
      ∀ m ∈ s₀.memberships, ¬ m.IsManagerOf buildingId) :
    (BuildingRepository.createMembership personId buildingId role now).Safe managerDiscipline
      (fun _ _ _ _ => True) last notes id := by
  rw [BuildingRepository.createMembership, Prog.transaction, insertMembership]
  refine Prog.Safe.writeUnless fun s _ _ _ _ => Prog.Safe.commitAll fun s hs _ hknows => ?_
  by_cases hrole : role = .manager
  · obtain ⟨s₀, hnote, hnone⟩ := hnone hrole
    refine Commits.conclude (appoint_commit (joined personId buildingId role now)
      (joined_id personId buildingId role now) hs (fun _ => rfl) (fun m hm hmanager => ?_) rfl)
      (fun l m hl => ?_) trivial
    · obtain ⟨m₀, hm₀, hmanager₀, -⟩ := hknows _ (List.mem_append_left _ hnote) m hm hmanager
      exact hnone m₀ hm₀ hmanager₀
    · rintro rfl
      exact not_free_of_exclusive (List.mem_append_left _ hnote) hl
  · exact Commits.conclude (join_commit (joined personId buildingId role now)
      (joined_id personId buildingId role now) hs (fun _ => hrole) rfl)
      (fun _ _ _ => not_false) trivial

/-- What follows may rely on it that there is no manager. -/
theorem safe_assertNoActiveManager {existing : Option Membership} {f : PUnit → Call β}
    (h : existing = none → (f ⟨⟩).Safe managerDiscipline post last notes pending) :
    (ManagerAssignmentPolicy.assertNoActiveManager existing >>= f).Safe managerDiscipline post last
      notes pending := by
  cases existing with
  | none => exact h rfl
  | some existing => trivial

/-- An approved request becomes a membership; if it asks for the management, only in a building
that nobody manages. -/
theorem safe_resolveMembershipRequest (buildingId requestId : ℕ)
    (resolution : BuildingService.Resolution) (now : Time) :
    (BuildingService.resolveMembershipRequest buildingId requestId resolution now).Safe
      managerDiscipline (fun _ _ _ _ => True) last [] id := by
  rw [BuildingService.resolveMembershipRequest]
  refine Prog.Safe.query fun s _ _ _ => Prog.Safe.expect fun request _ =>
    Prog.Safe.require fun _ => ?_
  rw [BuildingRepository.updateMembershipRequestStatus, Prog.transaction, Prog.bind_assoc]
  refine Prog.Safe.writeIf fun s _ _ _ _ => ?_
  rw [Prog.bind_assoc]
  refine Prog.Safe.commitAll fun s hs _ _ => ?_
  refine Commits.conclude (quiet_commit hs ?_) (fun _ _ _ => not_false) ?_
  · rfl
  rw [Prog.pure_bind]
  split
  case isFalse => trivial
  rw [BuildingService.guardManagerRole, Prog.ite_bind]
  split
  case isFalse hrole =>
    exact safe_createMembership _ _ _ _ fun h => absurd h hrole
  rw [Prog.bind_assoc]
  refine Prog.Safe.queryUnder fun s₀ _ _ _ => ?_
  refine safe_assertNoActiveManager fun hnone => ?_
  refine safe_createMembership _ _ _ _ fun _ => ⟨s₀, ?_, Store.currentManager_eq_none.mp hnone⟩
  refine List.mem_append_right _ (Discipline.mem_taken ?_ rfl)
  rw [BuildingService.lookedForManager, if_neg (by rw [hnone]; exact Bool.false_ne_true)]
  exact List.mem_singleton.mpr rfl

/-! ### Runs -/

/-- A call that makes or ends a manager. -/
inductive ManagerCall
  | changeManager (params : BuildingRepository.ChangeManagerParams) (now : Time)
  | endManagement (buildingId : ℕ) (now : Time)
  | resolveMembershipRequest (buildingId requestId : ℕ) (resolution : BuildingService.Resolution)
      (now : Time)
  | decideManagerVerificationCaseAtomically (params : DecideParams) (now : Time)
  | castManagerVerificationApprovalAtomically (caseId ownerPersonId : ℕ) (now : Time)
  | restoreManagerVerificationCaseAtomically (suspendedCaseId reviewerPersonId : ℕ)
      (reason : Option String) (now : Time)

/-- The method that the call is made to. -/
def ManagerCall.call : ManagerCall → Call PUnit
  | .changeManager params now => BuildingService.changeManager params now
  | .endManagement buildingId now => BuildingService.endManagement buildingId now
  | .resolveMembershipRequest buildingId requestId resolution now =>
    BuildingService.resolveMembershipRequest buildingId requestId resolution now
  | .decideManagerVerificationCaseAtomically params now =>
    BackOfficeRepository.decideManagerVerificationCaseAtomically params now
  | .castManagerVerificationApprovalAtomically caseId ownerPersonId now => do
    let _ ← BackOfficeRepository.castManagerVerificationApprovalAtomically caseId ownerPersonId now
    pure ⟨⟩
  | .restoreManagerVerificationCaseAtomically suspendedCaseId reviewerPersonId reason now =>
    BackOfficeRepository.restoreManagerVerificationCaseAtomically suspendedCaseId reviewerPersonId
      reason now

/-- Every call keeps the discipline. -/
theorem ManagerCall.safe (c : ManagerCall) :
    c.call.Safe managerDiscipline (fun _ _ _ _ => True) s [] id := by
  cases c with
  | changeManager params now => exact safe_changeManager params now
  | endManagement buildingId now => exact safe_endManagement buildingId now
  | resolveMembershipRequest buildingId requestId resolution now =>
    exact safe_resolveMembershipRequest buildingId requestId resolution now
  | decideManagerVerificationCaseAtomically params now =>
    exact safe_decideManagerVerificationCaseAtomically params now
  | castManagerVerificationApprovalAtomically caseId ownerPersonId now =>
    exact Prog.Safe.bind (safe_castManagerVerificationApprovalAtomically caseId ownerPersonId now)
      fun _ _ _ _ _ => trivial
  | restoreManagerVerificationCaseAtomically suspendedCaseId reviewerPersonId reason now =>
    exact safe_restoreManagerVerificationCaseAtomically suspendedCaseId reviewerPersonId reason now

/-- The event is no look for the manager of a building while somebody else who has looked has
still to commit. -/
abbrev Unhurried {ι α : Type} [DecidableEq ι] (d : Sessions ι α) (e : Event ι Failure) : Prop :=
  d.Orderly Lock.enforced (fun _ => true) e

/-- Any number of sessions, statement by statement in any order: no building gets two managers
as long as no session looks for its manager between the look and the commit of another one. -/
theorem singleManager_of_unhurried {ι : Type} [DecidableEq ι] (hs : SingleManager s)
    (calls : ι → ManagerCall) {es : List (Event ι Failure)}
    (hes : EachStep (Database.next Lock.enforced) Unhurried
      (Database.start s fun i => (calls i).call) es) :
    SingleManager (runCalls s (fun i => (calls i).call) es).store :=
  (Database.safe_run (D := managerDiscipline) hs (fun i => (calls i).safe) hes).1

/-- A building without manager, with two people who live in it. -/
def unmanagedHome : Store :=
  { Store.empty with
    buildings := Table.empty.create fun id =>
      { id, name := "Home", addressLine := "", postalCode := "1", createdById := 0 }
    persons := (Table.empty.create fun id => { id, phone := "1" }).create fun id =>
      { id, phone := "2" }
    memberships := (Table.empty.create fun id =>
      { id, personId := 0, buildingId := 0, role := .owner }).create fun id =>
        { id, personId := 1, buildingId := 0, role := .owner } }

/-- The building of the runs has no manager. -/
theorem singleManager_unmanagedHome : SingleManager unmanagedHome := by
  have howners : ∀ m ∈ unmanagedHome.memberships, m.role ≠ .manager := by decide
  exact singleManager_iff.mpr fun _ m hm _ _ hmanager _ => absurd hmanager.2.1 (howners m hm)

/-- Each of the two is elected. -/
def twoElections (i : Fin 2) : ManagerCall :=
  .changeManager
    { buildingId := 0, newManagerPersonId := i, assignmentType := .elected, assignedById := none } 1

/-- The second election starts when the first one is through, and replaces its manager. -/
theorem singleManager_of_unhurried_twoElections :
    SingleManager (runCalls unmanagedHome (fun i => (twoElections i).call)
      (List.replicate 10 (Event.step 0) ++ List.replicate 10 (Event.step 1))).store :=
  singleManager_of_unhurried singleManager_unmanagedHome twoElections (by decide +kernel)

/-- Both look for a manager to replace before either has committed: the building has two. -/
theorem two_managers_elected :
    ¬ SingleManager (runCalls unmanagedHome (fun i => (twoElections i).call)
      (List.replicate 4 (Event.step 0) ++ List.replicate 10 (Event.step 1) ++
        List.replicate 6 (Event.step 0))).store :=
  fun h => absurd (h 0) (by decide +kernel)

end VielHome.Backoffice
