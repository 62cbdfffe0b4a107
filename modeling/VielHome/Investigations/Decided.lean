import VielHome.Investigations.Service
import VielHome.Relational.Evolves

/-!
# What holds of the cases of an investigation

A case goes from `OPEN` over `UNDER_INVESTIGATION`, or directly, to a decision, and keeps its
verdict from then on (`Follows`). Enforcement actions belong to confirmed cases, reopened cases link
to decided ones, and the compliance case that was detected for a category and a person, and is not
decided yet, is the one that holds their key (`Sound`).

All three rest on the decision being final: a call that has found a case confirmed, or decided,
relies on it without a lock and without a second look.
-/

namespace VielHome.Investigations

open Relational Community
open BackOfficeRepository (ComplianceCaseParams FraudCaseParams categoryName detectionKey holdsKey)
open Relational.ReadCommitted (Discipline Free Mode)

variable {s s' : Store} {caseId : ℕ} {category category' : ComplianceCaseCategory}
  {subject subject' : ℕ}

/-! ### Verdicts -/

/-- The case is `CONFIRMED` or `DISMISSED`. -/
def IsDecided (status : FraudCaseStatus) : Prop := status ∈ TERMINAL_STATUSES

instance (status : FraudCaseStatus) : Decidable (IsDecided status) :=
  inferInstanceAs (Decidable (_ ∈ _))

/-- The status of a case, and the columns of its decision. -/
structure Verdict where
  status : FraudCaseStatus
  decidedById : Option ℕ
  reason : Option String
  decidedAt : Option Time
  deriving DecidableEq

/-- What was decided about a fraud case. -/
def fraudVerdict (k : FraudCase) : Verdict := ⟨k.status, k.reviewedById, k.reason, k.decidedAt⟩

/-- What was decided about a compliance case. -/
def complianceVerdict (k : ComplianceCase) : Verdict :=
  ⟨k.status, k.decidedById, k.decisionReason, k.decidedAt⟩

/-- The ways of an investigation. -/
def Transition : FraudCaseStatus → FraudCaseStatus → Prop
  | .open, .underInvestigation => True
  | .open, .confirmed => True
  | .open, .dismissed => True
  | .underInvestigation, .confirmed => True
  | .underInvestigation, .dismissed => True
  | _, _ => False

/-- The verdict is as before, or the case has gone on. -/
def Moves (v v' : Verdict) : Prop := v' = v ∨ Transition v.status v'.status

/-- A verdict may stay. -/
theorem Moves.refl (v : Verdict) : Moves v v := Or.inl rfl

/-- There is no way on from a decision. -/
theorem Moves.eq_of_decided {v v' : Verdict} (h : Moves v v') (hv : IsDecided v.status) : v' = v := by
  rcases h with h | h
  · exact h
  · rcases hv' : v.status with _ | _ | _ | _ <;> rw [hv'] at h hv
    · exact absurd hv (by decide)
    · exact absurd hv (by decide)
    · exact h.elim
    · exact h.elim

/-! ### From one store to the next -/

/-- A fraud case moves, and stays linked to the case it was reopened from. -/
def FraudMoves (k k' : FraudCase) : Prop :=
  Moves (fraudVerdict k) (fraudVerdict k') ∧ k'.isReopen = k.isReopen ∧
    k'.previousCaseId = k.previousCaseId

/-- How a commit may change a compliance case. -/
def ComplianceMoves (k k' : ComplianceCase) : Prop :=
  Moves (complianceVerdict k) (complianceVerdict k')

/-- Every case goes the ways of an investigation, and a case that is new is open. -/
structure Follows (s s' : Store) : Prop where
  fraudCases : Table.Evolves FraudMoves (fun k => k.status = .open) s.fraudCases s'.fraudCases
  complianceCases : Table.Evolves ComplianceMoves (fun k => k.status = .open) s.complianceCases
    s'.complianceCases

/-- Decided cases keep their verdict. -/
structure KeepsDecided (s s' : Store) : Prop where
  fraudCases : ∀ id k, s.fraudCases.find? id = some k → IsDecided k.status →
    ∃ k', s'.fraudCases.find? id = some k' ∧ fraudVerdict k' = fraudVerdict k
  complianceCases : ∀ id k, s.complianceCases.find? id = some k → IsDecided k.status →
    ∃ k', s'.complianceCases.find? id = some k' ∧ complianceVerdict k' = complianceVerdict k

/-- A fraud case may stay as it is. -/
theorem FraudMoves.refl (k : FraudCase) : FraudMoves k k := ⟨.refl _, rfl, rfl⟩

/-- So may a compliance case. -/
theorem ComplianceMoves.refl (k : ComplianceCase) : ComplianceMoves k k := Moves.refl _

/-- A commit may change nothing. -/
theorem Follows.refl (s : Store) : Follows s s :=
  ⟨.refl FraudMoves.refl _, .refl ComplianceMoves.refl _⟩

/-- Then what was decided stays. -/
theorem KeepsDecided.refl (s : Store) : KeepsDecided s s :=
  ⟨fun _ k hk _ => ⟨k, hk, rfl⟩, fun _ k hk _ => ⟨k, hk, rfl⟩⟩

/-- So it does over two commits. -/
theorem KeepsDecided.trans {s'' : Store} (h : KeepsDecided s s') (h' : KeepsDecided s' s'') :
    KeepsDecided s s'' := by
  refine ⟨fun id k hk hdecided => ?_, fun id k hk hdecided => ?_⟩
  · obtain ⟨k', hk', hverdict⟩ := h.fraudCases id k hk hdecided
    have hstatus : k'.status = k.status := congrArg Verdict.status hverdict
    obtain ⟨k'', hk'', hverdict'⟩ := h'.fraudCases id k' hk' (hstatus ▸ hdecided)
    exact ⟨k'', hk'', hverdict'.trans hverdict⟩
  · obtain ⟨k', hk', hverdict⟩ := h.complianceCases id k hk hdecided
    have hstatus : k'.status = k.status := congrArg Verdict.status hverdict
    obtain ⟨k'', hk'', hverdict'⟩ := h'.complianceCases id k' hk' (hstatus ▸ hdecided)
    exact ⟨k'', hk'', hverdict'.trans hverdict⟩

/-- What a commit may do keeps what was decided. -/
theorem Follows.keepsDecided (h : Follows s s') : KeepsDecided s s' := by
  refine ⟨fun id k hk hdecided => ?_, fun id k hk hdecided => ?_⟩
  · obtain ⟨k', hk', hmoves, -⟩ := h.fraudCases.row id k hk
    exact ⟨k', hk', hmoves.eq_of_decided hdecided⟩
  · obtain ⟨k', hk', hmoves⟩ := h.complianceCases.row id k hk
    exact ⟨k', hk', Moves.eq_of_decided hmoves hdecided⟩

/-! ### What holds of the fraud cases -/

/-- The fraud case is there and was decided in this way. -/
def DecidedAs (status : FraudCaseStatus) (id : ℕ) (t : Table FraudCase FraudCase.id) : Prop :=
  ∃ k, t.find? id = some k ∧ k.status = status

/-- The fraud case is there and was decided. -/
def DecidedIn (id : ℕ) (t : Table FraudCase FraudCase.id) : Prop :=
  ∃ k, t.find? id = some k ∧ IsDecided k.status

/-- A case was reopened from a decided one, or it was not reopened. -/
def Links (t : Table FraudCase FraudCase.id) (isReopen : Bool) (previousCaseId : Option ℕ) : Prop :=
  match previousCaseId with
  | some id => isReopen = true ∧ DecidedIn id t
  | none => isReopen = false

section FraudCases

variable {t t' : Table FraudCase FraudCase.id} {New : FraudCase → Prop}
  (h : Table.Evolves FraudMoves New t t')

include h

/-- A case that was decided stays so. -/
theorem decidedIn_of_evolves (hid : DecidedIn caseId t) : DecidedIn caseId t' := by
  refine h.keeps (P := fun k : FraudCase => IsDecided k.status) (fun k k' hmoves hdecided => ?_) hid
  have hstatus : k'.status = k.status :=
    congrArg Verdict.status (hmoves.1.eq_of_decided hdecided)
  rw [hstatus]
  exact hdecided

/-- A case that was confirmed stays so. -/
theorem confirmed_of_evolves (hid : DecidedAs .confirmed caseId t) :
    DecidedAs .confirmed caseId t' := by
  refine h.keeps (P := fun k : FraudCase => k.status = .confirmed) (fun k k' hmoves hconfirmed => ?_) hid
  have hdecided : IsDecided (fraudVerdict k).status := by
    change IsDecided k.status
    rw [hconfirmed]
    decide
  exact (congrArg Verdict.status (hmoves.1.eq_of_decided hdecided)).trans hconfirmed

/-- A case stays linked to the one that it has reopened. -/
theorem links_of_evolves {isReopen : Bool} {previousCaseId : Option ℕ}
    (hlinks : Links t isReopen previousCaseId) : Links t' isReopen previousCaseId := by
  cases previousCaseId with
  | none => exact hlinks
  | some id => exact ⟨hlinks.1, decidedIn_of_evolves h hlinks.2⟩

end FraudCases

/-! ### What holds of the compliance cases -/

/-- No category has a colon in its name. -/
theorem colon_notMem_categoryName (category : ComplianceCaseCategory) :
    ':' ∉ (categoryName category).toList := by
  cases category <;> decide

/-- Categories have different names. -/
theorem categoryName_injective : Function.Injective categoryName := by
  intro category category' h
  cases category <;> cases category' <;> first | rfl | exact absurd h (by decide)

/-- The key is the category, a colon, and the person. -/
theorem toList_detectionKey (category : ComplianceCaseCategory) (subject : ℕ) :
    (detectionKey category subject).toList =
      (categoryName category).toList ++ ':' :: Nat.toDigits 10 subject := by
  have hname : toString (categoryName category) = categoryName category := rfl
  have hcolon : (toString ":").toList = [':'] := rfl
  simp [detectionKey, hname, hcolon]

/-- A key tells the category and the person: it has one colon. -/
theorem detectionKey_inj :
    detectionKey category subject = detectionKey category' subject' ↔
      category = category' ∧ subject = subject' := by
  refine ⟨fun h => ?_, fun h => by rw [h.1, h.2]⟩
  have hlist := congrArg String.toList h
  have hcolon : ':' ∉ Nat.toDigits 10 subject := by
    intro hmem
    have hdigit := Nat.isDigit_of_mem_toDigits (by decide) (by decide) hmem
    exact absurd hdigit (by decide)
  rw [toList_detectionKey, toList_detectionKey, List.append_cons_inj_of_notMem
    (colon_notMem_categoryName category) hcolon] at hlist
  obtain ⟨hname, -, hdigits⟩ := hlist
  refine ⟨categoryName_injective (String.toList_inj.mp hname), ?_⟩
  rw [← Nat.ofDigitChars_ten_toDigits (n := subject), hdigits, Nat.ofDigitChars_ten_toDigits]

/-- The case was detected for the category and the person, and is not decided yet. -/
def IsDetected (category : ComplianceCaseCategory) (subject : ℕ) (k : ComplianceCase) : Prop :=
  k.isAutoDetected = true ∧ ¬ IsDecided k.status ∧ k.category = category ∧
    k.subjectActorId = some subject

instance {k : ComplianceCase} : Decidable (IsDetected category subject k) :=
  inferInstanceAs (Decidable (_ ∧ _))

/-- A case that was detected is about a person, and it holds the key of its category and its person
until it is decided. -/
structure HoldsItsKey (k : ComplianceCase) : Prop where
  subject : k.isAutoDetected = true → k.subjectActorId ≠ none
  holder : ∀ category subject,
    k.activeDetectionKey = some (detectionKey category subject) ↔ IsDetected category subject k

/-- A compliance case goes on: it stays what it was detected for, and takes no key. -/
structure Proceeds (k k' : ComplianceCase) : Prop where
  moves : ComplianceMoves k k'
  holds : HoldsItsKey k → HoldsItsKey k'
  detected : ∀ category subject, IsDetected category subject k' → IsDetected category subject k
  key : ∀ key, k'.activeDetectionKey = some key → k.activeDetectionKey = some key

/-- The invariant of the two case systems. -/
structure Sound (s : Store) : Prop where
  enforced : ∀ a ∈ s.enforcementActions, DecidedAs .confirmed a.fraudCaseId s.fraudCases
  reopened : ∀ k ∈ s.fraudCases, Links s.fraudCases k.isReopen k.previousCaseId
  detected : ∀ k ∈ s.complianceCases, HoldsItsKey k
  unique : ∀ category subject, ∀ k ∈ s.complianceCases, ∀ k' ∈ s.complianceCases,
    IsDetected category subject k → IsDetected category subject k' → k = k'

/-! ### What the sessions rely on -/

/-- What a lock protects: a row, and that nobody holds a key. -/
def sameFor : Lock → Store → Store → Prop
  | .fraudCase id, s, s' => ∀ k, s.fraudCases.find? id = some k → s'.fraudCases.find? id = some k
  | .complianceCase id, s, s' =>
    ∀ k, s.complianceCases.find? id = some k → s'.complianceCases.find? id = some k
  | .detectionKey key, s, s' => holdsKey key s = false → holdsKey key s' = false
  | .community _, _, _ => True
  | .cases _, _, _ => True

/-- A store is the same as itself, for every lock. -/
theorem sameFor_refl (l : Lock) (s : Store) : sameFor l s s := by
  cases l with
  | fraudCase id => exact fun _ hk => hk
  | complianceCase id => exact fun _ hk => hk
  | detectionKey key => exact fun hkey => hkey
  | community _ => trivial
  | cases _ => trivial

/-- What is the same twice in a row is the same. -/
theorem sameFor_trans {l : Lock} {s s' s'' : Store} (h : sameFor l s s') (h' : sameFor l s' s'') :
    sameFor l s s'' := by
  cases l with
  | fraudCase id => exact fun k hk => h' k (h k hk)
  | complianceCase id => exact fun k hk => h' k (h k hk)
  | detectionKey key => exact fun hkey => h' (h hkey)
  | community _ => trivial
  | cases _ => trivial

/-- The rows of the cases, and the keys. -/
def Lock.ofCase : Lock → Bool
  | fraudCase _ => true
  | complianceCase _ => true
  | detectionKey _ => true
  | community _ => false
  | cases _ => false

/-- What the sessions rely on: what was decided stays as it is. -/
def decisionDiscipline : Discipline Store Lock where
  inv := Sound
  commits := Follows
  kept := Lock.ofCase
  same l _ s s' := sameFor l s s'
  same_refl l _ s := sameFor_refl l s
  same_trans _ _ _ _ _ h h' := sameFor_trans h h'

/-! ### What a commit does -/

/-- What a commit has to keep, with the locks that it may disturb. -/
structure Commits (disturbed : Lock → Prop) (s s' : Store) : Prop where
  sound : Sound s'
  follows : Follows s s'
  same : ∀ l, ¬ disturbed l → sameFor l s s'

/-- A commit that leaves the compliance cases alone disturbs the rows of fraud cases at most. -/
private theorem sameFor_of_complianceCases (h : s'.complianceCases = s.complianceCases) {l : Lock}
    (hl : ∀ id, l ≠ .fraudCase id) : sameFor l s s' := by
  cases l with
  | fraudCase id => exact absurd rfl (hl id)
  | complianceCase id => exact fun k hk => (congrArg (·.find? id) h).trans hk
  | detectionKey key =>
    intro hkey
    rw [holdsKey, h]
    exact hkey
  | community _ => trivial
  | cases _ => trivial

section FraudCases

variable (hs : Sound s) (hactions : s'.enforcementActions = s.enforcementActions)
  (hcompliance : s'.complianceCases = s.complianceCases)

include hs hactions hcompliance

/-- The fraud cases may change in every way that the invariant allows for. -/
private theorem sound_of_evolves
    (h : Table.Evolves FraudMoves
      (fun k => k.status = .open ∧ Links s.fraudCases k.isReopen k.previousCaseId) s.fraudCases
      s'.fraudCases) :
    Sound s' ∧ Follows s s' := by
  refine ⟨⟨fun a ha => ?_, fun k hk => ?_, ?_, ?_⟩, ⟨?_, ?_⟩⟩
  · rw [hactions] at ha
    exact confirmed_of_evolves h (hs.enforced a ha)
  · rcases h.of_mem hk with hnew | ⟨k₀, hk₀, -, hreopen, hprevious⟩
    · exact links_of_evolves h hnew.2
    · rw [hreopen, hprevious]
      exact links_of_evolves h (hs.reopened k₀ hk₀)
  · rw [hcompliance]
    exact hs.detected
  · rw [hcompliance]
    exact hs.unique
  · exact h.mono (fun _ _ hmoves => hmoves) fun _ hnew => hnew.1
  · rw [hcompliance]
    exact .refl ComplianceMoves.refl _

/-- A new fraud case, opened or reopened. -/
theorem createFraudCase_commit {params : FraudCaseParams}
    (hcases : s'.fraudCases = s.fraudCases.create params.row params.row_id)
    (hlinks : Links s.fraudCases (params.isReopen.getD false) params.previousCaseId) :
    Commits (fun _ => False) s s' := by
  obtain ⟨hsound, hfollows⟩ := sound_of_evolves hs hactions hcompliance
    (hcases ▸ Table.evolves_create (h := params.row_id) FraudMoves.refl ⟨rfl, hlinks⟩)
  refine ⟨hsound, hfollows, fun l _ => ?_⟩
  by_cases hl : ∃ id, l = .fraudCase id
  · obtain ⟨id, rfl⟩ := hl
    intro k hk
    rw [hcases]
    exact Table.find?_create_of_find? hk
  · exact sameFor_of_complianceCases hcompliance fun id h => hl ⟨id, h⟩

/-- A change of one fraud case. -/
theorem modifyFraudCase_commit {f : FraudCase → FraudCase} {h : ∀ k, (f k).id = k.id}
    (hcases : s'.fraudCases = s.fraudCases.modify caseId f h)
    (hmoves : ∀ k, s.fraudCases.find? caseId = some k → FraudMoves k (f k)) :
    Commits (fun l => l = .fraudCase caseId) s s' := by
  obtain ⟨hsound, hfollows⟩ := sound_of_evolves hs hactions hcompliance
    (hcases ▸ Table.evolves_modify (h := h) FraudMoves.refl hmoves)
  refine ⟨hsound, hfollows, fun l hl => ?_⟩
  by_cases hrow : ∃ id, l = .fraudCase id
  · obtain ⟨id, rfl⟩ := hrow
    intro k hk
    rw [hcases, Table.find?_modify_ne fun h => hl (congrArg Lock.fraudCase h)]
    exact hk
  · exact sameFor_of_complianceCases hcompliance fun id h => hrow ⟨id, h⟩

end FraudCases

section ComplianceCases

variable (hs : Sound s) (hactions : s'.enforcementActions = s.enforcementActions)
  (hfraud : s'.fraudCases = s.fraudCases)

include hs hactions hfraud

/-- The compliance cases may change in every way that keeps what holds of them. -/
private theorem sound_of_detected (hdetected : ∀ k ∈ s'.complianceCases, HoldsItsKey k)
    (hunique : ∀ category subject, ∀ k ∈ s'.complianceCases, ∀ k' ∈ s'.complianceCases,
      IsDetected category subject k → IsDetected category subject k' → k = k')
    (h : Table.Evolves ComplianceMoves (fun k => k.status = .open) s.complianceCases
      s'.complianceCases) :
    Sound s' ∧ Follows s s' := by
  refine ⟨⟨?_, ?_, hdetected, hunique⟩, ⟨?_, h⟩⟩
  · rw [hactions, hfraud]
    exact hs.enforced
  · rw [hfraud]
    exact hs.reopened
  · rw [hfraud]
    exact .refl FraudMoves.refl _

/-- A new compliance case, whose key nobody holds. -/
theorem createComplianceCase_commit {params : ComplianceCaseParams}
    (hcases : s'.complianceCases = s.complianceCases.create params.row params.row_id)
    (hopen : params.status = none) (hholds : ∀ id, HoldsItsKey (params.row id))
    (hkey : ∀ key, params.activeDetectionKey = some key → holdsKey key s = false) :
    Commits (fun l => ∃ key, params.activeDetectionKey = some key ∧ l = .detectionKey key) s s' := by
  have hmem : ∀ k, k ∈ s'.complianceCases ↔
      k ∈ s.complianceCases ∨ k = params.row s.complianceCases.next := by
    intro k
    rw [hcases]
    exact Table.mem_create
  -- no case that is there is the one that the new one stands for
  have hfresh : ∀ category subject id, ∀ k ∈ s.complianceCases,
      IsDetected category subject (params.row id) → ¬ IsDetected category subject k := by
    intro category subject id k hk hnew hold
    have hheld := hkey _ (((hholds id).holder category subject).mpr hnew)
    have hk' := ((hs.detected k hk).holder category subject).mpr hold
    rw [holdsKey, List.any_eq_false] at hheld
    exact hheld k (Table.mem_rows.mpr hk) (decide_eq_true hk')
  have hevolves : Table.Evolves ComplianceMoves (fun k => k.status = .open) s.complianceCases
      s'.complianceCases := by
    rw [hcases]
    refine Table.evolves_create (h := params.row_id) ComplianceMoves.refl ?_
    change params.status.getD .open = .open
    rw [hopen]
    rfl
  have hdetected : ∀ k ∈ s'.complianceCases, HoldsItsKey k := by
    intro k hk
    rcases (hmem k).mp hk with hk | rfl
    · exact hs.detected k hk
    · exact hholds _
  have hunique : ∀ category subject, ∀ k ∈ s'.complianceCases, ∀ k' ∈ s'.complianceCases,
      IsDetected category subject k → IsDetected category subject k' → k = k' := by
    intro category subject k hk k' hk' hd hd'
    rcases (hmem k).mp hk with hk | rfl <;> rcases (hmem k').mp hk' with hk' | rfl
    · exact hs.unique category subject k hk k' hk' hd hd'
    · exact absurd hd (hfresh category subject _ k hk hd')
    · exact absurd hd' (hfresh category subject _ k' hk' hd)
    · rfl
  obtain ⟨hsound, hfollows⟩ := sound_of_detected hs hactions hfraud hdetected hunique hevolves
  refine ⟨hsound, hfollows, fun l hl => ?_⟩
  cases l with
  | fraudCase id => exact fun k hk => (congrArg (·.find? id) hfraud).trans hk
  | complianceCase id =>
    intro k hk
    rw [hcases]
    exact Table.find?_create_of_find? hk
  | detectionKey key =>
    intro hunheld
    rw [holdsKey, List.any_eq_false] at hunheld ⊢
    intro k hk
    rcases (hmem k).mp (Table.mem_rows.mp hk) with hk | rfl
    · exact hunheld k (Table.mem_rows.mpr hk)
    · rw [decide_eq_true_eq]
      exact fun h => hl ⟨key, h, rfl⟩
  | community _ => trivial
  | cases _ => trivial

/-- A change of one compliance case, which may give its key back. -/
theorem modifyComplianceCase_commit {f : ComplianceCase → ComplianceCase}
    {h : ∀ k, (f k).id = k.id}
    (hcases : s'.complianceCases = s.complianceCases.modify caseId f h)
    (hproceeds : ∀ k, s.complianceCases.find? caseId = some k → Proceeds k (f k)) :
    Commits (fun l => l = .complianceCase caseId) s s' := by
  have hmem : ∀ k' ∈ s'.complianceCases, ∃ k ∈ s.complianceCases,
      (if k.id = caseId then f k else k) = k' := by
    intro k' hk'
    rw [hcases] at hk'
    exact Table.mem_modify.mp hk'
  have hfind : ∀ k ∈ s.complianceCases, k.id = caseId → s.complianceCases.find? caseId = some k :=
    fun k hk hid => hid ▸ Table.find?_of_mem hk
  have hdetected : ∀ k ∈ s'.complianceCases, HoldsItsKey k := by
    intro k' hk'
    obtain ⟨k, hk, rfl⟩ := hmem k' hk'
    split
    · next hid => exact (hproceeds k (hfind k hk hid)).holds (hs.detected k hk)
    · exact hs.detected k hk
  -- whatever a case is detected for after the change, it was detected for before
  have hbefore : ∀ category subject, ∀ k ∈ s.complianceCases,
      IsDetected category subject (if k.id = caseId then f k else k) →
        IsDetected category subject k := by
    intro category subject k hk h
    split at h
    · next hid => exact (hproceeds k (hfind k hk hid)).detected category subject h
    · exact h
  have hunique : ∀ category subject, ∀ k ∈ s'.complianceCases, ∀ k' ∈ s'.complianceCases,
      IsDetected category subject k → IsDetected category subject k' → k = k' := by
    intro category subject k₁' hk₁' k₂' hk₂' h₁ h₂
    obtain ⟨k₁, hk₁, rfl⟩ := hmem k₁' hk₁'
    obtain ⟨k₂, hk₂, rfl⟩ := hmem k₂' hk₂'
    rw [hs.unique category subject k₁ hk₁ k₂ hk₂ (hbefore _ _ k₁ hk₁ h₁) (hbefore _ _ k₂ hk₂ h₂)]
  have hevolves : Table.Evolves ComplianceMoves (fun k => k.status = .open) s.complianceCases
      s'.complianceCases := by
    rw [hcases]
    exact Table.evolves_modify (h := h) ComplianceMoves.refl fun k hk => (hproceeds k hk).moves
  obtain ⟨hsound, hfollows⟩ := sound_of_detected hs hactions hfraud hdetected hunique hevolves
  refine ⟨hsound, hfollows, fun l hl => ?_⟩
  cases l with
  | fraudCase id => exact fun k hk => (congrArg (·.find? id) hfraud).trans hk
  | complianceCase id =>
    intro k hk
    rw [hcases, Table.find?_modify_ne fun h => hl (congrArg Lock.complianceCase h)]
    exact hk
  | detectionKey key =>
    intro hunheld
    rw [holdsKey, List.any_eq_false] at hunheld ⊢
    intro k' hk'
    obtain ⟨k, hk, rfl⟩ := hmem k' (Table.mem_rows.mp hk')
    have hk' := hunheld k (Table.mem_rows.mpr hk)
    rw [decide_eq_true_eq] at hk' ⊢
    split
    · next hid => exact fun h => hk' ((hproceeds k (hfind k hk hid)).key key h)
    · exact hk'
  | community _ => trivial
  | cases _ => trivial

end ComplianceCases

/-- The fraud cases are left alone, and enforcement actions are issued for one of them only. -/
structure Issues (caseId : ℕ) (s s' : Community.Store) : Prop where
  fraudCases : s'.fraudCases = s.fraudCases
  actions : ∀ a ∈ s'.enforcementActions, a ∈ s.enforcementActions ∨ a.fraudCaseId = caseId

/-- A commit may issue nothing. -/
theorem Issues.refl (s : Community.Store) : Issues caseId s s := ⟨rfl, fun _ ha => Or.inl ha⟩

/-- Two commits that issue actions do no more. -/
theorem Issues.trans {s s' s'' : Community.Store} (h : Issues caseId s s')
    (h' : Issues caseId s' s'') : Issues caseId s s'' := by
  refine ⟨h'.fraudCases.trans h.fraudCases, fun a ha => ?_⟩
  rcases h'.actions a ha with ha | ha
  · exact h.actions a ha
  · exact Or.inr ha

/-- Actions that are issued for a confirmed case. -/
theorem issue_commit (hs : Sound s) (hconfirmed : DecidedAs .confirmed caseId s.fraudCases)
    (h : Issues caseId s.community s'.community) (hcompliance : s'.complianceCases = s.complianceCases) :
    Commits (fun _ => False) s s' := by
  have hfraud : s'.fraudCases = s.fraudCases := h.fraudCases
  refine ⟨⟨fun a ha => ?_, ?_, ?_, ?_⟩, ⟨?_, ?_⟩, fun l _ => ?_⟩
  · rw [hfraud]
    rcases h.actions a ha with ha | ha
    · exact hs.enforced a ha
    · rw [ha]
      exact hconfirmed
  · rw [hfraud]
    exact hs.reopened
  · rw [hcompliance]
    exact hs.detected
  · rw [hcompliance]
    exact hs.unique
  · rw [hfraud]
    exact .refl FraudMoves.refl _
  · rw [hcompliance]
    exact .refl ComplianceMoves.refl _
  · by_cases hl : ∃ id, l = .fraudCase id
    · obtain ⟨id, rfl⟩ := hl
      intro k hk
      rw [hfraud]
      exact hk
    · exact sameFor_of_complianceCases hcompliance fun id h => hl ⟨id, h⟩

end VielHome.Investigations
