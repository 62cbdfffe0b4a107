import VielHome.Investigations.Decided

/-!
# Investigations are decided once

Whatever calls work on fraud cases and compliance cases at a time, the invariant holds after every
event, every commit only moves cases the ways of an investigation, and a decided case keeps its
verdict to the end of the run (`decided_once`).
-/

namespace VielHome.Investigations

open Relational Community
open BackOfficeRepository (ComplianceCaseParams DecideComplianceCaseParams DecideFraudCaseParams
  FraudCaseParams detectedParams detectionKey holdsKey isExpected keyLock)
open Relational.ReadCommitted (Database Discipline Event Free Mode Prog not_free_of_exclusive)
open Relational.ReadCommitted.Prog.Safe (Clean)

variable {s s' : Store} {caseId : ℕ} {last : Store} {notes : List (Lock × Mode × Store)}

/-! ### The ways of a case -/

/-- A case that is open may be decided. -/
theorem transition_of_decided {status status' : FraudCaseStatus} (hopen : status ∈ OPEN_STATUSES)
    (hdecided : IsDecided status') : Transition status status' := by
  cases status <;> cases status' <;> trivial

/-- An open case that is assigned is under investigation, and has no other verdict. -/
theorem moves_underInvestigation {status : FraudCaseStatus} (hopen : status ∈ OPEN_STATUSES)
    (decidedById : Option ℕ) (reason : Option String) (decidedAt : Option Time) :
    Moves ⟨status, decidedById, reason, decidedAt⟩
      ⟨.underInvestigation, decidedById, reason, decidedAt⟩ := by
  cases status with
  | «open» => exact Or.inr trivial
  | underInvestigation => exact Or.inl rfl
  | confirmed => exact absurd hopen (by decide)
  | dismissed => exact absurd hopen (by decide)

/-- An open case is not decided. -/
theorem not_decided_of_open {status : FraudCaseStatus} (h : status ∈ OPEN_STATUSES) :
    ¬ IsDecided status := by
  cases status with
  | «open» => decide
  | underInvestigation => decide
  | confirmed => exact absurd h (by decide)
  | dismissed => exact absurd h (by decide)

/-- A decision decides. -/
theorem isDecided_status (decision : Decision) : IsDecided decision.status := by
  cases decision <;> decide

/-- A case that is given to somebody moves as it may. -/
theorem fraudMoves_investigated {k : FraudCase} (hopen : k.status ∈ OPEN_STATUSES)
    (assignedToId : ℕ) : FraudMoves k (BackOfficeRepository.investigated assignedToId k) :=
  ⟨moves_underInvestigation hopen _ _ _, rfl, rfl⟩

/-- So does one that is decided. -/
theorem fraudMoves_decided {k : FraudCase} {params : DecideFraudCaseParams}
    (hopen : k.status ∈ OPEN_STATUSES) (hdecided : IsDecided params.status) (now : Time) :
    FraudMoves k (params.decided now k) :=
  ⟨Or.inr (transition_of_decided hopen hdecided), rfl, rfl⟩

/-- A compliance case that is assigned holds its key as before. -/
theorem proceeds_assigned {k : ComplianceCase} (hopen : k.status ∈ OPEN_STATUSES)
    (assignedToId : ℕ) : Proceeds k (BackOfficeRepository.assigned assignedToId k) := by
  have hassigned : FraudCaseStatus.underInvestigation ∈ OPEN_STATUSES := by decide
  have hdetected : ∀ category subject,
      IsDetected category subject (BackOfficeRepository.assigned assignedToId k) ↔
        IsDetected category subject k := fun category subject =>
    ⟨fun h => ⟨h.1, not_decided_of_open hopen, h.2.2⟩, fun h => ⟨h.1, not_decided_of_open hassigned, h.2.2⟩⟩
  refine ⟨moves_underInvestigation hopen _ _ _, fun h => ⟨h.subject, ?_⟩,
    fun category subject => (hdetected category subject).mp, fun _ hkey => hkey⟩
  intro category subject
  exact (h.holder category subject).trans (hdetected category subject).symm

/-- A compliance case that is decided was detected for nothing any more, and holds no key. -/
theorem proceeds_decided {k : ComplianceCase} {params : DecideComplianceCaseParams}
    (hopen : k.status ∈ OPEN_STATUSES) (hdecided : IsDecided params.status) (now : Time) :
    Proceeds k (params.decided now k) := by
  have hnot : ∀ category subject, ¬ IsDetected category subject (params.decided now k) :=
    fun _ _ h => h.2.1 hdecided
  refine ⟨Or.inr (transition_of_decided hopen hdecided), fun h => ⟨h.subject, ?_⟩,
    fun category subject h => absurd h (hnot category subject), fun _ hkey => nomatch hkey⟩
  intro category subject
  exact iff_of_false (fun hkey => nomatch hkey) (hnot category subject)

/-! ### The statements of the calls -/

/-- What a commit has to keep, from the locks that it disturbs. -/
theorem Commits.conclude {disturbed : Lock → Prop} {P : Prop} (h : Commits disturbed s s')
    (hheld : ∀ l m, Free notes l m → ¬ disturbed l) (hrest : P) :
    Sound s' ∧ Follows s s' ∧ (∀ l m, Free notes l m → sameFor l s s') ∧ P :=
  ⟨h.sound, h.follows, fun l m hl => h.same l (hheld l m hl), hrest⟩

/-- A new case keeps the discipline. -/
theorem safe_createFraudCase {params : FraudCaseParams}
    (hlinks : Links last.fraudCases (params.isReopen.getD false) params.previousCaseId) :
    (BackOfficeRepository.createFraudCase params).Safe decisionDiscipline Clean last notes id := by
  rw [BackOfficeRepository.createFraudCase, Prog.transaction]
  refine Prog.Safe.writeUnless fun s₀ _ hlater₀ _ _ =>
    Prog.Safe.commitAll fun s hs hlater _ => ?_
  have hlinks' : Links s.fraudCases (params.isReopen.getD false) params.previousCaseId :=
    Discipline.Later.keeps (D := decisionDiscipline)
      (fun _ _ (h : Follows _ _) => links_of_evolves h.fraudCases)
      (Relation.ReflTransGen.trans hlater₀ hlater) hlinks
  exact Commits.conclude (createFraudCase_commit hs rfl rfl rfl hlinks') (fun _ _ _ h => h)
    ⟨rfl, rfl⟩

section FraudCases

variable {f : FraudCase → FraudCase} {hf : ∀ k, (f k).id = k.id}

/-- An `updateMany` of one fraud case that has to be in a status. -/
theorem safe_claimFraudCase {expectedStatus : FraudCaseStatus} {e : Failure}
    (hmoves : ∀ k, k.status = expectedStatus → FraudMoves k (f k)) :
    (Prog.transaction (Prog.claim (.fraudCase caseId)
      (BackOfficeRepository.hasStatus caseId expectedStatus) e
      (Store.onFraudCases (·.modify caseId f hf)))).Safe decisionDiscipline Clean last notes id := by
  rw [Prog.transaction]
  refine Prog.Safe.claim fun s₀ _ _ _ hmatched => Prog.Safe.commitAll fun s hs _ hknows => ?_
  obtain ⟨k, hk, hstatus⟩ := (Option.any_eq_true _ _).mp hmatched
  have hrow : (.fraudCase caseId, .exclusive, s₀) ∈
      notes ++ decisionDiscipline.taken [(.fraudCase caseId, .exclusive)] s₀ :=
    List.mem_append_right _ (Discipline.mem_taken List.mem_cons_self rfl)
  have hsame : s.fraudCases.find? caseId = some k := hknows _ hrow k hk
  refine Commits.conclude (modifyFraudCase_commit (h := hf) hs rfl rfl rfl fun k' hk' => ?_)
    (fun l m hl h => ?_) ⟨rfl, rfl⟩
  · obtain rfl : k = k' := Option.some.inj (hsame.symm.trans hk')
    exact hmoves k (of_decide_eq_true hstatus)
  · subst h
    exact not_free_of_exclusive hrow hl

end FraudCases

/-- So does new evidence. -/
theorem safe_addFraudCaseEvidence {evidenceNotes : String} {authorId : ℕ} :
    (BackOfficeRepository.addFraudCaseEvidence caseId evidenceNotes authorId).Safe
      decisionDiscipline Clean last notes id := by
  rw [BackOfficeRepository.addFraudCaseEvidence, Prog.transaction, Prog.bind_assoc]
  refine Prog.Safe.writeUnless fun s₀ _ _ _ _ => Prog.Safe.writeIf fun s₁ _ _ _ _ =>
    Prog.Safe.commitAll fun s hs _ _ => ?_
  have hrow := Discipline.mem_taken (D := decisionDiscipline) (s := s₁)
    (List.mem_singleton_self ((.fraudCase caseId : Lock), Mode.exclusive)) rfl
  refine Commits.conclude (modifyFraudCase_commit
    (h := BackOfficeRepository.withEvidence_id evidenceNotes) hs rfl rfl rfl
    fun k _ => ⟨.refl _, rfl, rfl⟩)
    (fun l m hl h => ?_) ⟨rfl, rfl⟩
  subst h
  exact not_free_of_exclusive (List.mem_append_right _ hrow) hl

/-- The insertion of a compliance case takes the entry of its key first. -/
theorem safe_createComplianceCase {params : ComplianceCaseParams} (hopen : params.status = none)
    (hholds : ∀ id, HoldsItsKey (params.row id)) :
    (BackOfficeRepository.createComplianceCase params).Safe decisionDiscipline Clean last notes
      id := by
  rw [BackOfficeRepository.createComplianceCase, Prog.transaction]
  refine Prog.Safe.writeUnless fun s₀ _ _ _ hnone => Prog.Safe.commitAll fun s hs _ hknows => ?_
  have hentry : ∀ key, params.activeDetectionKey = some key → (.detectionKey key, .exclusive, s₀) ∈
      notes ++ decisionDiscipline.taken (keyLock params.activeDetectionKey) s₀ := by
    intro key hkey
    refine List.mem_append_right _ (Discipline.mem_taken ?_ rfl)
    rw [keyLock, hkey]
    exact List.mem_singleton_self _
  have hunheld : ∀ key, params.activeDetectionKey = some key → holdsKey key s = false := by
    intro key hkey
    refine hknows _ (hentry key hkey) ?_
    rw [id_eq, BackOfficeRepository.refusesComplianceCase, hkey, Option.any_some] at hnone
    by_contra hheld
    rw [if_pos (Bool.of_not_eq_false hheld)] at hnone
    cases hnone
  have hcommit : Commits _ s (s.onComplianceCases (·.create params.row params.row_id)) :=
    createComplianceCase_commit hs (by rfl) (by rfl) rfl hopen hholds hunheld
  refine Commits.conclude hcommit (fun l m hl h => ?_) ⟨rfl, rfl⟩
  obtain ⟨key, hkey, rfl⟩ := h
  exact not_free_of_exclusive (hentry key hkey) hl

/-- An `updateMany` of one compliance case that has to be in a status. -/
theorem safe_claimComplianceCase {f : ComplianceCase → ComplianceCase} {hf : ∀ k, (f k).id = k.id}
    {expectedStatus : FraudCaseStatus} {expectedAssignedToId : Option ℕ} {e : Failure}
    (hproceeds : ∀ k, k.status = expectedStatus → Proceeds k (f k)) :
    (Prog.transaction (Prog.claim (.complianceCase caseId)
      (isExpected caseId expectedStatus expectedAssignedToId) e
      (Store.onComplianceCases (·.modify caseId f hf)))).Safe decisionDiscipline Clean last notes
        id := by
  rw [Prog.transaction]
  refine Prog.Safe.claim fun s₀ _ _ _ hmatched => Prog.Safe.commitAll fun s hs _ hknows => ?_
  obtain ⟨k, hk, hexpected⟩ := (Option.any_eq_true _ _).mp hmatched
  have hrow : (.complianceCase caseId, .exclusive, s₀) ∈
      notes ++ decisionDiscipline.taken [(.complianceCase caseId, .exclusive)] s₀ :=
    List.mem_append_right _ (Discipline.mem_taken List.mem_cons_self rfl)
  have hsame : s.complianceCases.find? caseId = some k := hknows _ hrow k hk
  have hcommit : Commits (· = .complianceCase caseId) s
      (s.onComplianceCases (·.modify caseId f hf)) := by
    refine modifyComplianceCase_commit (h := hf) hs (by rfl) (by rfl) rfl fun k' hk' => ?_
    obtain rfl : k = k' := Option.some.inj (hsame.symm.trans hk')
    exact hproceeds k (of_decide_eq_true hexpected).1
  refine Commits.conclude hcommit (fun l m hl h => ?_) ⟨rfl, rfl⟩
  subst h
  exact not_free_of_exclusive hrow hl

/-! ### The calls -/

/-- The look at the permissions writes nothing. -/
theorem noWrites_resolve (personId : ℕ) :
    (onCases (Cases.PermissionResolverService.resolve personId)).NoWrites := by
  refine Prog.NoWrites.lift ?_ (fun _ => rfl) _
  refine (Prog.NoWrites.query _).bind fun staff => ?_
  cases staff with
  | none => trivial
  | some staff => exact Prog.NoWrites.query _

section Calls

variable {β : Type} {post : β → Store → List (Lock × Mode × Store) → (Store → Store) → Prop}

/-- A call that goes on with a fraud case has seen it in the store. -/
theorem safe_getFraudCase {f : FraudCase → Call β}
    (h : ∀ s k, s.fraudCases.find? caseId = some k →
      (f k).Safe decisionDiscipline post s notes id) :
    (FraudCaseService.getCase caseId >>= f).Safe decisionDiscipline post last notes id := by
  rw [FraudCaseService.getCase, Prog.bind_assoc]
  exact Prog.Safe.query fun s _ _ _ => Prog.Safe.expect fun k hk => h s k hk

/-- What follows, with the case that was found. -/
theorem safe_getComplianceCase {f : ComplianceCase → Call β}
    (h : ∀ s k, s.complianceCases.find? caseId = some k →
      (f k).Safe decisionDiscipline post s notes id) :
    (ComplianceCaseService.getCase caseId >>= f).Safe decisionDiscipline post last notes id := by
  rw [ComplianceCaseService.getCase, Prog.bind_assoc]
  exact Prog.Safe.query fun s _ _ _ => Prog.Safe.expect fun k hk => h s k hk

/-- `assignCase` keeps the discipline. -/
theorem safe_assignCase (assigneeId : ℕ) :
    (FraudCaseService.assignCase caseId assigneeId).Safe decisionDiscipline Clean last [] id := by
  rw [FraudCaseService.assignCase]
  refine safe_getFraudCase fun s k _ => ?_
  rw [FraudCasePolicy.assertInvestigable]
  refine Prog.Safe.require fun hopen => ?_
  refine Prog.Safe.noWrites (noWrites_resolve assigneeId) fun granted _ _ _ _ => ?_
  refine Prog.Safe.require fun _ => safe_claimFraudCase fun k' hk' => ?_
  exact fraudMoves_investigated (hk' ▸ hopen) assigneeId

/-- So does `addEvidence`. -/
theorem safe_addEvidence (evidenceNotes : String) (actorPersonId : ℕ) :
    (FraudCaseService.addEvidence caseId evidenceNotes actorPersonId).Safe decisionDiscipline Clean
      last [] id := by
  rw [FraudCaseService.addEvidence]
  refine safe_getFraudCase fun s k _ => ?_
  exact Prog.Safe.require fun _ => safe_addFraudCaseEvidence

/-- So does `decideCase`. -/
theorem safe_decideCase (decision : Decision) (reviewerPersonId : ℕ) (reason : Option String)
    (now : Time) :
    (FraudCaseService.decideCase caseId decision reviewerPersonId reason now).Safe
      decisionDiscipline Clean last [] id := by
  rw [FraudCaseService.decideCase]
  refine safe_getFraudCase fun s k _ => Prog.Safe.require fun hopen => ?_
  exact safe_claimFraudCase fun k' hk' =>
    fraudMoves_decided (hk' ▸ hopen) (isDecided_status decision) now

/-- The case that is reopened stays decided until the new one links to it. -/
theorem safe_reopenCase (newEvidence : String) :
    (FraudCaseService.reopenCase caseId newEvidence).Safe decisionDiscipline Clean last [] id := by
  rw [FraudCaseService.reopenCase]
  refine safe_getFraudCase fun s k hk => Prog.Safe.require fun hdecided => ?_
  have hid : k.id = caseId := Table.key_of_find? hk
  exact safe_createFraudCase ⟨rfl, k, hid ▸ hk, hdecided⟩

/-- So does `assign`. -/
theorem safe_assign (assignedToId : ℕ) :
    (ComplianceCaseService.assign caseId assignedToId).Safe decisionDiscipline Clean last [] id := by
  rw [ComplianceCaseService.assign]
  refine safe_getComplianceCase fun s k _ => Prog.Safe.require fun hopen => ?_
  refine Prog.Safe.require fun _ => ?_
  have hno : (ComplianceCaseService.requireEligibleAssignee assignedToId).NoWrites := by
    refine (Prog.NoWrites.query _).bind fun staff => ?_
    refine (Prog.NoWrites.expect _ _).bind fun staff => ?_
    refine Prog.NoWrites.bind ?_ fun eligible => Prog.NoWrites.require _ _
    exact Prog.NoWrites.ite trivial ((noWrites_resolve assignedToId).bind fun granted => trivial)
  refine Prog.Safe.noWrites hno fun _ _ _ _ _ => safe_claimComplianceCase fun k' hk' => ?_
  exact proceeds_assigned (hk' ▸ hopen) assignedToId

/-- So does `decide`. -/
theorem safe_decide (decision : Decision) (deciderPersonId : ℕ) (reason : Option String)
    (now : Time) :
    (ComplianceCaseService.decide caseId decision deciderPersonId reason now).Safe
      decisionDiscipline Clean last [] id := by
  rw [ComplianceCaseService.decide]
  refine safe_getComplianceCase fun s k _ => Prog.Safe.require fun hopen => ?_
  rw [BackOfficeRepository.decideComplianceCase, Prog.transaction, Prog.bind_assoc]
  refine Prog.Safe.queryUnder fun _ _ _ _ => safe_claimComplianceCase fun k' hk' => ?_
  exact proceeds_decided (hk' ▸ hopen) (isDecided_status decision) now

/-- A case that staff opens was not detected, and takes no key. -/
theorem safe_open (params : ComplianceCaseService.OpenDto) (staffPersonId : ℕ) :
    (ComplianceCaseService.open params staffPersonId).Safe decisionDiscipline Clean last [] id := by
  refine safe_createComplianceCase rfl fun id => ⟨(nomatch ·), fun category subject => ?_⟩
  exact iff_of_false (fun h => nomatch h) fun h => nomatch h.1

/-- A detected case has the key of its detection. -/
theorem holdsItsKey_detectedParams (category : ComplianceCaseCategory) (subjectActorId : ℕ)
    (description : String) (id : ℕ) :
    HoldsItsKey ((detectedParams category subjectActorId description).row id) := by
  refine ⟨fun _ => (nomatch ·), fun category' subject => ⟨fun h => ?_, fun h => ?_⟩⟩
  · obtain ⟨rfl, rfl⟩ := detectionKey_inj.mp (Option.some.inj h)
    exact ⟨rfl, (by decide : ¬ IsDecided .open), rfl, rfl⟩
  · obtain ⟨-, -, hcategory, hsubject⟩ := h
    obtain rfl : category = category' := hcategory
    obtain rfl : subjectActorId = subject := Option.some.inj hsubject
    rfl

/-- A detection keeps the discipline. -/
theorem safe_autoOpen (category : ComplianceCaseCategory) (subjectActorId count : ℕ)
    (describedAs : String) :
    (ComplianceCaseService.autoOpen category subjectActorId count describedAs).Safe
      decisionDiscipline Clean last [] id := by
  refine Prog.Safe.tryCatch (safe_createComplianceCase rfl
    (holdsItsKey_detectedParams category subjectActorId _)) fun e last => ?_
  cases e with
  | uniqueConstraint => exact ⟨rfl, rfl⟩
  | app | foreignKey | recordNotFound | checkConstraint | invalidArgument => trivial

/-- So do all detections in a row. -/
theorem safe_detectAnomalies :
    ComplianceCaseService.detectAnomalies.Safe decisionDiscipline Clean last [] id := by
  have hgroups : ∀ category describedAs groups last,
      (ComplianceCaseService.openGroups category describedAs groups).Safe decisionDiscipline Clean
        last [] id := fun category describedAs groups last =>
    Prog.Safe.forEach (fun g _ _ => safe_autoOpen category g.1 g.2 describedAs) last
  rw [ComplianceCaseService.detectAnomalies]
  refine Prog.Safe.query fun s _ _ _ => (hgroups _ _ _ _).bind_clean fun _ _ => ?_
  refine Prog.Safe.query fun s _ _ _ => (hgroups _ _ _ _).bind_clean fun _ _ => ?_
  exact Prog.Safe.query fun s _ _ _ => hgroups _ _ _ _

end Calls

/-! ### Enforcement -/

section Enforce

variable {kase : FraudCase} {dto : Backoffice.FraudCaseService.EnforceDto}

open Backoffice.BackOfficeRepository (EnforcementEffect EnforcementParams)

/-- An update of another table than those of the fraud cases and the actions. -/
theorem leaves_writeIf {lock : Community.Lock} {ok : Community.Store → Bool} {e : Failure}
    {w : Community.Store → Community.Store} (hfraud : ∀ c, (w c).fraudCases = c.fraudCases)
    (hactions : ∀ c, (w c).enforcementActions = c.enforcementActions) :
    (Prog.writeIf [(lock, .exclusive)] ok e w : Community.Call PUnit).Leaves (Issues caseId)
      fun _ => false :=
  Prog.Leaves.writeIf (fun _ _ => rfl) fun c => ⟨hfraud c, fun _ ha => Or.inl (hactions c ▸ ha)⟩

/-- What an action does to its target leaves the fraud cases and the actions alone. -/
theorem leaves_applyEffect (now : Time) (effect : Option EnforcementEffect) :
    (Backoffice.BackOfficeRepository.applyEffect now effect).Leaves (Issues caseId)
      fun _ => false := by
  have hperson : ∀ {id f h}, (Building.updatePerson id f h).Leaves (Issues caseId)
      fun _ => false := leaves_writeIf (fun _ => rfl) fun _ => rfl
  have hbuilding : ∀ {id f h}, (Building.updateBuilding id f h).Leaves (Issues caseId)
      fun _ => false := leaves_writeIf (fun _ => rfl) fun _ => rfl
  have hmembership : ∀ {id f h}, (Building.updateMembership id f h).Leaves (Issues caseId)
      fun _ => false := leaves_writeIf (fun _ => rfl) fun _ => rfl
  match effect with
  | none => trivial
  | some (.suspendAccount personId) =>
    refine (Prog.Leaves.queryUnder Issues.refl fun _ _ _ => rfl).bind fun target => ?_
    refine (Prog.Leaves.expect _ _).bind fun target => hperson.bind fun _ => ?_
    trivial
  | some (.revokeBuilding buildingId) =>
    refine (Prog.Leaves.query Issues.refl _).bind fun target => ?_
    refine (Prog.Leaves.expect _ _).bind fun target => hbuilding.bind fun _ => ?_
    trivial
  | some (.revokeManagerClaim membershipId buildingId) =>
    refine (Prog.Leaves.query Issues.refl _).bind fun membership => ?_
    refine (Prog.Leaves.expect _ _).bind fun membership => ?_
    refine (Prog.Leaves.query Issues.refl _).bind fun building => ?_
    refine (Prog.Leaves.expect _ _).bind fun building => (Prog.Leaves.require _ _).bind fun _ => ?_
    refine hmembership.bind fun _ => hbuilding.bind fun _ => ?_
    trivial

/-- An action leaves the cases alone. -/
theorem leaves_createEnforcementActionWithEffect {params : EnforcementParams}
    (hcase : params.fraudCaseId = caseId) (now : Time) :
    (Backoffice.BackOfficeRepository.createEnforcementActionWithEffect params now).Leaves
      (Issues caseId) fun _ => false := by
  rw [Backoffice.BackOfficeRepository.createEnforcementActionWithEffect]
  refine (Prog.Leaves.query Issues.refl _).bind fun existing => ?_
  split
  · trivial
  · refine Prog.Leaves.tryCatch (Prog.Leaves.transaction ?_) fun e => ?_
    · refine (leaves_applyEffect now params.effect).bind fun previous => ?_
      refine Prog.Leaves.writeUnless (fun _ _ => rfl) fun c => ⟨rfl, fun a ha => ?_⟩
      rcases Table.mem_create.mp ha with ha | rfl
      · exact Or.inl ha
      · exact Or.inr hcase
    · cases e with
      | uniqueConstraint =>
        exact (Prog.Leaves.query Issues.refl _).bind fun action =>
          (Prog.Leaves.expect _ _).bind fun _ => trivial
      | app | foreignKey | recordNotFound | checkConstraint | invalidArgument => trivial

/-- So do its checks. -/
theorem leaves_assertTargetMatchesType :
    (Backoffice.FraudCaseService.assertTargetMatchesType dto kase).Leaves (Issues caseId)
      fun _ => false := by
  refine (Prog.Leaves.require _ _).bind fun _ => (Prog.Leaves.require _ _).bind fun _ => ?_
  unfold Backoffice.FraudCaseService.assertTarget
  split <;> exact (Prog.Leaves.require _ _).bind fun _ => Prog.Leaves.require _ _

/-- The relation on all tables. -/
def IssuesOnly (caseId : ℕ) (s s' : Store) : Prop :=
  Issues caseId s.community s'.community ∧ s'.complianceCases = s.complianceCases

/-- Two commits that issue actions do no more. -/
theorem IssuesOnly.trans {s s' s'' : Store} (h : IssuesOnly caseId s s')
    (h' : IssuesOnly caseId s' s'') : IssuesOnly caseId s s'' :=
  ⟨Issues.trans h.1 h'.1, h'.2.trans h.2⟩

/-- The case that an action is issued for stays confirmed after the look at it. -/
theorem safe_enforce (issuedById : ℕ) (requestId : String) (now : Time) :
    (FraudCaseService.enforce caseId dto issuedById requestId now).Safe decisionDiscipline
      (fun _ _ _ _ => True) last [] id := by
  rw [FraudCaseService.enforce, onCommunity, Backoffice.FraudCaseService.enforce,
    Backoffice.FraudCaseService.getCase, Prog.bind_assoc, Prog.lift_bind,
    Prog.lift_query fun _ => rfl]
  refine Prog.Safe.query fun s₀ _ _ _ => ?_
  rw [Prog.lift_bind, Prog.lift_expect]
  refine Prog.Safe.expect fun k hk => ?_
  rw [Prog.lift_bind, Prog.lift_require]
  refine Prog.Safe.require fun hconfirmed => ?_
  refine Prog.Safe.leaves (R := IssuesOnly caseId)
    (P := fun s => DecidedAs .confirmed caseId s.fraudCases) ?_ (fun s => ⟨.refl _, rfl⟩)
    IssuesOnly.trans (fun _ _ (h : Follows _ _) => confirmed_of_evolves h.fraudCases)
    (fun s s' hs hP h => ?_) ⟨k, hk, hconfirmed⟩ fun s => ⟨.refl _, rfl⟩
  · refine Prog.Leaves.lifted (?_ : Prog.Leaves (Issues caseId) (fun _ => false) _)
      (fun s c h => ⟨h, rfl⟩) fun _ _ => rfl
    refine leaves_assertTargetMatchesType.bind fun _ => ?_
    refine (Prog.Leaves.query Issues.refl _).bind fun staff => ?_
    refine (Prog.Leaves.expect _ _).bind fun staff => (Prog.Leaves.require _ _).bind fun _ => ?_
    exact leaves_createEnforcementActionWithEffect (by rfl) now
  · have hcommit := issue_commit hs hP h.1 h.2
    exact ⟨hcommit.sound, hcommit.follows, fun l _ => hcommit.same l fun h => h⟩

end Enforce

/-! ### Any interleaving -/

/-- The calls that work on the cases of an investigation. -/
inductive Investigation
  | report (targetPersonId targetBuildingId : Option ℕ) (description : String)
      (reporterPersonId : ℕ)
  | openCase (params : FraudCaseService.OpenCaseDto)
  | assignCase (caseId assigneeId : ℕ)
  | addEvidence (caseId : ℕ) (evidenceNotes : String) (actorPersonId : ℕ)
  | decideCase (caseId : ℕ) (decision : Decision) (reviewerPersonId : ℕ) (reason : Option String)
      (now : Time)
  | reopenCase (caseId : ℕ) (newEvidence : String)
  | enforce (caseId : ℕ) (dto : Backoffice.FraudCaseService.EnforceDto) (issuedById : ℕ)
      (requestId : String) (now : Time)
  | «open» (params : ComplianceCaseService.OpenDto) (staffPersonId : ℕ)
  | assign (caseId assignedToId : ℕ)
  | decide (caseId : ℕ) (decision : Decision) (deciderPersonId : ℕ) (reason : Option String)
      (now : Time)
  | detectAnomalies

/-- The method of the service that the call is made to. -/
def Investigation.call : Investigation → Call PUnit
  | .report targetPersonId targetBuildingId description reporterPersonId =>
    FraudCaseService.report targetPersonId targetBuildingId description reporterPersonId
  | .openCase params => FraudCaseService.openCase params
  | .assignCase caseId assigneeId => FraudCaseService.assignCase caseId assigneeId
  | .addEvidence caseId evidenceNotes actorPersonId =>
    FraudCaseService.addEvidence caseId evidenceNotes actorPersonId
  | .decideCase caseId decision reviewerPersonId reason now =>
    FraudCaseService.decideCase caseId decision reviewerPersonId reason now
  | .reopenCase caseId newEvidence => FraudCaseService.reopenCase caseId newEvidence
  | .enforce caseId dto issuedById requestId now =>
    FraudCaseService.enforce caseId dto issuedById requestId now
  | .open params staffPersonId => ComplianceCaseService.open params staffPersonId
  | .assign caseId assignedToId => ComplianceCaseService.assign caseId assignedToId
  | .decide caseId decision deciderPersonId reason now =>
    ComplianceCaseService.decide caseId decision deciderPersonId reason now
  | .detectAnomalies => ComplianceCaseService.detectAnomalies

/-- Every call keeps the discipline. -/
theorem Investigation.safe (c : Investigation) :
    c.call.Safe decisionDiscipline (fun _ _ _ _ => True) last [] id := by
  have hclean : ∀ {p : Call PUnit}, p.Safe decisionDiscipline Clean last [] id →
      p.Safe decisionDiscipline (fun _ _ _ _ => True) last [] id := fun h =>
    h.mono fun _ _ _ _ _ => trivial
  cases c with
  | report => exact hclean (Prog.Safe.require fun _ => safe_createFraudCase rfl)
  | openCase => exact hclean (Prog.Safe.require fun _ => safe_createFraudCase rfl)
  | assignCase caseId assigneeId => exact hclean (safe_assignCase assigneeId)
  | addEvidence caseId evidenceNotes actorPersonId =>
    exact hclean (safe_addEvidence evidenceNotes actorPersonId)
  | decideCase caseId decision reviewerPersonId reason now =>
    exact hclean (safe_decideCase decision reviewerPersonId reason now)
  | reopenCase caseId newEvidence => exact hclean (safe_reopenCase newEvidence)
  | enforce caseId dto issuedById requestId now => exact safe_enforce issuedById requestId now
  | «open» params staffPersonId => exact hclean (safe_open params staffPersonId)
  | assign caseId assignedToId => exact hclean (safe_assign assignedToId)
  | decide caseId decision deciderPersonId reason now =>
    exact hclean (safe_decide decision deciderPersonId reason now)
  | detectAnomalies => exact hclean safe_detectAnomalies

/-- The database enforces all that the calls rely on. -/
theorem enforced_of_ofCase (l : Lock) (h : l.ofCase = true) : l.enforced = true := by
  cases l with
  | fraudCase | complianceCase | detectionKey => rfl
  | community | cases => cases h

/-- What was decided stays so over any number of commits. -/
theorem KeepsDecided.of_later (h : decisionDiscipline.Later s s') : KeepsDecided s s' := by
  induction h with
  | refl => exact .refl _
  | tail _ hlast ih => exact ih.trans (Follows.keepsDecided hlast)

/-- Every event keeps the invariant and moves cases the ways of an investigation, and what was
decided at any time still has its verdict at the end. -/
theorem decided_once {ι : Type} [DecidableEq ι] (hs : Sound s) (calls : ι → Investigation)
    (es : List (Event ι Failure)) :
    EachStep (Database.next Lock.enforced) (fun d e => Sound (d.next Lock.enforced e).store ∧
        Follows d.store (d.next Lock.enforced e).store)
      (Database.start s fun i => (calls i).call) es ∧
    ∀ es', es' <+: es → KeepsDecided (runCalls s (fun i => (calls i).call) es').store
      (runCalls s (fun i => (calls i).call) es).store := by
  have hstart := Database.sound_start (D := decisionDiscipline) hs fun i => (calls i).safe
  have horderly := Database.eachStep_orderly_of_enforced enforced_of_ofCase
    (Database.start s fun i => (calls i).call) es
  constructor
  · refine (Database.eachStep_commits hstart horderly).mono fun d e h => ⟨h.1, ?_⟩
    rcases h.2 with hstore | hfollows
    · rw [hstore]
      exact .refl _
    · exact hfollows
  · rintro es' ⟨rest, rfl⟩
    obtain ⟨hbefore, hafter⟩ := eachStep_append.mp horderly
    have hsound := (Database.sound_run hstart hbefore).1
    rw [runCalls, runCalls, runFrom_append]
    exact KeepsDecided.of_later (Database.sound_run hsound hafter).2

/-- A person is the subject of three confirmed cases and an open one. -/
def suspected : Store :=
  { Store.empty with
    persons := (Table.empty.create fun id => { id, phone := "1" }).create fun id =>
      { id, phone := "2" }
    platformStaff := Table.empty.create fun id => { id, personId := 1, role := .platformAdmin }
    fraudCases := (((Table.empty.create fun id =>
      { id, status := .confirmed, source := .userReport, targetPersonId := some 0 }).create fun id =>
        { id, status := .confirmed, source := .userReport, targetPersonId := some 0 }).create
          fun id => { id, status := .confirmed, source := .userReport,
                      targetPersonId := some 0 }).create
            fun id => { id, source := .systemSignal, targetPersonId := some 0 } }

/-- The store of the runs is sound. -/
theorem sound_suspected : Sound suspected where
  enforced _ ha := absurd ha List.not_mem_nil
  reopened k hk := by
    have hnever : ∀ k ∈ suspected.fraudCases, k.isReopen = false ∧ k.previousCaseId = none := by
      decide
    rw [(hnever k hk).2]
    exact (hnever k hk).1
  detected _ hk := absurd hk List.not_mem_nil
  unique _ _ _ hk := absurd hk List.not_mem_nil

/-- Two sweeps, two decisions about the open case, and an action for a confirmed one. -/
def busy : Fin 5 → Investigation
  | 0 => .detectAnomalies
  | 1 => .detectAnomalies
  | 2 => .decideCase 3 .confirm 1 none 1
  | 3 => .decideCase 3 .dismiss 1 (some "No evidence.") 2
  | 4 => .enforce 0 { type := .warning, targetType := .person, targetPersonId := some 0 } 1 "r" 3

/-- All of them take their steps by turns. -/
def turns : List (Event (Fin 5) Failure) :=
  (List.replicate 12 ([0, 1, 2, 3, 4].map Event.step)).flatten

theorem decided_once_busy :
    EachStep (Database.next Lock.enforced) (fun d e => Sound (d.next Lock.enforced e).store ∧
        Follows d.store (d.next Lock.enforced e).store)
      (Database.start suspected fun i => (busy i).call) turns ∧
    ∀ es', es' <+: turns → KeepsDecided (runCalls suspected (fun i => (busy i).call) es').store
      (runCalls suspected (fun i => (busy i).call) turns).store :=
  decided_once sound_suspected busy turns

/-- One sweep opens the case, one decision is made, and the action is issued. -/
example :
    let s := (runCalls suspected (fun i => (busy i).call) turns).store
    (s.complianceCases.rows.map ComplianceCase.activeDetectionKey = [some "REPEATED_FRAUD:0"]) ∧
      (s.fraudCases.find? 3).map FraudCase.status = some .confirmed ∧
      s.enforcementActions.rows.map EnforcementAction.fraudCaseId = [0] := by
  decide +kernel

end VielHome.Investigations
