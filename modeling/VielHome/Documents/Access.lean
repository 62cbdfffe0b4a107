import Mathlib.Data.List.Dedup
import VielHome.Documents.Confidential

/-!
# Who may read a document

The calls that tell what one document says share one rule (`Store.Accessible`): the person is a
member of the building, a document for the management only needs a privileged role, and every case
and payment that any version is attached to has to be visible to the person as well. Attaching a
version makes the rule stricter, and nothing makes it looser: whoever is refused a document stays
refused, in whatever order the calls take their steps (`access_of_calls`).
-/

namespace VielHome.Documents

open Relational Community
open DocumentRepository DocumentsService
open Relational.ReadCommitted (Event Prog)
open Relational.ReadCommitted.Prog (ReadOnly outcome_done outcome_expect outcome_query
  outcome_require)
open Cases.CasesService (hasPrivilegedRole)

variable {s s' : Store} {config : Config} {d : Document} {v : DocumentVersion}
  {personId : ℕ}

/-! ### The rule -/

namespace Store

/-- The person may see the case. -/
def CaseVisible (s : Store) (buildingId personId caseId : ℕ) : Prop :=
  ∃ c, s.buildingCases.find? caseId = some c ∧ c.buildingId = buildingId ∧
    (c.visibility = .publicCase ∨ c.createdById = personId ∨ c.assigneeId = some personId ∨
      hasPrivilegedRole (s.roles personId buildingId) = true)

/-- The person may see the receipt of the payment. -/
def PaymentVisible (s : Store) (buildingId personId paymentId : ℕ) : Prop :=
  ∃ p, s.payments.find? paymentId = some p ∧ p.buildingId = buildingId ∧
    (p.payerId = personId ∨ .manager ∈ s.roles personId buildingId ∨
      .accountant ∈ s.roles personId buildingId)

/-- The person may see a document, and all that its versions are attached to. -/
structure Accessible (s : Store) (d : Document) (personId : ℕ) : Prop where
  member : s.roles personId d.buildingId ≠ []
  visible : d.visibility = .managementOnly →
    hasPrivilegedRole (s.roles personId d.buildingId) = true
  cases : ∀ caseId ∈ s.caseReferenceTargets d.id, s.CaseVisible d.buildingId personId caseId
  payments : ∀ paymentId ∈ s.paymentReferenceTargets d.id,
    s.PaymentVisible d.buildingId personId paymentId

end Store

/-- `CasesService.getCase` returns the case, or an error. -/
theorem outcome_casesGetCase {c : Cases.Store} {buildingId caseId : ℕ} {found : Cases.Case} :
    (Cases.CasesService.getCase buildingId caseId personId).outcome c = .ok found ↔
      c.buildingCases.find? caseId = some found ∧ found.buildingId = buildingId ∧
        (found.visibility = .publicCase ∨ found.createdById = personId ∨
          found.assigneeId = some personId ∨
            hasPrivilegedRole (c.roles personId buildingId) = true) := by
  have hquery : ∀ {α : Type} (f : Option Cases.Case → Cases.Call α),
      (Prog.queryUnder (fun s : Cases.Store => Cases.reliedOn .buildingCase caseId
        (s.buildingCases.find? caseId) fun _ => false) (fun s => s.buildingCases.find? caseId) >>=
          f).outcome c = (f (c.buildingCases.find? caseId)).outcome c := fun _ => rfl
  rw [Cases.CasesService.getCase, Cases.CasesService.getCaseOrThrow, Prog.bind_assoc, hquery,
    Prog.bind_assoc, ReadOnly.outcome_bind (.expect _ _)]
  simp only [outcome_expect, Prog.bind_assoc]
  have hvisible : ∀ b : Cases.Case,
      ((pure b : Cases.Call Cases.Case) >>= fun b =>
        Cases.CasesService.isPrivileged personId buildingId >>= fun privileged =>
          Cases.CasePolicy.assertVisible b personId privileged >>= fun _ => pure b).outcome c =
        .ok found ↔ (b.visibility = .publicCase ∨ b.createdById = personId ∨
          b.assigneeId = some personId ∨
            hasPrivilegedRole (c.roles personId buildingId) = true) ∧ b = found := by
    intro b
    rw [Prog.pure_bind, Cases.CasesService.isPrivileged, ReadOnly.outcome_bind (.query _)]
    simp only [outcome_query, exists_eq_left']
    rw [Cases.CasePolicy.assertVisible, ReadOnly.outcome_seq (.require _ _), outcome_require,
      Prog.pure_eq, outcome_done]
  constructor
  · rintro ⟨b, hb, h⟩
    rw [ReadOnly.outcome_seq (.require _ _), outcome_require, hvisible] at h
    obtain ⟨hbuilding, hseen, rfl⟩ := h
    exact ⟨hb, hbuilding, hseen⟩
  · rintro ⟨hb, hbuilding, h⟩
    refine ⟨found, hb, ?_⟩
    rw [ReadOnly.outcome_seq (.require _ _), outcome_require, hvisible]
    exact ⟨hbuilding, h, rfl⟩

theorem outcome_getCase {buildingId caseId : ℕ} :
    (getCase buildingId caseId personId).outcome s = .ok ⟨⟩ ↔
      s.CaseVisible buildingId personId caseId := by
  have hread : (getCase buildingId caseId personId).outcome s = .ok ⟨⟩ ↔
      ∃ found, (Cases.CasesService.getCase buildingId caseId personId).outcome s.casesStore =
        .ok found := by
    rw [getCase, ReadOnly.outcome_bind (.query _)]
    simp only [outcome_query, exists_eq_left']
    cases (Cases.CasesService.getCase buildingId caseId personId).outcome s.casesStore with
    | ok found => exact iff_of_true rfl ⟨found, rfl⟩
    | error e =>
      refine iff_of_false (fun h => by cases h) ?_
      rintro ⟨found, h⟩
      cases h
  rw [hread]
  exact exists_congr fun found => outcome_casesGetCase

theorem outcome_getPaymentForViewer {buildingId paymentId : ℕ} :
    (FinanceService.getPaymentForViewer buildingId paymentId personId).outcome s = .ok ⟨⟩ ↔
      s.PaymentVisible buildingId personId paymentId := by
  have hreadOnly : (FinanceService.getOwnPayment buildingId paymentId).ReadOnly :=
    .bind (.query _) fun _ => .expect _ _
  have hpayment : ∀ p, (FinanceService.getOwnPayment buildingId paymentId).outcome s = .ok p ↔
      s.payments.find? paymentId = some p ∧ p.buildingId = buildingId := by
    intro p
    rw [FinanceService.getOwnPayment, ReadOnly.outcome_bind (.query _)]
    simp only [outcome_query, exists_eq_left', outcome_expect, Option.filter_eq_some_iff,
      decide_eq_true_eq]
  rw [FinanceService.getPaymentForViewer, hreadOnly.outcome_bind]
  refine exists_congr fun p => ?_
  rw [hpayment, and_assoc]
  refine and_congr_right fun _ => and_congr_right fun hbuilding => ?_
  subst hbuilding
  by_cases hpayer : p.payerId = personId
  · rw [if_pos hpayer]
    exact iff_of_true rfl (Or.inl hpayer)
  · rw [if_neg hpayer, ReadOnly.outcome_bind (.query _)]
    simp only [outcome_query, exists_eq_left', outcome_require, hpayer, false_or]

theorem outcome_assertMember {buildingId : ℕ} :
    (assertMember personId buildingId).outcome s = .ok ⟨⟩ ↔ s.roles personId buildingId ≠ [] := by
  rw [assertMember, ReadOnly.outcome_bind (.query _)]
  simp only [outcome_query, exists_eq_left', outcome_require]

theorem outcome_isPrivileged {buildingId : ℕ} {privileged : Bool} :
    (isPrivileged personId buildingId).outcome s = .ok privileged ↔
      hasPrivilegedRole (s.roles personId buildingId) = privileged :=
  outcome_query

theorem outcome_getDocumentOrThrow {documentId : ℕ} :
    (getDocumentOrThrow documentId).outcome s = .ok d ↔ s.documents.find? documentId = some d := by
  rw [getDocumentOrThrow, ReadOnly.outcome_bind (.query _)]
  simp only [outcome_query, exists_eq_left', outcome_expect]

theorem outcome_assertAccess :
    (assertAccess d.id d personId).outcome s = .ok ⟨⟩ ↔ s.Accessible d personId := by
  have hcases : (assertCaseReferenceAccess d.id d.buildingId personId).outcome s = .ok ⟨⟩ ↔
      ∀ caseId ∈ s.caseReferenceTargets d.id, s.CaseVisible d.buildingId personId caseId := by
    rw [assertCaseReferenceAccess, ReadOnly.outcome_bind (.query _)]
    simp only [outcome_query, exists_eq_left',
      ReadOnly.outcome_forEach fun _ => readOnly_getCase _ _ _, outcome_getCase]
  have hpayments : (assertPaymentReferenceAccess d.id d.buildingId personId).outcome s = .ok ⟨⟩ ↔
      ∀ paymentId ∈ s.paymentReferenceTargets d.id,
        s.PaymentVisible d.buildingId personId paymentId := by
    rw [assertPaymentReferenceAccess, ReadOnly.outcome_bind (.query _)]
    simp only [outcome_query, exists_eq_left',
      ReadOnly.outcome_forEach fun _ => readOnly_getPaymentForViewer _ _ _,
      outcome_getPaymentForViewer]
  have hvisible : ∀ privileged,
      (DocumentPolicy.assertVisible d.visibility privileged).outcome s = .ok ⟨⟩ ↔
        (d.visibility = .managementOnly → privileged = true) := by
    intro privileged
    rw [DocumentPolicy.assertVisible, outcome_require, not_and, Bool.not_eq_false]
  rw [assertAccess, (readOnly_assertMember _ _).outcome_seq, outcome_assertMember,
    (readOnly_isPrivileged _ _).outcome_bind]
  simp only [outcome_isPrivileged, exists_eq_left']
  have hassert : (DocumentPolicy.assertVisible d.visibility
      (hasPrivilegedRole (s.roles personId d.buildingId))).ReadOnly := .require _ _
  rw [hassert.outcome_seq, hvisible, ReadOnly.outcome_seq ?_, hcases, hpayments]
  · constructor
    · rintro ⟨hmember, hvisible, hcases, hpayments⟩
      exact ⟨hmember, hvisible, hcases, hpayments⟩
    · exact fun h => ⟨h.member, h.visible, h.cases, h.payments⟩
  · exact .bind (.query _) fun _ => .forEach fun _ => readOnly_getCase _ _ _

theorem outcome_getAccessible {documentId : ℕ} :
    (getAccessible documentId personId).outcome s = .ok d ↔
      s.documents.find? documentId = some d ∧ s.Accessible d personId := by
  rw [getAccessible_eq, (readOnly_getDocumentOrThrow _).outcome_bind]
  constructor
  · rintro ⟨found, hfound, h⟩
    rw [(readOnly_assertAccess _ _ _).outcome_seq, Prog.pure_eq, outcome_done] at h
    obtain ⟨haccess, rfl⟩ := h
    have hfound := outcome_getDocumentOrThrow.mp hfound
    obtain rfl : found.id = documentId := Table.key_of_find? hfound
    exact ⟨hfound, outcome_assertAccess.mp haccess⟩
  · rintro ⟨hfound, haccess⟩
    obtain rfl : d.id = documentId := Table.key_of_find? hfound
    refine ⟨d, outcome_getDocumentOrThrow.mpr hfound, ?_⟩
    rw [(readOnly_assertAccess _ _ _).outcome_seq, Prog.pure_eq, outcome_done]
    exact ⟨outcome_assertAccess.mpr haccess, rfl⟩

/-- The call returns something. -/
def Succeeds {α : Type} (p : Call α) (s : Store) : Prop := ∃ a, p.outcome s = .ok a

/-- A call that tells something of the document, and reads no more than that after its checks. -/
theorem succeeds_of_accessible {α : Type} {f : Document → Store → α}
    (hd : s.documents.find? d.id = some d) :
    Succeeds (getAccessible d.id personId >>= fun found => Prog.query (f found)) s ↔
      s.Accessible d personId := by
  constructor
  · rintro ⟨a, h⟩
    rw [(readOnly_getAccessible _ _).outcome_bind] at h
    obtain ⟨found, hfound, -⟩ := h
    obtain ⟨hfound, haccess⟩ := outcome_getAccessible.mp hfound
    rw [hd] at hfound
    cases hfound
    exact haccess
  · intro haccess
    refine ⟨f d s, ?_⟩
    rw [(readOnly_getAccessible _ _).outcome_bind]
    exact ⟨d, outcome_getAccessible.mpr ⟨hd, haccess⟩, rfl⟩

theorem succeeds_getDocument (hd : s.documents.find? d.id = some d) :
    Succeeds (getDocument d.id personId) s ↔ s.Accessible d personId :=
  succeeds_of_accessible (f := fun found s => (found, s.currentVersion d.id)) hd

theorem succeeds_listDocumentVersions (hd : s.documents.find? d.id = some d)
    (pagination : SkipTake) :
    Succeeds (DocumentsService.listDocumentVersions d.id personId pagination) s ↔
      s.Accessible d personId :=
  succeeds_of_accessible hd

theorem succeeds_downloadVersion (hd : s.documents.find? d.id = some d) (hv : v ∈ s.versions)
    (hid : v.documentId = d.id) :
    Succeeds (downloadVersion config v.id personId) s ↔ s.Accessible d personId := by
  have hfound : s.versionWithDocument v.id = some (v, d) := by
    rw [Store.versionWithDocument_eq, Table.find?_of_mem hv, Option.bind_some, hid, hd]
    rfl
  rw [Succeeds, downloadVersion_eq]
  constructor
  · rintro ⟨download, h⟩
    rw [ReadOnly.outcome_bind (.query _)] at h
    obtain ⟨found, hquery, h⟩ := h
    rw [outcome_query, hfound] at hquery
    subst hquery
    rw [ReadOnly.outcome_bind (.expect _ _)] at h
    obtain ⟨x, hx, h⟩ := h
    cases outcome_expect.mp hx
    exact outcome_assertAccess.mp ((readOnly_assertAccess _ _ _).outcome_seq.mp h).1
  · intro haccess
    refine ⟨download config v, (ReadOnly.outcome_bind (.query _)).mpr
      ⟨some (v, d), outcome_query.mpr hfound, ?_⟩⟩
    refine (ReadOnly.outcome_bind (.expect _ _)).mpr ⟨(v, d), outcome_expect.mpr rfl, ?_⟩
    exact (readOnly_assertAccess _ _ _).outcome_seq.mpr
      ⟨outcome_assertAccess.mpr haccess, outcome_done.mpr rfl⟩

/-! ### The rule only gets stricter -/

/-- A version stays one of its document. -/
theorem Grows.version (h : Grows s s') (hs : History s) {versionId : ℕ}
    (hv : s.versions.find? versionId = some v) :
    ∃ v', s'.versions.find? versionId = some v' ∧ v'.documentId = v.documentId := by
  have hmem := Table.mem_of_find? hv
  have hgrows := (h.versions v.documentId (hs.document v hmem)).1.subset
  obtain ⟨v', hv', heq⟩ := List.mem_map.mp (hgrows (List.mem_map.mpr
    ⟨v, Store.mem_versionsOf.mpr ⟨hmem, rfl⟩, rfl⟩))
  obtain ⟨hmem', hof⟩ := Store.mem_versionsOf.mp hv'
  have hwritten : v'.written.id = v.written.id := congrArg DocumentVersion.id heq
  have hkey : v'.id = v.id := hwritten
  refine ⟨v', ?_, hof⟩
  rw [← Table.key_of_find? hv, ← hkey]
  exact Table.find?_of_mem hmem'

theorem Grows.referenceTargets (h : Grows s s') (hs : History s)
    {entityType : DocumentReferenceEntityType} {documentId entityId : ℕ}
    (hentity : entityId ∈ s.referenceTargets entityType documentId) :
    entityId ∈ s'.referenceTargets entityType documentId := by
  simp only [Store.referenceTargets, Store.referencesOf, List.mem_dedup, List.mem_map,
    List.mem_filter, Table.mem_rows, Option.any_eq_true, decide_eq_true_eq] at hentity ⊢
  obtain ⟨r, ⟨⟨hr, v, hv, hid⟩, htype⟩, rfl⟩ := hentity
  obtain ⟨v', hv', hid'⟩ := h.version hs hv
  exact ⟨r, ⟨⟨h.references r hr, v', hv', hid'.trans hid⟩, htype⟩, rfl⟩

/-- What may be read later could be read before. -/
theorem Grows.accessible (h : Grows s s') (hs : History s) (haccess : s'.Accessible d personId) :
    s.Accessible d personId := by
  have hroles : s'.roles personId d.buildingId = s.roles personId d.buildingId :=
    congrArg (fun c => c.roles personId d.buildingId) h.casesStore
  have hcases : s'.buildingCases = s.buildingCases :=
    congrArg Cases.Store.buildingCases h.casesStore
  refine ⟨hroles ▸ haccess.member, fun hvisibility => hroles ▸ haccess.visible hvisibility,
    fun caseId hcaseId => ?_, fun paymentId hpaymentId => ?_⟩
  · have hvisible := haccess.cases caseId (h.referenceTargets hs hcaseId)
    rwa [Store.CaseVisible, hcases, hroles] at hvisible
  · have hvisible := haccess.payments paymentId (h.referenceTargets hs hpaymentId)
    rwa [Store.PaymentVisible, h.payments, hroles] at hvisible

/-- Archiving a document changes nothing of the rule. -/
theorem accessible_archived : s.Accessible (archived d) personId ↔ s.Accessible d personId :=
  ⟨fun h => ⟨h.1, h.2, h.3, h.4⟩, fun h => ⟨h.1, h.2, h.3, h.4⟩⟩

/-- To archive a document, a member needs no more than that its category is not a privileged one;
the answer is the row. -/
theorem outcome_archiveDocument {documentId : ℕ} {row : Document} :
    (DocumentsService.archiveDocument documentId personId).outcome s = .ok row ↔
      ∃ d, s.documents.find? documentId = some d ∧ s.roles personId d.buildingId ≠ [] ∧
        (d.category ∈ DocumentPolicy.PRIVILEGED_CATEGORIES →
          hasPrivilegedRole (s.roles personId d.buildingId) = true) ∧
        d.status ≠ .archived ∧ row = archived d := by
  have hwrite : ∀ d, s.documents.find? documentId = some d →
      ((DocumentRepository.archiveDocument documentId).outcome s = .ok row ↔ row = archived d) := by
    intro d hd
    have hrefused : (if (s.documents.find? documentId).isNone then some Failure.recordNotFound
        else none) = none := by
      rw [hd]
      rfl
    rw [DocumentRepository.archiveDocument, Prog.outcome, Prog.solo_transaction,
      Prog.solo_writeUnless_bind, hrefused]
    have hrow : ((s.onDocuments (·.modify documentId archived archived_id)).documents.find?
        documentId) = some (archived d) := Table.find?_modify_self (h := archived_id) hd
    simp only [Prog.query_bind, Prog.solo_stmt, hrow]
    exact ⟨fun h => (Except.ok.inj h).symm, fun h => by rw [h]; rfl⟩
  rw [DocumentsService.archiveDocument, (readOnly_getDocumentOrThrow _).outcome_bind]
  refine exists_congr fun d => ?_
  rw [outcome_getDocumentOrThrow, (readOnly_assertMember _ _).outcome_seq, outcome_assertMember,
    (readOnly_isPrivileged _ _).outcome_bind]
  simp only [outcome_isPrivileged, exists_eq_left']
  refine and_congr_right fun hd => and_congr_right fun _ => ?_
  have hcategory : (DocumentPolicy.assertCategoryManageable d.category
      (hasPrivilegedRole (s.roles personId d.buildingId))).ReadOnly := .require _ _
  have harchivable : (DocumentPolicy.assertArchivable d.status).ReadOnly := .require _ _
  rw [hcategory.outcome_seq, harchivable.outcome_seq, DocumentPolicy.assertCategoryManageable,
    outcome_require, DocumentPolicy.assertArchivable, outcome_require, hwrite d hd, not_and,
    Bool.not_eq_false]

/-- The three calls that tell what a document says agree on who may read it, and nobody may who
could not in `s`. Only to archive it does not ask for that. -/
structure AccessRule (config : Config) (s t : Store) (d : Document) (personId : ℕ) : Prop where
  getDocument : Succeeds (getDocument d.id personId) t ↔ t.Accessible d personId
  listDocumentVersions : ∀ pagination : SkipTake,
    Succeeds (DocumentsService.listDocumentVersions d.id personId pagination) t ↔
      t.Accessible d personId
  downloadVersion : ∀ v ∈ t.versionsOf d.id,
    Succeeds (downloadVersion config v.id personId) t ↔ t.Accessible d personId
  stricter : t.Accessible d personId → s.Accessible d personId
  archiveDocument : ∀ row, (DocumentsService.archiveDocument d.id personId).outcome t = .ok row ↔
    t.documents.find? d.id = some d ∧ d.status ≠ .archived ∧ row = archived d ∧
      t.roles personId d.buildingId ≠ [] ∧
        (d.category ∈ DocumentPolicy.PRIVILEGED_CATEGORIES →
          hasPrivilegedRole (t.roles personId d.buildingId) = true)

/-- This holds of every document in every state that calls lead to, in whatever order they take
their steps. -/
theorem access_of_calls {ι : Type} [DecidableEq ι] (hs : History s) (calls : ι → DocumentCall)
    (es : List (Event ι Failure)) (hd : d ∈ s.documents) (personId : ℕ) :
    AccessRule config s (runCalls s (fun i => (calls i).call config) es).store d personId := by
  have hgrows : Grows s (runCalls s (fun i => (calls i).call config) es).store :=
    (history_run hs (fun i => (calls i).safe_histories s) es).2
  generalize (runCalls s (fun i => (calls i).call config) es).store = t at hgrows ⊢
  obtain ⟨d', hfound, hsame⟩ := hgrows.documents d.id d (Table.find?_of_mem hd)
  have hkey : d'.id = d.id := Table.key_of_find? hfound
  have haccess : t.Accessible d' personId ↔ t.Accessible d personId := by
    rcases hsame with rfl | rfl
    · rfl
    · exact accessible_archived
  have hfound' : t.documents.find? d'.id = some d' := hkey ▸ hfound
  refine ⟨?_, fun pagination => ?_, fun v hv => ?_, hgrows.accessible hs, fun row => ?_⟩
  · rw [← haccess, ← hkey]
    exact succeeds_getDocument hfound'
  · rw [← haccess, ← hkey]
    exact succeeds_listDocumentVersions hfound' pagination
  · obtain ⟨hmem, hid⟩ := Store.mem_versionsOf.mp hv
    rw [← haccess]
    exact succeeds_downloadVersion hfound' hmem (hid.trans hkey.symm)
  · rw [outcome_archiveDocument]
    constructor
    · rintro ⟨d'', hd'', hmember, hcategory, hstatus, rfl⟩
      rw [hfound] at hd''
      cases hd''
      rcases hsame with rfl | rfl
      · exact ⟨hfound, hstatus, rfl, hmember, hcategory⟩
      · exact absurd rfl hstatus
    · rintro ⟨hunchanged, hstatus, rfl, hmember, hcategory⟩
      exact ⟨d, hunchanged, hmember, hcategory, hstatus, rfl⟩

/-- The building of `described`, of which person 2 is an owner, with a private case. -/
def withCase : Store :=
  { described with
    memberships := described.memberships.create fun id =>
      { id, personId := 2, buildingId := 0, role := .owner }
    buildingCases := Table.empty.create fun id => { id, buildingId := 0, createdById := 1 } }

theorem history_withCase : History withCase :=
  ⟨history_described.numbered, history_described.document⟩

/-- The manager attaches the document to the case. -/
def attached (_ : Unit) : DocumentCall :=
  .createReference 0 { entityType := .case, entityId := 0 } 1 2

/-- The owner could read the document, and cannot any more. -/
theorem access_of_calls_attached : ∃ d, withCase.documents.find? 0 = some d ∧
    withCase.Accessible d 2 ∧
    ¬ (runCalls withCase (fun i => (attached i).call noStorage)
      (List.replicate 8 (.step ()))).store.Accessible d 2 ∧
    AccessRule noStorage withCase (runCalls withCase (fun i => (attached i).call noStorage)
      (List.replicate 8 (.step ()))).store d 2 := by
  have hsome : (withCase.documents.find? 0).isSome = true := by decide +kernel
  obtain ⟨d, hfound⟩ := Option.isSome_iff_exists.mp hsome
  have hd : d ∈ withCase.documents := Table.mem_of_find? hfound
  rcases (Table.mem_create (h := fun _ => rfl)).mp hd with hnone | rfl
  · cases hnone
  refine ⟨_, hfound, ?_, fun haccess => ?_, access_of_calls history_withCase attached _ hd 2⟩
  · -- the document is attached to nothing yet
    have htargets : ∀ entityType, ∀ entityId ∈ withCase.referenceTargets entityType 0, False :=
      fun _ _ hentity => List.not_mem_nil hentity
    refine ⟨by decide +kernel, (fun hvisibility => by cases hvisibility),
      fun caseId hcaseId => ?_, fun paymentId hpaymentId => ?_⟩
    · exact (htargets .case caseId hcaseId).elim
    · exact (htargets .payment paymentId hpaymentId).elim
  · obtain ⟨c, hc, -, hvisible⟩ := haccess.cases 0 (by decide +kernel)
    have hc : (Table.empty.create fun id => { id, buildingId := 0, createdById := 1 } :
      Table Cases.Case Cases.Case.id).find? 0 = some c := hc
    cases hc
    exact absurd hvisible (by decide +kernel)

end VielHome.Documents
