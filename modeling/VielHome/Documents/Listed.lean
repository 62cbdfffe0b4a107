import VielHome.Documents.Access

/-!
# Documents that are withheld, and listed

A person who may not see a case or a payment is refused the documents that are attached to it, one
by one. The lists do not ask for that: whoever is a member of the building, and privileged where
only the management may see the document, finds it there, title and all.
-/

namespace VielHome.Documents

open Relational Community
open DocumentRepository DocumentsService
open Relational.ReadCommitted (Event Prog)
open Relational.ReadCommitted.Prog (ReadOnly outcome_query)
open Cases.CasesService (hasPrivilegedRole)

variable {s : Store} {config : Config} {d : Document} {personId : ℕ}

/-- The document is refused to a member who might see it, for what it is attached to. -/
structure Withheld (s : Store) (d : Document) (personId : ℕ) : Prop where
  document : s.documents.find? d.id = some d
  member : s.roles personId d.buildingId ≠ []
  visible : d.visibility = .managementOnly →
    hasPrivilegedRole (s.roles personId d.buildingId) = true
  attached : (∃ caseId ∈ s.caseReferenceTargets d.id,
      ¬ s.CaseVisible d.buildingId personId caseId) ∨
    ∃ paymentId ∈ s.paymentReferenceTargets d.id, ¬ s.PaymentVisible d.buildingId personId paymentId

/-- No call tells the person anything of the document, or attaches it to anything. -/
structure Undisclosed (config : Config) (s : Store) (d : Document) (personId : ℕ) : Prop where
  listDocuments : ∀ filter pagination page,
    (listDocuments d.buildingId personId filter pagination).outcome s = .ok page → d ∉ page.items
  searchDocuments : ∀ params pagination page,
    (searchDocuments d.buildingId personId params pagination).outcome s = .ok page →
      d ∉ page.items
  listDocumentVersions : ∀ pagination,
    ¬ Succeeds (DocumentsService.listDocumentVersions d.id personId pagination) s
  downloadVersion : ∀ v ∈ s.versionsOf d.id, ¬ Succeeds (downloadVersion config v.id personId) s
  listReferencesForEntity : ∀ entityType entityId refs,
    (listReferencesForEntity d.buildingId entityType entityId personId).outcome s = .ok refs →
      ∀ r ∈ refs, r.document ≠ d
  createReference : ∀ dto now, (DocumentsService.createReference d.id dto personId now).outcome s ≠ .ok ⟨⟩

theorem Withheld.not_accessible (h : Withheld s d personId) : ¬ s.Accessible d personId := by
  intro haccess
  rcases h.attached with ⟨caseId, hcase, hhidden⟩ | ⟨paymentId, hpayment, hhidden⟩
  · exact hhidden (haccess.cases caseId hcase)
  · exact hhidden (haccess.payments paymentId hpayment)

/-- The calls about the one document are refused. -/
theorem Withheld.refused (h : Withheld s d personId) :
    ¬ Succeeds (getDocument d.id personId) s ∧
      (∀ pagination, ¬ Succeeds (DocumentsService.listDocumentVersions d.id personId pagination) s) ∧
      ∀ v ∈ s.versionsOf d.id, ¬ Succeeds (downloadVersion config v.id personId) s := by
  refine ⟨fun hget => ?_, fun pagination hlist => ?_, fun v hv hdownload => ?_⟩
  · exact h.not_accessible ((succeeds_getDocument h.document).mp hget)
  · exact h.not_accessible ((succeeds_listDocumentVersions h.document pagination).mp hlist)
  · obtain ⟨hmem, hid⟩ := Store.mem_versionsOf.mp hv
    exact h.not_accessible ((succeeds_downloadVersion h.document hmem hid).mp hdownload)

/-- Every row is on a page of one row. -/
theorem exists_page {matching : List Document} (h : d ∈ matching) :
    ∃ skip, d ∈ (Page.of matching { skip, take := 1 }).items := by
  obtain ⟨k, hk, rfl⟩ := List.mem_iff_getElem.mp h
  refine ⟨k, ?_⟩
  have hdrop : matching.drop k = matching[k] :: matching.drop (k + 1) :=
    List.drop_eq_getElem_cons hk
  change _ ∈ (matching.drop k).take 1
  rw [hdrop, List.take_succ_cons]
  exact List.mem_cons_self

theorem visibilityCondition_of_visible {privileged : Bool}
    (h : d.visibility = .managementOnly → privileged = true) :
    visibilityCondition privileged none d = true := by
  refine decide_eq_true ⟨fun _ hvisibility => (by cases hvisibility), ?_⟩
  by_cases hmanagement : d.visibility = .managementOnly
  · exact Or.inl (h hmanagement)
  · exact Or.inr hmanagement

/-- A list shows every document that its visibility lets the person see. -/
theorem Withheld.listed (h : Withheld s d personId) : ∃ skip page,
    (listDocuments d.buildingId personId {} { skip, take := 1 }).outcome s = .ok page ∧
      d ∈ page.items := by
  have hmatches : d ∈ (s.documents.rows.filter fun d' => d'.buildingId = d.buildingId ∧
      (∀ category ∈ (none : Option DocumentCategory), d'.category = category) ∧
      (∀ status ∈ (none : Option DocumentStatus), d'.status = status) ∧
      visibilityCondition (hasPrivilegedRole (s.roles personId d.buildingId)) none d').insertionSort
        newestFirst := by
    rw [List.mem_insertionSort, List.mem_filter]
    refine ⟨Table.mem_of_find? h.document, decide_eq_true ⟨rfl, ?_, ?_, ?_⟩⟩
    · exact fun _ hcategory => by cases hcategory
    · exact fun _ hstatus => by cases hstatus
    · exact visibilityCondition_of_visible h.visible
  obtain ⟨skip, hpage⟩ := exists_page hmatches
  refine ⟨skip, _, ?_, hpage⟩
  rw [DocumentsService.listDocuments, (readOnly_assertMember _ _).outcome_seq,
    (readOnly_isPrivileged _ _).outcome_bind]
  exact ⟨outcome_assertMember.mpr h.member, _, outcome_isPrivileged.mpr rfl, outcome_query.mpr rfl⟩

/-- The documents that are withheld from somebody are disclosed to the same person, so nothing stays
undisclosed but what nobody is refused for an attachment. -/
theorem undisclosed_iff_not_withheld (config : Config) (s : Store) (d : Document) (personId : ℕ) :
    (Withheld s d personId → Undisclosed config s d personId) ↔ ¬ Withheld s d personId := by
  constructor
  · intro hundisclosed hwithheld
    obtain ⟨skip, page, hpage, hlisted⟩ := hwithheld.listed
    exact (hundisclosed hwithheld).listDocuments _ _ page hpage hlisted
  · exact fun hnot hwithheld => absurd hwithheld hnot

/-- The store of `withCase`, once the document is attached to the case. -/
def withAttachment : Store :=
  (runCalls withCase (fun i => (attached i).call noStorage) (List.replicate 8 (.step ()))).store

/-- The document of `described`. -/
def planDocument : Document where
  id := 0
  buildingId := 0
  category := .general
  title := "Plan"
  createdById := 1
  createdAt := 1

theorem withheld_planDocument : Withheld withAttachment planDocument 2 := by
  have hcase : withAttachment.buildingCases.find? 0 =
      some { id := 0, buildingId := 0, createdById := 1 } := rfl
  refine ⟨by decide +kernel, by decide +kernel, fun hvisibility => (by cases hvisibility),
    Or.inl ⟨0, by decide +kernel, ?_⟩⟩
  rintro ⟨c, hc, -, hvisible⟩
  rw [hcase] at hc
  cases hc
  exact absurd hvisible (by decide +kernel)

/-- The owner may not see the case, and is refused the document. The list shows it to the owner,
who may also attach it to something else. -/
theorem planDocument_listed :
    ¬ (Withheld withAttachment planDocument 2 → Undisclosed noStorage withAttachment planDocument 2) ∧
    (DocumentsService.listDocuments 0 2 {} { skip := 0, take := 1 }).outcome withAttachment =
      .ok { items := [planDocument], total := 1 } ∧
    (DocumentsService.createReference 0 { entityType := .unit, entityId := 0 } 2 3).outcome
      withAttachment = .ok ⟨⟩ := by
  refine ⟨fun h => ?_, by decide +kernel, by decide +kernel⟩
  have hundisclosed := h withheld_planDocument
  exact hundisclosed.createReference { entityType := .unit, entityId := 0 } 3 (by decide +kernel)

end VielHome.Documents
