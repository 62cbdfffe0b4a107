import VielHome.Documents.VersionHistory
import VielHome.Relational.Noninterference

/-!
# Documents for the management only

A member without a privileged role may not see a document whose visibility is `MANAGEMENT_ONLY`.
`Store.shown` blanks what such documents, their versions and their references say, and keeps only
that they are there; every call that reads documents answers such a member the same on any two
stores that show the same, whatever else happens meanwhile (`answer_of_shown`).
-/

namespace VielHome.Documents

open Relational Community
open DocumentRepository DocumentsService
open Finance (Payment)
open Relational.ReadCommitted (Database Event Prog Session)
open Relational.ReadCommitted.Prog (Alike ReadOnly)
open Cases.CasesService (hasPrivilegedRole)

variable {hidden : ℕ → Bool} {s s' : Store} {buildingId personId documentId : ℕ}
  {config : Config}

/-! ### What a store shows -/

/-- A hidden document shows that it is there, and who may see it. -/
def Document.shown (hidden : ℕ → Bool) (d : Document) : Document :=
  if hidden d.id then
    { id := d.id, buildingId := d.buildingId, category := .general, title := "",
      visibility := d.visibility, createdById := 0, createdAt := 0 }
  else d

/-- A version of a hidden document shows which document it is of. -/
def DocumentVersion.shown (hidden : ℕ → Bool) (v : DocumentVersion) : DocumentVersion :=
  if hidden v.documentId then
    { id := v.id, documentId := v.documentId, versionNumber := 0, fileUrl := "", fileName := "",
      fileType := "", fileSize := 0, uploadedById := 0, uploadedAt := 0 }
  else v

/-- What the calls that read documents may depend on. -/
structure Shown where
  casesStore : Cases.Store
  payments : Table Payment Payment.id
  documents : List Document
  versions : List DocumentVersion
  references : List DocumentReference

namespace Store

/-- The reference is on a version of a hidden document. -/
def onHidden (hidden : ℕ → Bool) (s : Store) (r : DocumentReference) : Bool :=
  (s.versions.find? r.documentVersionId).any fun v => hidden v.documentId

/-- What is left of the store when the hidden documents are blanked. -/
def shown (hidden : ℕ → Bool) (s : Store) : Shown where
  casesStore := s.casesStore
  payments := s.payments
  documents := s.documents.rows.map (Document.shown hidden)
  versions := s.versions.rows.map (DocumentVersion.shown hidden)
  references := s.references.rows.filter fun r => !s.onHidden hidden r

end Store

/-- Two stores that show a person the same. All that they hide are documents for the management of
one building, where the person has no privileged role. -/
structure ShowsSame (hidden : ℕ → Bool) (buildingId personId : ℕ) (s s' : Store) : Prop where
  shown : s.shown hidden = s'.shown hidden
  restricted : ∀ d ∈ s.documents, hidden d.id = true →
    d.buildingId = buildingId ∧ d.visibility = .managementOnly
  unprivileged : hasPrivilegedRole (s.roles personId buildingId) = false

/-- A blanked document keeps its id. -/
@[simp] theorem Document.shown_id (d : Document) : (d.shown hidden).id = d.id := by
  rw [shown]
  split <;> rfl

/-- It keeps its building. -/
@[simp] theorem Document.shown_buildingId (d : Document) :
    (d.shown hidden).buildingId = d.buildingId := by
  rw [shown]
  split <;> rfl

/-- It keeps its visibility. -/
@[simp] theorem Document.shown_visibility (d : Document) :
    (d.shown hidden).visibility = d.visibility := by
  rw [shown]
  split <;> rfl

/-- Any other document is shown as it is. -/
theorem Document.shown_of_not_hidden {d : Document} (h : hidden d.id = false) :
    d.shown hidden = d := by
  rw [shown, h]
  rfl

/-- A blanked version keeps its id. -/
@[simp] theorem DocumentVersion.shown_id (v : DocumentVersion) : (v.shown hidden).id = v.id := by
  rw [shown]
  split <;> rfl

/-- It keeps its document. -/
@[simp] theorem DocumentVersion.shown_documentId (v : DocumentVersion) :
    (v.shown hidden).documentId = v.documentId := by
  rw [shown]
  split <;> rfl

/-- Any other version is shown as it is. -/
theorem DocumentVersion.shown_of_not_hidden {v : DocumentVersion}
    (h : hidden v.documentId = false) : v.shown hidden = v := by
  rw [shown, h]
  rfl

/-- Selecting from rewritten rows, when none that is rewritten is selected. -/
private theorem filter_map_of_forall {α : Type} {l : List α} {f : α → α} {p : α → Bool}
    (h : ∀ a ∈ l, f a = a ∨ p a = false ∧ p (f a) = false) : (l.map f).filter p = l.filter p := by
  induction l with
  | nil => rfl
  | cons a l ih =>
    have ih := ih fun b hb => h b (List.mem_cons_of_mem a hb)
    rw [List.map_cons, List.filter_cons, List.filter_cons, ih]
    rcases h a List.mem_cons_self with heq | ⟨hfalse, hfalse'⟩
    · rw [heq]
    · rw [hfalse, hfalse']
      rfl

/-- The version is looked up before its document. -/
theorem Store.versionWithDocument_eq (versionId : ℕ) : s.versionWithDocument versionId =
    (s.versions.find? versionId).bind fun v => (s.documents.find? v.documentId).map (v, ·) := by
  rw [versionWithDocument]
  refine congrArg (Option.bind _) (funext fun v => ?_)
  cases s.documents.find? v.documentId <;> rfl

namespace ShowsSame

variable (h : ShowsSame hidden buildingId personId s s')

include h

/-- The cases are the same. -/
theorem casesStore : s.casesStore = s'.casesStore := congrArg Shown.casesStore h.shown

/-- The payments are the same. -/
theorem payments : s.payments = s'.payments := congrArg Shown.payments h.shown

/-- The documents are the same but for what is blanked. -/
theorem documents :
    s.documents.rows.map (Document.shown hidden) = s'.documents.rows.map (Document.shown hidden) :=
  congrArg Shown.documents h.shown

/-- The versions are the same but for what is blanked. -/
theorem versions : s.versions.rows.map (DocumentVersion.shown hidden) =
    s'.versions.rows.map (DocumentVersion.shown hidden) :=
  congrArg Shown.versions h.shown

/-- The references are the same but for those of hidden documents. -/
theorem references : s.references.rows.filter (fun r => !s.onHidden hidden r) =
    s'.references.rows.filter fun r => !s'.onHidden hidden r :=
  congrArg Shown.references h.shown

/-- Every read of the rows of the cases and of the people. -/
theorem eq_of_casesStore {β : Type} (q : Cases.Store → β) : q s.casesStore = q s'.casesStore :=
  congrArg q h.casesStore

/-- What is hidden in the one store is restricted in the other one too. -/
theorem restricted' : ∀ d ∈ s'.documents, hidden d.id = true →
    d.buildingId = buildingId ∧ d.visibility = .managementOnly := by
  intro d hd hhidden
  have hmem : d.shown hidden ∈ s.documents.rows.map (Document.shown hidden) :=
    h.documents ▸ List.mem_map_of_mem hd
  obtain ⟨d₀, hd₀, heq⟩ := List.mem_map.mp hmem
  have hid : d₀.id = d.id := by simpa using congrArg Document.id heq
  obtain ⟨hbuilding, hvisibility⟩ := h.restricted d₀ hd₀ (hid ▸ hhidden)
  have hbuilding' : d₀.buildingId = d.buildingId := by simpa using congrArg Document.buildingId heq
  have hvisibility' : d₀.visibility = d.visibility := by
    simpa using congrArg Document.visibility heq
  exact ⟨hbuilding' ▸ hbuilding, hvisibility' ▸ hvisibility⟩

/-- Neither store is preferred. -/
theorem symm : ShowsSame hidden buildingId personId s' s where
  shown := h.shown.symm
  restricted := h.restricted'
  unprivileged := by
    have hroles : s.roles personId buildingId = s'.roles personId buildingId :=
      h.eq_of_casesStore fun c => c.roles personId buildingId
    rw [← hroles]
    exact h.unprivileged

/-- A document is the same in both stores, or hidden in both. -/
theorem document_cases (documentId : ℕ) :
    (s.documents.find? documentId = s'.documents.find? documentId ∧
      ∀ d, s.documents.find? documentId = some d → hidden d.id = false) ∨
    ∃ d d', s.documents.find? documentId = some d ∧ s'.documents.find? documentId = some d' ∧
      (d.buildingId = buildingId ∧ d.visibility = .managementOnly) ∧
        d'.buildingId = buildingId ∧ d'.visibility = .managementOnly := by
  have hfind : ∀ s : Store, (s.documents.find? documentId).map (Document.shown hidden) =
      (s.documents.rows.map (Document.shown hidden)).find? fun d => d.id = documentId := by
    intro s
    rw [List.find?_map, Table.find?]
    simp only [Function.comp_def, Document.shown_id]
  have hmap := (hfind s).trans ((congrArg _ h.documents).trans (hfind s').symm)
  cases hd : s.documents.find? documentId with
  | none =>
    rw [hd, Option.map_none, eq_comm, Option.map_eq_none_iff] at hmap
    exact Or.inl ⟨hmap.symm, fun _ hfound => by cases hfound⟩
  | some d =>
    rw [hd, Option.map_some, eq_comm, Option.map_eq_some_iff] at hmap
    obtain ⟨d', hd', heq⟩ := hmap
    obtain rfl : d.id = documentId := Table.key_of_find? hd
    have hid : d'.id = d.id := Table.key_of_find? hd'
    cases hhidden : hidden d.id with
    | false =>
      rw [Document.shown_of_not_hidden (hid ▸ hhidden), Document.shown_of_not_hidden hhidden] at heq
      refine Or.inl ⟨by rw [hd', heq], fun d₀ hd₀ => ?_⟩
      cases hd₀
      exact hhidden
    | true =>
      exact Or.inr ⟨d, d', rfl, hd', h.restricted d (Table.mem_of_find? hd) hhidden,
        h.restricted' d' (Table.mem_of_find? hd') (hid ▸ hhidden)⟩

/-- A version is the same in both stores, or one of the same hidden document. -/
theorem version_cases (versionId : ℕ) :
    (s.versions.find? versionId = s'.versions.find? versionId ∧
      ∀ v, s.versions.find? versionId = some v → hidden v.documentId = false) ∨
    ∃ v v', s.versions.find? versionId = some v ∧ s'.versions.find? versionId = some v' ∧
      v.documentId = v'.documentId ∧ hidden v.documentId = true := by
  have hfind : ∀ s : Store, (s.versions.find? versionId).map (DocumentVersion.shown hidden) =
      (s.versions.rows.map (DocumentVersion.shown hidden)).find? fun v => v.id = versionId := by
    intro s
    rw [List.find?_map, Table.find?]
    simp only [Function.comp_def, DocumentVersion.shown_id]
  have hmap := (hfind s).trans ((congrArg _ h.versions).trans (hfind s').symm)
  cases hv : s.versions.find? versionId with
  | none =>
    rw [hv, Option.map_none, eq_comm, Option.map_eq_none_iff] at hmap
    exact Or.inl ⟨hmap.symm, fun _ hfound => by cases hfound⟩
  | some v =>
    rw [hv, Option.map_some, eq_comm, Option.map_eq_some_iff] at hmap
    obtain ⟨v', hv', heq⟩ := hmap
    have hid : v'.documentId = v.documentId := by
      simpa using congrArg DocumentVersion.documentId heq
    cases hhidden : hidden v.documentId with
    | false =>
      rw [DocumentVersion.shown_of_not_hidden (hid ▸ hhidden),
        DocumentVersion.shown_of_not_hidden hhidden] at heq
      refine Or.inl ⟨by rw [hv', heq], fun v₀ hv₀ => ?_⟩
      cases hv₀
      exact hhidden
    | true => exact Or.inr ⟨v, v', rfl, hv', hid.symm, hhidden⟩

/-- A version and its document are found in both stores alike, or belong to what is hidden. -/
theorem versionWithDocument_cases (versionId : ℕ) :
    (s.versionWithDocument versionId = s'.versionWithDocument versionId ∧
      ∀ v d, s.versionWithDocument versionId = some (v, d) → hidden d.id = false) ∨
    ∃ v d v' d', s.versionWithDocument versionId = some (v, d) ∧
      s'.versionWithDocument versionId = some (v', d') ∧
      (d.buildingId = buildingId ∧ d.visibility = .managementOnly) ∧
        d'.buildingId = buildingId ∧ d'.visibility = .managementOnly := by
  simp only [Store.versionWithDocument_eq]
  rcases h.version_cases versionId with ⟨heq, hnot⟩ | ⟨v, v', hv, hv', hid, hhidden⟩
  · rw [← heq]
    cases hv : s.versions.find? versionId with
    | none => exact Or.inl ⟨rfl, fun _ _ hfound => by cases hfound⟩
    | some v =>
      rcases h.document_cases v.documentId with ⟨heqd, hnotd⟩ | ⟨d, d', hd, hd', hrestricted⟩
      · refine Or.inl ⟨?_, fun v₀ d₀ hfound => ?_⟩
        · rw [Option.bind_some, Option.bind_some, heqd]
        · rw [Option.bind_some, Option.map_eq_some_iff] at hfound
          obtain ⟨d, hd, heq⟩ := hfound
          cases heq
          exact hnotd d₀ hd
      · exact Or.inr ⟨v, d, v, d', by rw [Option.bind_some, hd]; rfl,
          by rw [Option.bind_some, hd']; rfl, hrestricted⟩
  · rw [hv, hv', Option.bind_some, Option.bind_some, ← hid]
    rcases h.document_cases v.documentId with ⟨heqd, hnotd⟩ | ⟨d, d', hd, hd', hrestricted⟩
    · -- a hidden document that is not there
      have hnone : s.documents.find? v.documentId = none := by
        refine Option.eq_none_iff_forall_not_mem.mpr fun d hd => ?_
        have hd := Option.mem_def.mp hd
        have hfalse := hnotd d hd
        rw [Table.key_of_find? hd, hhidden] at hfalse
        cases hfalse
      rw [← heqd, hnone]
      exact Or.inl ⟨rfl, fun _ _ hfound => by cases hfound⟩
    · exact Or.inr ⟨v, d, v', d', by rw [hd]; rfl, by rw [hd']; rfl, hrestricted⟩

/-- A document that is not hidden has the same versions. -/
theorem versionsOf_eq (hid : hidden documentId = false) :
    s.versionsOf documentId = s'.versionsOf documentId := by
  have hfilter : ∀ s : Store, s.versionsOf documentId =
      (s.versions.rows.map (DocumentVersion.shown hidden)).filter
        fun v => v.documentId = documentId := by
    intro s
    rw [List.filter_map, Store.versionsOf]
    simp only [Function.comp_def, DocumentVersion.shown_documentId]
    refine ((List.map_congr_left fun v hv => ?_).trans (List.map_id _)).symm
    obtain rfl : v.documentId = documentId := by simpa using (List.mem_filter.mp hv).2
    exact DocumentVersion.shown_of_not_hidden hid
  rw [hfilter, hfilter, h.versions]

/-- It has the same current version. -/
theorem currentVersion_eq (hid : hidden documentId = false) :
    s.currentVersion documentId = s'.currentVersion documentId := by
  have hfind : ∀ s : Store, s.currentVersion documentId =
      (s.versionsOf documentId).find? DocumentVersion.isCurrent := by
    intro s
    rw [Store.versionsOf, List.find?_filter, Store.currentVersion]
    simp
  rw [hfind, hfind, h.versionsOf_eq hid]

/-- A selection of documents that selects no hidden one. -/
theorem filter_documents_eq {p : Document → Bool}
    (hp : ∀ d, d.buildingId = buildingId → d.visibility = .managementOnly → p d = false) :
    s.documents.rows.filter p = s'.documents.rows.filter p := by
  have hfilter : ∀ s : Store, (∀ d ∈ s.documents, hidden d.id = true →
      d.buildingId = buildingId ∧ d.visibility = .managementOnly) → s.documents.rows.filter p =
        (s.documents.rows.map (Document.shown hidden)).filter p := by
    intro s hrestricted
    refine (filter_map_of_forall fun d hd => ?_).symm
    cases hhidden : hidden d.id with
    | false => exact Or.inl (Document.shown_of_not_hidden hhidden)
    | true =>
      obtain ⟨hbuilding, hvisibility⟩ := hrestricted d hd hhidden
      exact Or.inr ⟨hp _ hbuilding hvisibility, hp _ (by simpa) (by simpa)⟩
  rw [hfilter s h.restricted, hfilter s' h.restricted', h.documents]

/-- It has the same references. -/
theorem referencesOf_eq (hid : hidden documentId = false) :
    s.referencesOf documentId = s'.referencesOf documentId := by
  have hfilter : ∀ s : Store, s.referencesOf documentId =
      (s.references.rows.filter fun r => !s.onHidden hidden r).filter fun r =>
        (s.versions.find? r.documentVersionId).any fun v => v.documentId = documentId := by
    intro s
    rw [List.filter_filter, Store.referencesOf]
    refine List.filter_congr fun r _ => ?_
    -- a version of the document is of no hidden one
    rw [Store.onHidden]
    cases s.versions.find? r.documentVersionId with
    | none => rfl
    | some v =>
      rw [Option.any_some, Option.any_some]
      by_cases hv : v.documentId = documentId
      · rw [hv, hid, Bool.not_false, Bool.and_true]
      · simp [hv]
  rw [hfilter, hfilter, h.references]
  refine List.filter_congr fun r _ => ?_
  rcases h.version_cases r.documentVersionId with ⟨heq, -⟩ | ⟨v, v', hv, hv', hid', -⟩
  · rw [heq]
  · rw [hv, hv', Option.any_some, Option.any_some, hid']

/-- It is attached to the same things. -/
theorem referenceTargets_eq (hid : hidden documentId = false)
    (entityType : DocumentReferenceEntityType) :
    s.referenceTargets entityType documentId = s'.referenceTargets entityType documentId := by
  rw [Store.referenceTargets, Store.referenceTargets, h.referencesOf_eq hid]

/-- A reference on a hidden document is no reason to select anything. -/
theorem attached_of_onHidden {p : AttachedDocument → Bool}
    (hp : ∀ a, a.document.buildingId = buildingId → a.document.visibility = .managementOnly →
      p a = false) {r : DocumentReference} (hr : s.onHidden hidden r = true) :
    ((s.versionWithDocument r.documentVersionId).map fun (version, document) =>
      (⟨r, version, document⟩ : AttachedDocument)).filter p = none := by
  rw [Store.onHidden, Option.any_eq_true] at hr
  obtain ⟨v, hv, hhidden⟩ := hr
  rw [Store.versionWithDocument_eq, hv, Option.bind_some]
  cases hd : s.documents.find? v.documentId with
  | none => rfl
  | some d =>
    obtain ⟨hbuilding, hvisibility⟩ := h.restricted d (Table.mem_of_find? hd)
      (Table.key_of_find? hd ▸ hhidden)
    exact if_neg (by simpa using hp ⟨r, v, d⟩ hbuilding hvisibility)

/-- What is attached looks the same where restricted documents are left out. -/
theorem attached_eq {p : AttachedDocument → Bool}
    (hp : ∀ a, a.document.buildingId = buildingId → a.document.visibility = .managementOnly →
      p a = false) (r : DocumentReference) :
    ((s.versionWithDocument r.documentVersionId).map fun (version, document) =>
      (⟨r, version, document⟩ : AttachedDocument)).filter p =
    ((s'.versionWithDocument r.documentVersionId).map fun (version, document) =>
      (⟨r, version, document⟩ : AttachedDocument)).filter p := by
  rcases h.versionWithDocument_cases r.documentVersionId with
    ⟨heq, -⟩ | ⟨v, d, v', d', hfound, hfound', ⟨hbuilding, hvisibility⟩, hbuilding', hvisibility'⟩
  · rw [heq]
  · rw [hfound, hfound']
    have hnone : ∀ (v : DocumentVersion) {d : Document}, d.buildingId = buildingId →
        d.visibility = .managementOnly →
        (some (⟨r, v, d⟩ : AttachedDocument)).filter p = none := fun v d hb hv =>
      if_neg (by simpa using hp ⟨r, v, d⟩ hb hv)
    exact (hnone v hbuilding hvisibility).trans (hnone v' hbuilding' hvisibility').symm

/-- What is attached to an entity, when nothing hidden is selected of it. -/
theorem filter_references_eq {p : AttachedDocument → Bool}
    (hp : ∀ a, a.document.buildingId = buildingId → a.document.visibility = .managementOnly →
      p a = false) (entityType : DocumentReferenceEntityType) (entityId : ℕ) :
    (DocumentRepository.listReferencesForEntity entityType entityId s).filter p =
      (DocumentRepository.listReferencesForEntity entityType entityId s').filter p := by
  have hvisible : ∀ s s' : Store, ShowsSame hidden buildingId personId s s' →
      (DocumentRepository.listReferencesForEntity entityType entityId s).filter p =
        (((s.references.rows.filter fun r => !s.onHidden hidden r).filter fun r =>
          r.entityType = entityType ∧ r.entityId = entityId).insertionSort
            fun r r' => r'.createdAt ≤ r.createdAt).filterMap fun r =>
              ((s.versionWithDocument r.documentVersionId).map fun (version, document) =>
                (⟨r, version, document⟩ : AttachedDocument)).filter p := by
    intro s s' h
    have hsort := filter_insertionSort
      (r := fun r r' : DocumentReference => r'.createdAt ≤ r.createdAt)
      (fun r r' => le_total r'.createdAt r.createdAt) (fun _ _ _ hr hr' => hr'.trans hr)
      (fun r => !s.onHidden hidden r)
      (s.references.rows.filter fun r => r.entityType = entityType ∧ r.entityId = entityId)
    rw [DocumentRepository.listReferencesForEntity, List.filter_filterMap, List.filter_comm,
      ← hsort, List.filterMap_filter]
    refine List.filterMap_congr fun r _ => ?_
    cases hr : s.onHidden hidden r with
    | false => rfl
    | true => exact h.attached_of_onHidden hp hr
  rw [hvisible s s' h, hvisible s' s h.symm, h.references]
  exact List.filterMap_congr fun r _ => h.attached_eq hp r

end ShowsSame

/-! ### The calls that read documents -/

/-- What the calls on one document check before they tell what it says. -/
def assertAccess (documentId : ℕ) (d : Document) (actorPersonId : ℕ) : Call PUnit := do
  assertMember actorPersonId d.buildingId
  let privileged ← isPrivileged actorPersonId d.buildingId
  DocumentPolicy.assertVisible d.visibility privileged
  assertCaseReferenceAccess documentId d.buildingId actorPersonId
  assertPaymentReferenceAccess documentId d.buildingId actorPersonId

/-- `getAccessible` finds the document and asserts the access to it. -/
theorem getAccessible_eq (documentId actorPersonId : ℕ) : getAccessible documentId actorPersonId =
    getDocumentOrThrow documentId >>= fun d => assertAccess documentId d actorPersonId >>= fun _ =>
      pure d := by
  simp only [getAccessible, assertAccess, Prog.bind_assoc]

/-- What `downloadVersion` tells of a version. -/
def download (config : Config) (version : DocumentVersion) : Download where
  fileUrl := if config.storageConfigured then .presigned version.fileUrl
    else .stored version.fileUrl
  fileName := version.fileName
  fileType := version.fileType

/-- `downloadVersion` finds the version, and asserts the access to its document. -/
theorem downloadVersion_eq (versionId actorPersonId : ℕ) :
    downloadVersion config versionId actorPersonId =
      ((Prog.query fun s => s.versionWithDocument versionId) >>= fun version =>
        Prog.expect version (.notFound "Document version not found.") >>= fun x =>
          assertAccess x.2.id x.2 actorPersonId >>= fun _ => pure (download config x.1)) := by
  simp only [downloadVersion, download, assertAccess, Prog.bind_assoc]

/-- The call answers the same on any two stores that show the person the same. -/
abbrev Unaware {α : Type} (hidden : ℕ → Bool) (buildingId personId : ℕ) (p : Call α) : Prop :=
  p.Alike (ShowsSame hidden buildingId personId) p

section Alike

/-- A read of the cases. -/
theorem alike_casesStore {β : Type} (q : Cases.Store → β) :
    Unaware hidden buildingId personId (Prog.query fun s : Store => q s.casesStore : Call β) :=
  .read fun _ _ h => h.eq_of_casesStore q

/-- A read of a building. -/
theorem alike_getBuilding (ofId : ℕ) : Unaware hidden buildingId personId (getBuilding ofId) :=
  (alike_casesStore fun c => c.buildings.find? ofId).bind fun _ => Alike.expect.bind fun _ => rfl

/-- A read of the roles. -/
theorem alike_isPrivileged (actorPersonId ofId : ℕ) :
    Unaware hidden buildingId personId (isPrivileged actorPersonId ofId) :=
  alike_casesStore fun c => hasPrivilegedRole (c.roles actorPersonId ofId)

/-- The check for a membership. -/
theorem alike_assertMember (actorPersonId ofId : ℕ) :
    Unaware hidden buildingId personId (assertMember actorPersonId ofId) :=
  (alike_casesStore fun c => c.roles actorPersonId ofId).bind fun _ => Alike.require

/-- The check of a case. -/
theorem alike_getCase (ofId caseId actorPersonId : ℕ) :
    Unaware hidden buildingId personId (getCase ofId caseId actorPersonId) := by
  refine (alike_casesStore fun c =>
    (Cases.CasesService.getCase ofId caseId actorPersonId).outcome c).bind fun found => ?_
  cases found <;> rfl

/-- The check of a payment. -/
theorem alike_getPaymentForViewer (ofId paymentId actorPersonId : ℕ) :
    Unaware hidden buildingId personId
      (FinanceService.getPaymentForViewer ofId paymentId actorPersonId) := by
  have hpayment : Unaware hidden buildingId personId
      (FinanceService.getOwnPayment ofId paymentId) :=
    (Alike.read fun _ _ h => congrArg (·.find? paymentId) h.payments).bind fun _ => Alike.expect
  refine hpayment.bind fun payment => ?_
  split
  · rfl
  · exact (alike_casesStore fun c => c.roles actorPersonId payment.buildingId).bind fun _ =>
      Alike.require

/-- The access to a document that is not hidden. -/
theorem alike_assertAccess (hid : hidden documentId = false) (d : Document) (actorPersonId : ℕ) :
    Unaware hidden buildingId personId (assertAccess documentId d actorPersonId) := by
  have hcases : Unaware hidden buildingId personId
      (assertCaseReferenceAccess documentId d.buildingId actorPersonId) :=
    (Alike.read fun _ _ h => h.referenceTargets_eq hid .case).bind fun _ =>
      Alike.forEach fun _ _ => alike_getCase _ _ _
  have hpayments : Unaware hidden buildingId personId
      (assertPaymentReferenceAccess documentId d.buildingId actorPersonId) :=
    (Alike.read fun _ _ h => h.referenceTargets_eq hid .payment).bind fun _ =>
      Alike.forEach fun _ _ => alike_getPaymentForViewer _ _ _
  refine (alike_assertMember _ _).bind fun _ => (alike_isPrivileged _ _).bind fun privileged => ?_
  exact Alike.require.bind fun _ => hcases.bind fun _ => hpayments

/-- Of two hidden documents both are refused, before anything else of them matters. -/
theorem alike_refused {α : Type} {d d' : Document} {id id' : ℕ} {f f' : PUnit → Call α}
    (hd : d.buildingId = buildingId ∧ d.visibility = .managementOnly)
    (hd' : d'.buildingId = buildingId ∧ d'.visibility = .managementOnly) :
    (assertAccess id d personId >>= f).Alike (ShowsSame hidden buildingId personId)
      (assertAccess id' d' personId >>= f') := by
  simp only [assertAccess, Prog.bind_assoc]
  rw [hd.1, hd.2, hd'.1, hd'.2]
  refine (alike_assertMember _ _).bind fun _ => Alike.query fun v v' h => ?_
  rw [h.unprivileged, h.symm.unprivileged]
  rfl

/-- A call that tells something of one document. -/
theorem alike_getAccessible {α : Type} {f : Document → Call α}
    (hf : hidden documentId = false → ∀ d, Unaware hidden buildingId personId (f d)) :
    Unaware hidden buildingId personId (getAccessible documentId personId >>= f) := by
  rw [getAccessible_eq, getDocumentOrThrow]
  simp only [Prog.bind_assoc, Prog.pure_bind]
  refine Alike.query fun v v' h => ?_
  rcases h.document_cases documentId with ⟨heq, hnot⟩ | ⟨d, d', hd, hd', hrestricted, hrestricted'⟩
  · rw [← heq]
    cases hd : v.documents.find? documentId with
    | none => rfl
    | some d =>
      have hid : hidden documentId = false := Table.key_of_find? hd ▸ hnot d hd
      exact (alike_assertAccess hid d personId).bind fun _ => hf hid d
  · rw [hd, hd']
    exact alike_refused hrestricted hrestricted'

/-- `getDocument`. -/
theorem alike_getDocument (documentId : ℕ) : 
    Unaware hidden buildingId personId (getDocument documentId personId) :=
  alike_getAccessible fun hid _ => (Alike.read fun _ _ h => h.currentVersion_eq hid).bind fun _ =>
    rfl

/-- `listDocumentVersions`. -/
theorem alike_listDocumentVersions (documentId : ℕ) (pagination : SkipTake) :
    Unaware hidden buildingId personId
      (DocumentsService.listDocumentVersions documentId personId pagination) := by
  refine alike_getAccessible fun hid _ => Alike.read fun _ _ h => ?_
  rw [DocumentRepository.listDocumentVersions, h.versionsOf_eq hid,
    DocumentRepository.listDocumentVersions]

/-- `downloadVersion`. -/
theorem alike_downloadVersion (versionId : ℕ) : 
    Unaware hidden buildingId personId (downloadVersion config versionId personId) := by
  rw [downloadVersion_eq]
  refine Alike.query fun v v' h => ?_
  rcases h.versionWithDocument_cases versionId with
    ⟨heq, hnot⟩ | ⟨w, d, w', d', hfound, hfound', hrestricted, hrestricted'⟩
  · rw [← heq]
    cases hfound : v.versionWithDocument versionId with
    | none => rfl
    | some x =>
      exact (alike_assertAccess (hnot x.1 x.2 hfound) x.2 personId).bind fun _ => rfl
  · rw [hfound, hfound']
    exact alike_refused hrestricted hrestricted'

/-- The selection of a list hides what is hidden from a member without a privileged role. -/
theorem visibilityCondition_eq_false {d : Document} {visibility : Option DocumentVisibility}
    (hd : d.visibility = .managementOnly) : visibilityCondition false visibility d = false := by
  simp [visibilityCondition, hd]

/-- A read of the documents of a building, with what the role of the person lets him see. -/
theorem alike_list {α : Type} {ofId : ℕ} (list : Bool → Store → α)
    (hlist : ∀ s s', ShowsSame hidden buildingId personId s s' → ∀ privileged,
      (ofId = buildingId → privileged = false) → list privileged s = list privileged s') :
    Unaware hidden buildingId personId
      (isPrivileged personId ofId >>= fun privileged => Prog.query (list privileged)) := by
  refine Alike.query fun v v' h => ?_
  have hroles : v.roles personId ofId = v'.roles personId ofId :=
    h.eq_of_casesStore fun c => c.roles personId ofId
  rw [← hroles]
  refine Alike.read fun s s' hs => hlist s s' hs _ ?_
  rintro rfl
  exact h.unprivileged

/-- `listDocuments`. -/
theorem alike_listDocuments (ofId : ℕ) (filter : DocumentFilter) (pagination : SkipTake) :
    Unaware hidden buildingId personId
      (DocumentsService.listDocuments ofId personId filter pagination) := by
  refine (alike_assertMember _ _).bind fun _ => alike_list _ fun s s' h privileged hprivileged => ?_
  rw [DocumentRepository.listDocuments, DocumentRepository.listDocuments,
    h.filter_documents_eq fun d hbuilding hvisibility => ?_]
  by_cases hof : d.buildingId = ofId
  · simp [hprivileged (hof.symm.trans hbuilding), visibilityCondition_eq_false hvisibility]
  · simp [hof]

/-- `searchDocuments`. -/
theorem alike_searchDocuments (ofId : ℕ) (params : DocumentSearch) (pagination : SkipTake) :
    Unaware hidden buildingId personId
      (DocumentsService.searchDocuments ofId personId params pagination) := by
  refine (alike_getBuilding _).bind fun _ => (alike_assertMember _ _).bind fun _ =>
    alike_list _ fun s s' h privileged hprivileged => ?_
  rw [DocumentRepository.searchDocuments, DocumentRepository.searchDocuments,
    h.filter_documents_eq fun d hbuilding hvisibility => ?_]
  by_cases hof : d.buildingId = ofId
  · simp [hprivileged (hof.symm.trans hbuilding), visibilityCondition_eq_false hvisibility]
  · simp [hof]

/-- `listReferencesForEntity`. -/
theorem alike_listReferencesForEntity (ofId : ℕ) (entityType : DocumentReferenceEntityType)
    (entityId : ℕ) :
    Unaware hidden buildingId personId
      (DocumentsService.listReferencesForEntity ofId entityType entityId personId) := by
  have hattached : Unaware hidden buildingId personId
      (isPrivileged personId ofId >>= fun privileged =>
        Prog.query (DocumentRepository.listReferencesForEntity entityType entityId) >>= fun refs =>
          pure (refs.filter fun r => r.document.buildingId = ofId ∧
            (privileged = true ∨ r.document.visibility ≠ .managementOnly))) := by
    refine alike_list (fun privileged s =>
      (DocumentRepository.listReferencesForEntity entityType entityId s).filter fun r =>
        r.document.buildingId = ofId ∧
          (privileged = true ∨ r.document.visibility ≠ .managementOnly))
      fun s s' h privileged hprivileged =>
        h.filter_references_eq (fun a hbuilding hvisibility => ?_) _ _
    by_cases hof : a.document.buildingId = ofId
    · simp [hprivileged (hof.symm.trans hbuilding), hvisibility]
    · simp [hof]
  refine (alike_assertMember _ _).bind fun _ => ?_
  dsimp only
  split
  · exact (alike_getCase _ _ _).bind fun _ => hattached
  · exact hattached

end Alike

/-! ### Runs -/

/-- The calls that read documents. -/
inductive ReadCall
  | getDocument (documentId : ℕ)
  | listDocuments (buildingId : ℕ) (filter : DocumentFilter) (pagination : SkipTake)
  | searchDocuments (buildingId : ℕ) (params : DocumentSearch) (pagination : SkipTake)
  | listDocumentVersions (documentId : ℕ) (pagination : SkipTake)
  | downloadVersion (versionId : ℕ)
  | listReferencesForEntity (buildingId : ℕ) (entityType : DocumentReferenceEntityType)
      (entityId : ℕ)

/-- What such a call tells. -/
inductive Answer
  | document (answer : Document × Option DocumentVersion)
  | documents (page : Page Document)
  | versions (page : Page VersionListing)
  | file (download : Download)
  | attached (refs : List AttachedDocument)
  deriving DecidableEq

/-- The call with what it answers. -/
def ReadCall.call (config : Config) (actorPersonId : ℕ) : ReadCall → Call Answer
  | getDocument documentId => do
    let answer ← DocumentsService.getDocument documentId actorPersonId
    pure (.document answer)
  | listDocuments buildingId filter pagination => do
    let page ← DocumentsService.listDocuments buildingId actorPersonId filter pagination
    pure (.documents page)
  | searchDocuments buildingId params pagination => do
    let page ← DocumentsService.searchDocuments buildingId actorPersonId params pagination
    pure (.documents page)
  | listDocumentVersions documentId pagination => do
    let page ← DocumentsService.listDocumentVersions documentId actorPersonId pagination
    pure (.versions page)
  | downloadVersion versionId => do
    let download ← DocumentsService.downloadVersion config versionId actorPersonId
    pure (.file download)
  | listReferencesForEntity buildingId entityType entityId => do
    let refs ← DocumentsService.listReferencesForEntity buildingId entityType entityId actorPersonId
    pure (.attached refs)

/-- No read tells two stores apart that show the same. -/
theorem ReadCall.unaware (c : ReadCall) :
    Unaware hidden buildingId personId (c.call config personId) := by
  cases c with
  | getDocument documentId => exact (alike_getDocument documentId).bind fun _ => rfl
  | listDocuments ofId filter pagination =>
    exact (alike_listDocuments ofId filter pagination).bind fun _ => rfl
  | searchDocuments ofId params pagination =>
    exact (alike_searchDocuments ofId params pagination).bind fun _ => rfl
  | listDocumentVersions documentId pagination =>
    exact (alike_listDocumentVersions documentId pagination).bind fun _ => rfl
  | downloadVersion versionId => exact (alike_downloadVersion versionId).bind fun _ => rfl
  | listReferencesForEntity ofId entityType entityId =>
    exact (alike_listReferencesForEntity ofId entityType entityId).bind fun _ => rfl

/-- The check of a payment writes nothing. -/
theorem readOnly_getPaymentForViewer (ofId paymentId actorPersonId : ℕ) :
    (FinanceService.getPaymentForViewer ofId paymentId actorPersonId).ReadOnly := by
  refine ReadOnly.bind (.bind (.query _) fun _ => .expect _ _) fun payment => ?_
  exact .ite trivial (.bind (.query _) fun _ => .require _ _)

/-- The check of the access writes nothing. -/
theorem readOnly_assertAccess (documentId : ℕ) (d : Document) (actorPersonId : ℕ) :
    (assertAccess documentId d actorPersonId).ReadOnly := by
  refine .bind (readOnly_assertMember _ _) fun _ => .bind (readOnly_isPrivileged _ _) fun _ =>
    .bind (.require _ _) fun _ => .bind ?_ fun _ => ?_
  · exact .bind (.query _) fun _ => .forEach fun _ => readOnly_getCase _ _ _
  · exact .bind (.query _) fun _ => .forEach fun _ => readOnly_getPaymentForViewer _ _ _

/-- Neither does what finds a document. -/
theorem readOnly_getAccessible (documentId actorPersonId : ℕ) :
    (getAccessible documentId actorPersonId).ReadOnly := by
  rw [getAccessible_eq]
  exact .bind (readOnly_getDocumentOrThrow _) fun _ => .bind (readOnly_assertAccess _ _ _) fun _ =>
    trivial

/-- Nor what lists the references. -/
theorem readOnly_listReferencesForEntity (ofId : ℕ) (entityType : DocumentReferenceEntityType)
    (entityId actorPersonId : ℕ) :
    (DocumentsService.listReferencesForEntity ofId entityType entityId actorPersonId).ReadOnly := by
  have hattached : ∀ f : Bool → List AttachedDocument → List AttachedDocument,
      (isPrivileged actorPersonId ofId >>= fun privileged =>
        Prog.query (DocumentRepository.listReferencesForEntity entityType entityId) >>= fun refs =>
          (pure (f privileged refs) : Call (List AttachedDocument))).ReadOnly :=
    fun _ => .bind (readOnly_isPrivileged _ _) fun _ => .bind (.query _) fun _ => trivial
  refine .bind (readOnly_assertMember _ _) fun _ => ?_
  dsimp only
  split
  · exact .bind (readOnly_getCase _ _ _) fun _ => hattached _
  · exact hattached _

/-- None of the reads writes anything. -/
theorem ReadCall.readOnly (c : ReadCall) : (c.call config personId).ReadOnly := by
  cases c with
  | getDocument documentId =>
    exact .bind (.bind (readOnly_getAccessible _ _) fun _ => .bind (.query _) fun _ => trivial)
      fun _ => trivial
  | listDocuments ofId filter pagination =>
    exact .bind (.bind (readOnly_assertMember _ _) fun _ => .bind (readOnly_isPrivileged _ _)
      fun _ => .query _) fun _ => trivial
  | searchDocuments ofId params pagination =>
    exact .bind (.bind (readOnly_getBuilding _) fun _ => .bind (readOnly_assertMember _ _)
      fun _ => .bind (readOnly_isPrivileged _ _) fun _ => .query _) fun _ => trivial
  | listDocumentVersions documentId pagination =>
    exact .bind (.bind (readOnly_getAccessible _ _) fun _ => .query _) fun _ => trivial
  | downloadVersion versionId =>
    rw [call, downloadVersion_eq]
    exact .bind (.bind (.query _) fun _ => .bind (.expect _ _) fun _ =>
      .bind (readOnly_assertAccess _ _ _) fun _ => trivial) fun _ => trivial
  | listReferencesForEntity ofId entityType entityId =>
    exact .bind (readOnly_listReferencesForEntity _ _ _ _) fun _ => trivial

/-- Whatever the sessions around it do: a read of a person answers the same in any two runs that
come upon stores which show the person the same. -/
theorem answer_of_shown {ι : Type} [DecidableEq ι] {calls calls' : ι → Call Answer} {i : ι}
    {es es' : List (Event ι Failure)} (c : ReadCall)
    (hcall : calls i = c.call config personId) (hcall' : calls' i = c.call config personId)
    (hseen : List.Forall₂
      (fun x x' => x.1 = x'.1 ∧ ShowsSame hidden buildingId personId x.2 x'.2)
      (Database.seen Lock.enforced i (Database.start s calls) es)
      (Database.seen Lock.enforced i (Database.start s' calls') es')) :
    ((runCalls s calls es).session i).rest.result =
      ((runCalls s' calls' es').session i).rest.result := by
  have hsession : ∀ {s : Store} {calls : ι → Call Answer}, calls i = c.call config personId →
      (Database.start s calls).session i = ⟨c.call config personId, id⟩ :=
    fun h => congrArg (Session.mk · id) h
  exact Database.result_of_alike c.readOnly c.readOnly c.unaware (hsession hcall)
    (hsession hcall') hseen

/-- The building of `described`, where the document is for the management only and person 2 is an
owner. -/
def withOwner (title : String) : Store :=
  createFirstVersion noStorage
    { buildingId := 0, category := .general, title, visibility := .managementOnly,
      createdById := 1 }
    { fileUrl := "plan-1", fileName := title, fileType := "PDF", fileSize := 3,
      uploadedById := 1 } 1
    { uploaded with
      memberships := uploaded.memberships.create fun id =>
        { id, personId := 2, buildingId := 0, role := .owner } }

/-- An owner and the manager list the documents. -/
def listedByTwo (i : Fin 2) : Call Answer :=
  ReadCall.call noStorage (if i = 0 then 2 else 1) (.listDocuments 0 {} ⟨0, 10⟩)

/-- They take their steps in turn. -/
def inTurn : List (Event (Fin 2) Failure) := (List.replicate 3 [.step 0, .step 1]).flatten

/-- What the first of two sessions that take turns comes upon. -/
theorem seen_listedByTwo (title : String) :
    Database.seen Lock.enforced 0 (Database.start (withOwner title) listedByTwo) inTurn =
      List.replicate 3 (.step 0, withOwner title) := rfl

/-- Two stores that differ in the title of a hidden document show the same. -/
theorem showsSame_withOwner (title title' : String) :
    ShowsSame (fun _ => true) 0 2 (withOwner title) (withOwner title') where
  shown := rfl
  restricted := by
    intro d hd _
    rcases (Table.mem_create (h := fun _ => rfl)).mp hd with hd | rfl
    · cases hd
    · exact ⟨rfl, rfl⟩
  unprivileged := rfl

/-- The titles that an answer tells. -/
def titles : Option (Except Failure Answer) → List String
  | some (.ok (.documents page)) => page.items.map Document.title
  | _ => []

/-- The manager is told what the document is called, and the owner is not. -/
theorem answer_of_shown_listedByTwo :
    ((runCalls (withOwner "Salaries") listedByTwo inTurn).session 0).rest.result =
        ((runCalls (withOwner "Dismissals") listedByTwo inTurn).session 0).rest.result ∧
      titles ((runCalls (withOwner "Salaries") listedByTwo inTurn).session 1).rest.result =
        ["Salaries"] ∧
      titles ((runCalls (withOwner "Dismissals") listedByTwo inTurn).session 1).rest.result =
        ["Dismissals"] := by
  refine ⟨?_, by decide +kernel, by decide +kernel⟩
  have hsame := showsSame_withOwner "Salaries" "Dismissals"
  have hseen : List.Forall₂ (fun x x' => x.1 = x'.1 ∧ ShowsSame (fun _ => true) 0 2 x.2 x'.2)
      (Database.seen Lock.enforced 0 (Database.start (withOwner "Salaries") listedByTwo) inTurn)
      (Database.seen Lock.enforced 0 (Database.start (withOwner "Dismissals") listedByTwo)
        inTurn) := by
    rw [seen_listedByTwo, seen_listedByTwo]
    exact .cons ⟨rfl, hsame⟩ (.cons ⟨rfl, hsame⟩ (.cons ⟨rfl, hsame⟩ .nil))
  exact answer_of_shown (.listDocuments 0 {} ⟨0, 10⟩) rfl rfl hseen

end VielHome.Documents
