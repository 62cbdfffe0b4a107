import VielHome.Documents.Service
import VielHome.Relational.Discipline

/-!
# Versions, upload intents and backup requests

What holds of the committed tables whatever calls run side by side. When the storage is
configured, each version stems from one upload intent, which was consumed for it, and no other
version has its file (`Bound`). When a bucket is set, the requests for a backup are those of the
versions, one each (`Backed`). The keys of the intents and the payments with a receipt are unique
(`Unique`).

Each kind of commit has one lemma: what it keeps, and which locks it may disturb (`Commits`).
-/

namespace VielHome.Documents

open Relational Community
open Backup (ObjectBackupRequest)
open DocumentRepository
open Relational.ReadCommitted (Discipline Free Mode)

variable {s s' : Store} {config : Config}

/-! ### The invariant -/

/-- The purpose of the intent is that of the version. -/
def Purposed (s : Store) (v : DocumentVersion) (i : DocumentUploadIntent) : Prop :=
  match i.purpose with
  | .createDocument => v.versionNumber = 1
  | .createVersion => i.documentId = some v.documentId
  | .paymentReceipt => ∃ r ∈ s.references, r.documentVersionId = v.id ∧ r.entityType = .payment ∧
      i.paymentId = some r.entityId

/-- The first version of a document. -/
theorem purposed_createDocument {v : DocumentVersion} {i : DocumentUploadIntent}
    (h : i.purpose = .createDocument) (hv : v.versionNumber = 1) : Purposed s v i := by
  rw [Purposed, h]
  exact hv

/-- A version of the document that the intent names. -/
theorem purposed_createVersion {v : DocumentVersion} {i : DocumentUploadIntent}
    (h : i.purpose = .createVersion) (hv : i.documentId = some v.documentId) : Purposed s v i := by
  rw [Purposed, h]
  exact hv

/-- A version that is attached to the payment that the intent names. -/
theorem purposed_paymentReceipt {v : DocumentVersion} {i : DocumentUploadIntent}
    {r : DocumentReference} (h : i.purpose = .paymentReceipt) (hr : r ∈ s.references)
    (hversion : r.documentVersionId = v.id) (htype : r.entityType = .payment)
    (hpayment : i.paymentId = some r.entityId) : Purposed s v i := by
  rw [Purposed, h]
  exact ⟨r, hr, hversion, htype, hpayment⟩

/-- The version stems from the intent. -/
structure Binds (s : Store) (v : DocumentVersion) (i : DocumentUploadIntent) : Prop where
  storageKey : i.storageKey = v.fileUrl
  consumed : i.consumedAt ≠ none
  building : ∃ d, s.documents.find? v.documentId = some d ∧ d.buildingId = i.buildingId
  fileName : v.fileName = i.fileName
  fileType : v.fileType = i.fileType.toUpper
  fileSize : v.fileSize = i.fileSize
  purpose : Purposed s v i

/-- Each version stems from an intent, which no other version has; a reference to a payment is on
a version whose intent was for the receipt of this payment. -/
structure Bound (s : Store) : Prop where
  intent : ∀ v ∈ s.versions, ∃ i ∈ s.uploadIntents, Binds s v i
  version : ∀ v ∈ s.versions, ∀ v' ∈ s.versions, v.fileUrl = v'.fileUrl → v = v'
  reference : ∀ r ∈ s.references, r.entityType = .payment →
    ∃ v, s.versions.find? r.documentVersionId = some v ∧ ∃ i ∈ s.uploadIntents,
      i.storageKey = v.fileUrl ∧ i.purpose = .paymentReceipt ∧ i.paymentId = some r.entityId

/-- What the unique indexes and the foreign key of the references say. -/
structure Unique (s : Store) : Prop where
  storageKey : ∀ i ∈ s.uploadIntents, ∀ i' ∈ s.uploadIntents, i.storageKey = i'.storageKey → i = i'
  receipt : ∀ r ∈ s.references, ∀ r' ∈ s.references, r.entityType = .payment →
    r'.entityType = .payment → r.entityId = r'.entityId → r = r'
  version : ∀ r ∈ s.references, (s.versions.find? r.documentVersionId).isSome

/-- The request is for the backup of the version. -/
def IsBackupOf (bucket : String) (versionId : ℕ) (q : ObjectBackupRequest) : Prop :=
  q.sourceBucket = bucket ∧ q.referenceType = "DOCUMENT_VERSION" ∧ q.referenceId = versionId

/-- Each version has one request for its backup, and no request is without its version. -/
structure Backed (bucket : String) (s : Store) : Prop where
  request : ∀ v ∈ s.versions, ∃ q ∈ s.backupRequests, IsBackupOf bucket v.id q ∧
    q.sourceKey = v.fileUrl ∧ q.expectedSize = some v.fileSize ∧ q.finalizedAt = v.uploadedAt
  unique : ∀ versionId, ∀ q ∈ s.backupRequests, ∀ q' ∈ s.backupRequests,
    IsBackupOf bucket versionId q → IsBackupOf bucket versionId q' → q = q'
  version : ∀ versionId, ∀ q ∈ s.backupRequests, IsBackupOf bucket versionId q →
    (s.versions.find? versionId).isSome

/-- What holds of the committed tables. -/
structure Consistent (config : Config) (s : Store) : Prop where
  unique : Unique s
  bound : config.storageConfigured = true → Bound s
  backed : ∀ bucket ∈ config.bucket, Backed bucket s

/-! ### What a commit keeps -/

/-- An intent stays as it was requested, and stays consumed. -/
def KeepsIntents (s s' : Store) : Prop :=
  ∀ id i, s.uploadIntents.find? id = some i → ∃ consumedAt,
    s'.uploadIntents.find? id = some { i with consumedAt } ∧
      (i.consumedAt ≠ none → consumedAt ≠ none)

/-- Documents and references stay, and versions keep their files. -/
structure Keeps (s s' : Store) : Prop where
  intents : KeepsIntents s s'
  documents : ∀ id d, s.documents.find? id = some d → s'.documents.find? id = some d
  versions : ∀ id v, s.versions.find? id = some v →
    ∃ isCurrent, s'.versions.find? id = some { v with isCurrent }
  references : ∀ r ∈ s.references, r ∈ s'.references

/-- A commit that changes nothing keeps the intents. -/
theorem KeepsIntents.refl : KeepsIntents s s := fun _ i hi => ⟨i.consumedAt, hi, id⟩

/-- So does one to other tables. -/
theorem KeepsIntents.of_eq (h : s'.uploadIntents = s.uploadIntents) : KeepsIntents s s' := by
  intro id i hi
  exact ⟨i.consumedAt, h ▸ hi, fun hne => hne⟩

/-- What a lock protects. -/
def sameFor : Lock → Store → Store → Prop
  | .uploadIntent id, s, s' =>
    ∀ i, s.uploadIntents.find? id = some i → s'.uploadIntents.find? id = some i
  | .storageKey key, s, s' =>
    s.uploadIntentByStorageKey key = none → s'.uploadIntentByStorageKey key = none
  | .paymentReference paymentId, s, s' =>
    s.paymentReceiptReference paymentId = none → s'.paymentReceiptReference paymentId = none
  | .versionNumber _ _, _, _ => True
  | .version _, _, _ => True
  | .cleanup _, _, _ => True

/-- A store is the same as itself, for every lock. -/
theorem sameFor_refl (l : Lock) (s : Store) : sameFor l s s := by
  cases l <;> simp [sameFor]

/-- What is the same twice in a row is the same. -/
theorem sameFor_trans {l : Lock} {s s' s'' : Store} (h : sameFor l s s') (h' : sameFor l s' s'') :
    sameFor l s s'' := by
  cases l with
  | uploadIntent id => exact fun i hi => h' i (h i hi)
  | storageKey key => exact fun hnone => h' (h hnone)
  | paymentReference paymentId => exact fun hnone => h' (h hnone)
  | versionNumber documentId versionNumber => trivial
  | version id => trivial
  | cleanup uploadIntentId => trivial

/-- A commit to other tables leaves everything the same. -/
theorem sameFor_of_eq {l : Lock} (hintents : s'.uploadIntents = s.uploadIntents)
    (hreferences : s'.references = s.references) : sameFor l s s' := by
  cases l with
  | uploadIntent id => exact fun i hi => hintents ▸ hi
  | storageKey key => simp [sameFor, Store.uploadIntentByStorageKey, hintents]
  | paymentReference paymentId => simp [sameFor, Store.paymentReceiptReference, hreferences]
  | versionNumber documentId versionNumber => trivial
  | version id => trivial
  | cleanup uploadIntentId => trivial

/-- A receipt of a payment has the object as its file. -/
def Finalized (key : String) (s : Store) : Prop :=
  ∃ r ∈ s.references, r.entityType = .payment ∧
    ∃ v, s.versions.find? r.documentVersionId = some v ∧ v.fileUrl = key

/-- The objects of the receipts stay. -/
def KeepsReceipts (s s' : Store) : Prop :=
  ∀ key, Finalized key s → (s.objects key).isSome → (s'.objects key).isSome

/-- What is finalized stays so. -/
theorem Keeps.finalized (h : Keeps s s') {key : String} (hkey : Finalized key s) :
    Finalized key s' := by
  obtain ⟨r, hr, htype, v, hv, hurl⟩ := hkey
  obtain ⟨isCurrent, hv'⟩ := h.versions _ _ hv
  exact ⟨r, h.references r hr, htype, _, hv', hurl⟩

/-- Every commit keeps the rows, and where `receipts` says so the objects of the receipts. -/
def uploads (config : Config) (receipts : Bool) : Discipline Store Lock where
  inv := Consistent config
  commits s s' := Keeps s s' ∧ (receipts = true → KeepsReceipts s s')
  kept _ := true
  same l _ s s' := sameFor l s s'
  same_refl l _ s := sameFor_refl l s
  same_trans _ _ _ _ _ h h' := sameFor_trans h h'

/-- What a commit keeps, with the locks that it may disturb. -/
structure Commits (config : Config) (disturbed : Lock → Prop) (s s' : Store) : Prop where
  consistent : Consistent config s'
  keeps : Keeps s s'
  objects : ∀ key, (s.objects key).isSome → (s'.objects key).isSome
  same : ∀ l, ¬ disturbed l → sameFor l s s'

/-- A commit that disturbs nothing but locks of the session. -/
theorem Commits.conclude {disturbed : Lock → Prop} (h : Commits config disturbed s s')
    {notes : List (Lock × Mode × Store)} {receipts : Bool} {P : Prop}
    (hheld : ∀ l m, Free notes l m → ¬ disturbed l) (hrest : P) :
    Consistent config s' ∧ (uploads config receipts).commits s s' ∧
      (∀ l m, Free notes l m → sameFor l s s') ∧ P :=
  ⟨h.consistent, ⟨h.keeps, fun _ key _ => h.objects key⟩, fun l m hl => h.same l (hheld l m hl), hrest⟩

/-! ### New intents -/

/-- No intent has the key. -/
theorem uploadIntentByStorageKey_eq_none {key : String} :
    s.uploadIntentByStorageKey key = none ↔ ∀ i ∈ s.uploadIntents, i.storageKey ≠ key := by
  simp [Store.uploadIntentByStorageKey, List.find?_eq_none, Table.mem_rows]

/-- The intent that is found has the key. -/
theorem uploadIntentByStorageKey_eq_some {key : String} {i : DocumentUploadIntent}
    (h : s.uploadIntentByStorageKey key = some i) : i ∈ s.uploadIntents ∧ i.storageKey = key :=
  ⟨List.mem_of_find?_eq_some h, by simpa using List.find?_some h⟩

/-- The intent is there, and still to be used. -/
theorem isUnconsumed_eq_true {id : ℕ} :
    s.isUnconsumed id = true ↔ ∃ i, s.uploadIntents.find? id = some i ∧ i.consumedAt = none := by
  rw [Store.isUnconsumed]
  cases s.uploadIntents.find? id <;> simp

/-- The payment has no receipt. -/
theorem paymentReceiptReference_eq_none {paymentId : ℕ} :
    s.paymentReceiptReference paymentId = none ↔
      ∀ r ∈ s.references, r.entityType = .payment → r.entityId ≠ paymentId := by
  simp [Store.paymentReceiptReference, List.find?_eq_none, Table.mem_rows]

/-- What an intent binds, it binds while documents and references stay. -/
theorem Binds.mono {v : DocumentVersion} {i : DocumentUploadIntent} (h : Binds s v i)
    (hdocuments : ∀ id d, s.documents.find? id = some d → s'.documents.find? id = some d)
    (hreferences : ∀ r ∈ s.references, r ∈ s'.references) : Binds s' v i := by
  obtain ⟨d, hd, hbuilding⟩ := h.building
  refine ⟨h.storageKey, h.consumed, ⟨d, hdocuments _ _ hd, hbuilding⟩, h.fileName, h.fileType,
    h.fileSize, ?_⟩
  have hpurpose := h.purpose
  unfold Purposed at hpurpose ⊢
  split at hpurpose
  · exact hpurpose
  · exact hpurpose
  · obtain ⟨r, hr, hrest⟩ := hpurpose
    exact ⟨r, hreferences r hr, hrest⟩

/-- A new intent with a key that is free. -/
theorem commits_createUploadIntent {params : UploadIntentParams} (hs : Consistent config s)
    (hfree : s.uploadIntentByStorageKey params.storageKey = none)
    (h : s' = s.onUploadIntents (·.create params.row fun _ => rfl)) :
    Commits config (· = .storageKey params.storageKey) s s' := by
  subst h
  rw [uploadIntentByStorageKey_eq_none] at hfree
  have hmem : ∀ i, i ∈ (s.onUploadIntents (·.create params.row fun _ => rfl)).uploadIntents ↔
      i ∈ s.uploadIntents ∨ i = params.row s.uploadIntents.next :=
    fun i => Table.mem_create (h := fun _ => rfl)
  refine ⟨⟨⟨?_, hs.unique.receipt, hs.unique.version⟩, fun hconfigured => ?_, fun b hb => ?_⟩,
    ⟨fun id i hi => ?_, fun _ _ hd => hd, fun _ v hv => ⟨v.isCurrent, hv⟩, fun _ hr => hr⟩,
    fun _ h => h, fun l hl => ?_⟩
  · intro i hi i' hi' hkey
    rcases (hmem i).mp hi with hi | rfl <;> rcases (hmem i').mp hi' with hi' | rfl
    · exact hs.unique.storageKey i hi i' hi' hkey
    · exact absurd hkey (hfree i hi)
    · exact absurd hkey.symm (hfree i' hi')
    · rfl
  · have hbound := hs.bound hconfigured
    refine ⟨fun v hv => ?_, hbound.version, fun r hr htype => ?_⟩
    · obtain ⟨i, hi, hbinds⟩ := hbound.intent v hv
      exact ⟨i, (hmem i).mpr (Or.inl hi), hbinds.mono (fun _ _ hd => hd) fun _ hr => hr⟩
    · obtain ⟨v, hv, i, hi, hrest⟩ := hbound.reference r hr htype
      exact ⟨v, hv, i, (hmem i).mpr (Or.inl hi), hrest⟩
  · have hbacked := hs.backed b hb
    exact ⟨hbacked.request, hbacked.unique, hbacked.version⟩
  · exact ⟨i.consumedAt, Table.find?_create_of_find? (h := fun _ => rfl) hi, fun hne => hne⟩
  · cases l with
    | storageKey key =>
      intro hnone
      rw [uploadIntentByStorageKey_eq_none] at hnone ⊢
      intro i hi
      rcases (hmem i).mp hi with hi | rfl
      · exact hnone i hi
      · exact fun hkey => hl (congrArg Lock.storageKey hkey.symm)
    | uploadIntent id => exact fun i hi => Table.find?_create_of_find? (h := fun _ => rfl) hi
    | paymentReference paymentId => exact fun hnone => hnone
    | versionNumber documentId versionNumber => trivial
    | version id => trivial
    | cleanup uploadIntentId => trivial

/-! ### New versions -/

/-- One version is created, together with the request for its backup; other versions may lose
their place as the current one. -/
structure AddsVersion (config : Config) (v : DocumentVersion) (now : Time) (s s' : Store) :
    Prop where
  id : v.id = s.versions.next
  version : s'.versions.find? v.id = some v
  kept : ∀ id w, s.versions.find? id = some w →
    ∃ isCurrent, s'.versions.find? id = some { w with isCurrent }
  versions : ∀ w ∈ s'.versions, w = v ∨ ∃ w₀ ∈ s.versions, ∃ isCurrent, w = { w₀ with isCurrent }
  documents : ∀ id d, s.documents.find? id = some d → s'.documents.find? id = some d
  references : ∀ r ∈ s.references, r ∈ s'.references
  backups : s'.backupRequests =
    match config.bucket with
    | none => s.backupRequests
    | some bucket => s.backupRequests.create (backupRequestRow bucket v now) fun _ => rfl
  objects : s'.objects = s.objects

namespace AddsVersion

variable {v : DocumentVersion} {now : Time}

/-- The new version has its request for a backup. -/
theorem backed (h : AddsVersion config v now s s') {bucket : String} (hb : bucket ∈ config.bucket)
    (hs : Backed bucket s) : Backed bucket s' := by
  have hbucket : config.bucket = some bucket := hb
  have hbackups := h.backups
  rw [hbucket] at hbackups
  have hmem : ∀ q, q ∈ s'.backupRequests ↔
      q ∈ s.backupRequests ∨ q = backupRequestRow bucket v now s.backupRequests.next := by
    intro q
    rw [hbackups]
    exact Table.mem_create
  -- no request was for the version before it was created
  have hnew : ∀ q ∈ s.backupRequests, ¬ IsBackupOf bucket v.id q := by
    intro q hq hbackup
    have hsome := hs.version v.id q hq hbackup
    rw [Table.find?_of_next_le h.id.ge] at hsome
    cases hsome
  refine ⟨fun w hw => ?_, fun versionId q hq q' hq' hbackup hbackup' => ?_,
    fun versionId q hq hbackup => ?_⟩
  · rcases h.versions w hw with rfl | ⟨w₀, hw₀, isCurrent, rfl⟩
    · exact ⟨_, (hmem _).mpr (Or.inr rfl), ⟨rfl, rfl, rfl⟩, rfl, rfl, rfl⟩
    · obtain ⟨q, hq, hrest⟩ := hs.request w₀ hw₀
      exact ⟨q, (hmem q).mpr (Or.inl hq), hrest⟩
  · rcases (hmem q).mp hq with hq | rfl <;> rcases (hmem q').mp hq' with hq' | rfl
    · exact hs.unique versionId q hq q' hq' hbackup hbackup'
    · obtain rfl : v.id = versionId := hbackup'.2.2
      exact absurd hbackup (hnew q hq)
    · obtain rfl : v.id = versionId := hbackup.2.2
      exact absurd hbackup' (hnew q' hq')
    · rfl
  · rcases (hmem q).mp hq with hq | rfl
    · obtain ⟨w, hw⟩ := Option.isSome_iff_exists.mp (hs.version versionId q hq hbackup)
      obtain ⟨isCurrent, hw'⟩ := h.kept _ _ hw
      rw [hw']
      rfl
    · obtain rfl : v.id = versionId := hbackup.2.2
      rw [h.version]
      rfl

/-- An intent that is consumed for a version binds it, and no other. -/
theorem bound (h : AddsVersion config v now s s') (hs : Bound s)
    (hunique : Unique s) (hintents : KeepsIntents s s') {i i' : DocumentUploadIntent}
    (hi : i ∈ s.uploadIntents) (hfree : i.consumedAt = none) (hkey : i.storageKey = v.fileUrl)
    (hi' : i' ∈ s'.uploadIntents) (hbinds : Binds s' v i')
    (hnew : ∀ r ∈ s'.references, r.entityType = .payment → r ∈ s.references ∨
      (r.documentVersionId = v.id ∧ i'.purpose = .paymentReceipt ∧ i'.paymentId = some r.entityId)) :
    Bound s' := by
  -- a version that was there stems from another intent, since its intent was consumed
  have hfresh : ∀ w ∈ s.versions, w.fileUrl ≠ v.fileUrl := by
    intro w hw hurl
    obtain ⟨j, hj, hbinds⟩ := hs.intent w hw
    have hji : j = i :=
      hunique.storageKey j hj i hi (hbinds.storageKey.trans (hurl.trans hkey.symm))
    exact hbinds.consumed (hji ▸ hfree)
  refine ⟨fun w hw => ?_, fun w hw w' hw' hurl => ?_, fun r hr htype => ?_⟩
  · rcases h.versions w hw with rfl | ⟨w₀, hw₀, isCurrent, rfl⟩
    · exact ⟨i', hi', hbinds⟩
    · obtain ⟨j, hj, hbinds⟩ := hs.intent w₀ hw₀
      obtain ⟨consumedAt, hj', hconsumed⟩ := hintents j.id j (Table.find?_of_mem hj)
      have hbinds' := hbinds.mono h.documents h.references
      exact ⟨_, Table.mem_of_find? hj', hbinds'.storageKey, hconsumed hbinds.consumed,
        hbinds'.building, hbinds'.fileName, hbinds'.fileType, hbinds'.fileSize, hbinds'.purpose⟩
  · rcases h.versions w hw with rfl | ⟨w₀, hw₀, isCurrent, rfl⟩ <;>
      rcases h.versions w' hw' with rfl | ⟨w₀', hw₀', isCurrent', rfl⟩
    · rfl
    · exact absurd hurl.symm (hfresh w₀' hw₀')
    · exact absurd hurl (hfresh w₀ hw₀)
    · obtain rfl : w₀ = w₀' := hs.version w₀ hw₀ w₀' hw₀' hurl
      have hfound := Table.find?_of_mem hw
      have hfound' := Table.find?_of_mem hw'
      exact Option.some.inj (hfound.symm.trans hfound')
  · rcases hnew r hr htype with hr | ⟨hversion, hpurpose, hpayment⟩
    · obtain ⟨w, hw, j, hj, hjkey, hrest⟩ := hs.reference r hr htype
      obtain ⟨isCurrent, hw'⟩ := h.kept _ _ hw
      obtain ⟨consumedAt, hj', -⟩ := hintents j.id j (Table.find?_of_mem hj)
      exact ⟨_, hw', _, Table.mem_of_find? hj', hjkey, hrest⟩
    · exact ⟨v, hversion ▸ h.version, i', hi', hbinds.storageKey, hpurpose, hpayment⟩

/-- A new version keeps what is there. -/
theorem keeps (h : AddsVersion config v now s s') (hintents : KeepsIntents s s') : Keeps s s' :=
  ⟨hintents, h.documents, h.kept, h.references⟩

end AddsVersion

/-- What a transaction does before it creates a version: nothing but new documents, and other
versions that are no longer current. -/
structure Prepares (s s' : Store) : Prop where
  next : s'.versions.next = s.versions.next
  kept : ∀ id w, s.versions.find? id = some w →
    ∃ isCurrent, s'.versions.find? id = some { w with isCurrent }
  versions : ∀ w ∈ s'.versions, ∃ w₀ ∈ s.versions, ∃ isCurrent, w = { w₀ with isCurrent }
  documents : ∀ id d, s.documents.find? id = some d → s'.documents.find? id = some d
  references : s'.references = s.references
  backups : s'.backupRequests = s.backupRequests
  objects : s'.objects = s.objects

namespace Prepares

/-- A statement that leaves these tables alone. -/
theorem of_eq (hversions : s'.versions = s.versions)
    (hdocuments : ∀ id d, s.documents.find? id = some d → s'.documents.find? id = some d)
    (hreferences : s'.references = s.references) (hbackups : s'.backupRequests = s.backupRequests)
    (hobjects : s'.objects = s.objects) : Prepares s s' := by
  refine ⟨congrArg Table.next hversions, fun id w hw => ⟨w.isCurrent, hversions ▸ hw⟩,
    fun w hw => ⟨w, hversions ▸ hw, w.isCurrent, rfl⟩, hdocuments, hreferences, hbackups, hobjects⟩

/-- One that changes nothing. -/
theorem refl : Prepares s s := of_eq rfl (fun _ _ hd => hd) rfl rfl rfl

/-- Two statements in a row. -/
theorem trans {s'' : Store} (h : Prepares s s') (h' : Prepares s' s'') : Prepares s s'' := by
  refine ⟨h'.next.trans h.next, fun id w hw => ?_, fun w hw => ?_,
    fun id d hd => h'.documents id d (h.documents id d hd), h'.references.trans h.references,
    h'.backups.trans h.backups, h'.objects.trans h.objects⟩
  · obtain ⟨_, hw'⟩ := h.kept id w hw
    obtain ⟨isCurrent, hw''⟩ := h'.kept id _ hw'
    exact ⟨isCurrent, hw''⟩
  · obtain ⟨w', hw', _, rfl⟩ := h'.versions w hw
    obtain ⟨w₀, hw₀, _, rfl⟩ := h.versions w' hw'
    exact ⟨w₀, hw₀, _, rfl⟩

/-- A version that is added after such statements is added by the transaction. -/
theorem addsVersion {s'' : Store} {v : DocumentVersion} {now : Time} (h : Prepares s s')
    (h' : AddsVersion config v now s' s'') : AddsVersion config v now s s'' := by
  refine ⟨h'.id.trans h.next, h'.version, fun id w hw => ?_, fun w hw => ?_,
    fun id d hd => h'.documents id d (h.documents id d hd),
    fun r hr => h'.references r (h.references ▸ hr), ?_, h'.objects.trans h.objects⟩
  · obtain ⟨_, hw'⟩ := h.kept id w hw
    obtain ⟨isCurrent, hw''⟩ := h'.kept id _ hw'
    exact ⟨isCurrent, hw''⟩
  · rcases h'.versions w hw with rfl | ⟨w', hw', _, rfl⟩
    · exact Or.inl rfl
    · obtain ⟨w₀, hw₀, _, rfl⟩ := h.versions w' hw'
      exact Or.inr ⟨w₀, hw₀, _, rfl⟩
  · have hbackups := h'.backups
    rwa [h.backups] at hbackups

/-- One version is no longer current. -/
theorem supersede (id : ℕ) :
    Prepares s (s.onVersions (·.modify id superseded superseded_id)) := by
  refine ⟨rfl, fun id' w hw => ?_, fun w hw => ?_, fun _ _ hd => hd, rfl, rfl, rfl⟩
  · rw [Store.onVersions_versions, Table.find?_modify, hw]
    split
    · exact ⟨false, rfl⟩
    · exact ⟨w.isCurrent, rfl⟩
  · rw [Store.onVersions_versions, Table.mem_modify] at hw
    obtain ⟨w₀, hw₀, rfl⟩ := hw
    refine ⟨w₀, hw₀, ?_⟩
    split
    · exact ⟨false, rfl⟩
    · exact ⟨w₀.isCurrent, rfl⟩

end Prepares

/-- `createVersion` adds the version. -/
theorem addsVersion_createVersion (config : Config) (file : FileParams) (documentId versionNumber : ℕ) (now : Time) :
    AddsVersion config (file.row documentId versionNumber now s.versions.next) now s
      (createVersion config file documentId versionNumber now s) := by
  have hversions : (createVersion config file documentId versionNumber now s).versions =
      s.versions.create (file.row documentId versionNumber now) fun _ => rfl := by
    rw [createVersion, enqueueDocumentBackup_versions]
    rfl
  have hdocuments : (createVersion config file documentId versionNumber now s).documents =
      s.documents := by
    rw [createVersion, enqueueDocumentBackup_documents]
    rfl
  have hreferences : (createVersion config file documentId versionNumber now s).references =
      s.references := by
    rw [createVersion, enqueueDocumentBackup_references]
    rfl
  have hobjects : (createVersion config file documentId versionNumber now s).objects =
      s.objects := by
    rw [createVersion, enqueueDocumentBackup_objects]
    rfl
  refine ⟨rfl, ?_, fun id w hw => ?_, fun w hw => ?_, fun id d hd => hdocuments ▸ hd,
    fun r hr => hreferences ▸ hr, ?_, hobjects⟩
  · have hmem : file.row documentId versionNumber now s.versions.next ∈
        s.versions.create (file.row documentId versionNumber now) fun _ => rfl :=
      Table.mem_create.mpr (Or.inr rfl)
    rw [hversions]
    exact Table.find?_of_mem hmem
  · rw [hversions]
    exact ⟨w.isCurrent, Table.find?_create_of_find? hw⟩
  · rw [hversions] at hw
    rcases Table.mem_create.mp hw with hw | rfl
    · exact Or.inr ⟨w, hw, w.isCurrent, rfl⟩
    · exact Or.inl rfl
  · rw [createVersion]
    cases config.bucket <;> rfl

/-- The version of a new document. -/
theorem addsVersion_createFirstVersion (config : Config) (document : DocumentParams)
    (file : FileParams) (now : Time) :
    AddsVersion config (file.row s.documents.next 1 now s.versions.next) now s
      (createFirstVersion config document file now s) := by
  have hprepares : Prepares s (s.onDocuments (·.create (document.row now) fun _ => rfl)) :=
    .of_eq rfl (fun id d hd => Table.find?_create_of_find? (h := fun _ => rfl) hd) rfl rfl rfl
  have hcreates : AddsVersion config (file.row s.documents.next 1 now s.versions.next) now
      (s.onDocuments (·.create (document.row now) fun _ => rfl))
      (createFirstVersion config document file now s) :=
    addsVersion_createVersion (s := s.onDocuments (·.create (document.row now) fun _ => rfl)) config
      file s.documents.next 1 now
  exact hprepares.addsVersion hcreates

/-! ### Consumed intents -/

/-- What consuming an intent, if there is one, makes of the store. -/
def consumedIn (uploadIntentId : Option ℕ) (now : Time) (s : Store) : Store :=
  match uploadIntentId with
  | some uploadIntentId =>
    s.onUploadIntents (·.modify uploadIntentId (consumed now) (consumed_id now))
  | none => s

/-- The use of an intent leaves these tables alone. -/
theorem prepares_consumedIn (uploadIntentId : Option ℕ) (now : Time) (s : Store) :
    Prepares s (consumedIn uploadIntentId now s) := by
  cases uploadIntentId with
  | none => exact .refl
  | some uploadIntentId => exact .of_eq rfl (fun _ _ hd => hd) rfl rfl rfl

/-- The use of an intent changes no document. -/
@[simp] theorem consumedIn_documents (uploadIntentId : Option ℕ) (now : Time) (s : Store) :
    (consumedIn uploadIntentId now s).documents = s.documents := by
  cases uploadIntentId <;> rfl

/-- It changes no reference. -/
@[simp] theorem consumedIn_references (uploadIntentId : Option ℕ) (now : Time) (s : Store) :
    (consumedIn uploadIntentId now s).references = s.references := by
  cases uploadIntentId <;> rfl

section Consumed

variable {uploadIntentId : Option ℕ} {now : Time}

/-- The intent that is found afterwards. -/
theorem find?_consumedIn {id : ℕ} :
    (consumedIn uploadIntentId now s).uploadIntents.find? id =
      (s.uploadIntents.find? id).map fun i =>
        if uploadIntentId = some id then consumed now i else i := by
  cases uploadIntentId with
  | none => simp [consumedIn]
  | some uploadIntentId =>
    rw [consumedIn, Store.onUploadIntents_uploadIntents, Table.find?_modify]
    by_cases hid : id = uploadIntentId
    · simp [hid]
    · simp [hid, Ne.symm hid]

/-- An intent afterwards is one before, but for the time of its use. -/
theorem mem_consumedIn {i : DocumentUploadIntent}
    (hi : i ∈ (consumedIn uploadIntentId now s).uploadIntents) :
    ∃ i₀ ∈ s.uploadIntents, ∃ consumedAt, i = { i₀ with consumedAt } := by
  have hfound := Table.find?_of_mem hi
  rw [find?_consumedIn, Option.map_eq_some_iff] at hfound
  obtain ⟨i₀, hi₀, heq⟩ := hfound
  refine ⟨i₀, Table.mem_of_find? hi₀, ?_⟩
  rw [← heq]
  split
  · exact ⟨some now, rfl⟩
  · exact ⟨i₀.consumedAt, rfl⟩

/-- The use of an intent keeps the intents. -/
theorem keepsIntents_consumedIn (h : s'.uploadIntents = (consumedIn uploadIntentId now s).uploadIntents) :
    KeepsIntents s s' := by
  intro id i hi
  rw [h, find?_consumedIn, hi, Option.map_some]
  split
  · exact ⟨some now, rfl, fun _ => Option.some_ne_none now⟩
  · exact ⟨i.consumedAt, rfl, fun hne => hne⟩

end Consumed

/-- The intent, which has not been consumed yet, is one for the version. -/
structure Fits (s' : Store) (v : DocumentVersion) (i : DocumentUploadIntent) : Prop where
  free : i.consumedAt = none
  storageKey : i.storageKey = v.fileUrl
  building : ∃ d, s'.documents.find? v.documentId = some d ∧ d.buildingId = i.buildingId
  fileName : v.fileName = i.fileName
  fileType : v.fileType = i.fileType.toUpper
  fileSize : v.fileSize = i.fileSize
  purpose : Purposed s' v i

/-- A version is created, under the intent that is consumed for it when the storage is configured,
and maybe a reference to the payment that it is the receipt of. -/
theorem commits_addsVersion (receipt : Option DocumentReference) {v : DocumentVersion} {now : Time}
    {uploadIntentId : Option ℕ} (hs : Consistent config s)
    (hadds : AddsVersion config v now s s')
    (hintents : s'.uploadIntents = (consumedIn uploadIntentId now s).uploadIntents)
    (hreferences : ∀ r, r ∈ s'.references ↔ r ∈ s.references ∨ r ∈ receipt)
    (hreceipt : ∀ r ∈ receipt, r.documentVersionId = v.id ∧ r.entityType = .payment ∧
      s.paymentReceiptReference r.entityId = none)
    (hfits : config.storageConfigured = true → ∃ i, uploadIntentId = some i.id ∧
      s.uploadIntents.find? i.id = some i ∧ Fits s' v i ∧
      ∀ r ∈ receipt, i.purpose = .paymentReceipt ∧ i.paymentId = some r.entityId) :
    Commits config
      (fun l => (∃ id ∈ uploadIntentId, l = .uploadIntent id) ∨
        ∃ r ∈ receipt, l = .paymentReference r.entityId) s s' := by
  have hkeeps : KeepsIntents s s' := keepsIntents_consumedIn hintents
  refine ⟨⟨⟨?_, ?_, ?_⟩, fun hconfigured => ?_, fun b hb => hadds.backed hb (hs.backed b hb)⟩,
    hadds.keeps hkeeps, fun key hkey => hadds.objects ▸ hkey, fun l hl => ?_⟩
  · -- the keys of the intents
    intro i hi i' hi' hkey
    rw [hintents] at hi hi'
    obtain ⟨i₀, hi₀, t, rfl⟩ := mem_consumedIn hi
    obtain ⟨i₀', hi₀', t', rfl⟩ := mem_consumedIn hi'
    obtain rfl : i₀ = i₀' := hs.unique.storageKey i₀ hi₀ i₀' hi₀' hkey
    exact Option.some.inj ((Table.find?_of_mem hi).symm.trans (Table.find?_of_mem hi'))
  · -- the payments with a receipt
    intro r hr r' hr' htype htype' hentity
    rcases (hreferences r).mp hr with hr | hr <;> rcases (hreferences r').mp hr' with hr' | hr'
    · exact hs.unique.receipt r hr r' hr' htype htype' hentity
    · have hnone := (hreceipt r' hr').2.2
      rw [paymentReceiptReference_eq_none] at hnone
      exact absurd hentity (hnone r hr htype)
    · have hnone := (hreceipt r hr).2.2
      rw [paymentReceiptReference_eq_none] at hnone
      exact absurd hentity.symm (hnone r' hr' htype')
    · exact Option.mem_unique hr hr'
  -- the versions of the references
  · intro r hr
    rcases (hreferences r).mp hr with hr | hr
    · obtain ⟨w, hw⟩ := Option.isSome_iff_exists.mp (hs.unique.version r hr)
      obtain ⟨isCurrent, hw'⟩ := hadds.kept _ _ hw
      rw [hw']
      rfl
    · rw [(hreceipt r hr).1, hadds.version]
      rfl
  -- with storage configured, the new version is bound to the intent it has consumed
  · obtain ⟨i, hid, hi, hfits, hpurpose⟩ := hfits hconfigured
    have hi' : s'.uploadIntents.find? i.id = some (consumed now i) := by
      rw [hintents, find?_consumedIn, hi, Option.map_some, if_pos hid]
    refine hadds.bound (hs.bound hconfigured) hs.unique hkeeps (Table.mem_of_find? hi) hfits.free
      hfits.storageKey (Table.mem_of_find? hi') ⟨hfits.storageKey, Option.some_ne_none now,
        hfits.building, hfits.fileName, hfits.fileType, hfits.fileSize, hfits.purpose⟩
      fun r hr htype => ?_
    rcases (hreferences r).mp hr with hr | hr
    · exact Or.inl hr
    · exact Or.inr ⟨(hreceipt r hr).1, hpurpose r hr⟩
  -- what the locks that are not held protect is left as it was
  · cases l with
    | uploadIntent id =>
      intro i hi
      have hid : uploadIntentId ≠ some id := fun hid => hl (Or.inl ⟨id, hid, rfl⟩)
      rw [hintents, find?_consumedIn, hi, Option.map_some, if_neg hid]
    | storageKey key =>
      intro hnone
      rw [uploadIntentByStorageKey_eq_none] at hnone ⊢
      intro i hi
      rw [hintents] at hi
      obtain ⟨i₀, hi₀, t, rfl⟩ := mem_consumedIn hi
      exact hnone i₀ hi₀
    | paymentReference paymentId =>
      intro hnone
      rw [paymentReceiptReference_eq_none] at hnone ⊢
      intro r hr htype
      rcases (hreferences r).mp hr with hr | hr
      · exact hnone r hr htype
      · exact fun hentity => hl (Or.inr ⟨r, hr, congrArg Lock.paymentReference hentity.symm⟩)
    | versionNumber documentId versionNumber => trivial
    | version id => trivial
    | cleanup id => trivial

/-- A reference on the version that was created. -/
theorem AddsVersion.reference {v : DocumentVersion} {now : Time}
    (h : AddsVersion config v now s s') (mk : ℕ → DocumentReference) (hmk : ∀ n, (mk n).id = n) :
    AddsVersion config v now s (s'.onReferences (·.create mk hmk)) :=
  ⟨h.id, h.version, h.kept, h.versions, h.documents,
    fun r hr => (Table.mem_create (h := hmk)).mpr (Or.inl (h.references r hr)), h.backups, h.objects⟩

/-- A commit that touches no table. -/
theorem commits_setObject (key : String) (object : Option (List UInt8)) (hs : Consistent config s) :
    Consistent config (s.setObject key object) ∧ Keeps s (s.setObject key object) ∧
      ∀ l, sameFor l s (s.setObject key object) := by
  refine ⟨⟨⟨hs.unique.storageKey, hs.unique.receipt, hs.unique.version⟩, fun hconfigured => ?_,
    fun b hb => ?_⟩, ⟨.of_eq rfl, fun _ _ hd => hd, fun _ v hv => ⟨v.isCurrent, hv⟩,
    fun _ hr => hr⟩, fun l => sameFor_of_eq rfl rfl⟩
  · have hbound := hs.bound hconfigured
    refine ⟨fun v hv => ?_, hbound.version, hbound.reference⟩
    obtain ⟨i, hi, hbinds⟩ := hbound.intent v hv
    exact ⟨i, hi, hbinds.mono (fun _ _ hd => hd) fun _ hr => hr⟩
  · have hbacked := hs.backed b hb
    exact ⟨hbacked.request, hbacked.unique, hbacked.version⟩

end VielHome.Documents
