import Mathlib.Data.List.Infix
import VielHome.Documents.Policies
import VielHome.Relational.OrderBy

/-!
# `DocumentRepository`

The reads of the documents, and the transactions that write them. A version is created together
with the request for its backup, and its upload intent is consumed in the same transaction. A row
that refers to one created in the same transaction takes the id that is next when the writes are
applied.
-/

namespace VielHome.Documents

open Relational Community
open Backup (ObjectBackupRequest)
open Relational.ReadCommitted (Prog)
open Relational.ReadCommitted.Prog (claim expect query transaction updateMany write writeUnless)

variable (s : Store)

/-! ### Reads -/

namespace Store

/-- `findUploadIntentByStorageKey`. -/
def uploadIntentByStorageKey (storageKey : String) : Option DocumentUploadIntent :=
  s.uploadIntents.rows.find? fun i => i.storageKey = storageKey

/-- The intent is there and not consumed. -/
def isUnconsumed (uploadIntentId : ℕ) : Bool :=
  (s.uploadIntents.find? uploadIntentId).any fun i => i.consumedAt = none

/-- The versions of a document. -/
def versionsOf (documentId : ℕ) : List DocumentVersion :=
  s.versions.rows.filter fun v => v.documentId = documentId

/-- `getCurrentVersion`. -/
def currentVersion (documentId : ℕ) : Option DocumentVersion :=
  s.versions.rows.find? fun v => v.documentId = documentId ∧ v.isCurrent = true

/-- The greatest version number of a document, or 0. -/
def latestVersionNumber (documentId : ℕ) : ℕ :=
  ((s.versionsOf documentId).map DocumentVersion.versionNumber).foldr max 0

/-- `findVersionWithDocument`. -/
def versionWithDocument (versionId : ℕ) : Option (DocumentVersion × Document) := do
  let version ← s.versions.find? versionId
  let document ← s.documents.find? version.documentId
  some (version, document)

/-- The references on the versions of a document. -/
def referencesOf (documentId : ℕ) : List DocumentReference :=
  s.references.rows.filter fun r =>
    (s.versions.find? r.documentVersionId).any fun v => v.documentId = documentId

/-- What the references of a type on the versions of a document point to, each target once. -/
def referenceTargets (entityType : DocumentReferenceEntityType) (documentId : ℕ) : List ℕ :=
  (((s.referencesOf documentId).filter fun r => r.entityType = entityType).map
    DocumentReference.entityId).dedup

/-- `listCaseReferenceTargetsForDocument`. -/
def caseReferenceTargets (documentId : ℕ) : List ℕ := s.referenceTargets .case documentId

/-- `listPaymentReferenceTargetsForDocument`. -/
def paymentReferenceTargets (documentId : ℕ) : List ℕ := s.referenceTargets .payment documentId

/-- `findPaymentReceiptReference`. -/
def paymentReceiptReference (paymentId : ℕ) : Option DocumentReference :=
  s.references.rows.find? fun r => r.entityType = .payment ∧ r.entityId = paymentId

end Store

/-! ### Lists of documents -/

/-- `skip` and `take` of a page. -/
structure SkipTake where
  skip : ℕ
  take : ℕ

/-- The rows of a page, and the number of all that match. -/
structure Page (α : Type) where
  items : List α
  total : ℕ
  deriving DecidableEq

/-- The rows that are asked for, and how many there are in all. -/
def Page.of {α : Type} (matching : List α) (pagination : SkipTake) : Page α where
  items := (matching.drop pagination.skip).take pagination.take
  total := matching.length

/-- The newest document first, and of two that are equally old the one with the greater id. -/
def newestFirst : Document → Document → Prop :=
  ThenBy (fun d d' => d'.createdAt ≤ d.createdAt) fun d d' => d'.id ≤ d.id

instance : DecidableRel newestFirst :=
  inferInstanceAs (DecidableRel (ThenBy _ _))

/-- The greatest version number first, and of two equal ones the one with the greater id. -/
def latestFirst : DocumentVersion → DocumentVersion → Prop :=
  ThenBy (fun v v' => v'.versionNumber ≤ v.versionNumber) fun v v' => v'.id ≤ v.id

instance : DecidableRel latestFirst :=
  inferInstanceAs (DecidableRel (ThenBy _ _))

/-- `buildVisibilityCondition`. -/
def visibilityCondition (privileged : Bool) (requestedVisibility : Option DocumentVisibility)
    (d : Document) : Bool :=
  (∀ visibility ∈ requestedVisibility, d.visibility = visibility) ∧
    (privileged = true ∨ d.visibility ≠ .managementOnly)

/-- What a list of documents may be narrowed to. -/
structure DocumentFilter where
  category : Option DocumentCategory := none
  visibility : Option DocumentVisibility := none
  status : Option DocumentStatus := none

/-- What documents are searched by. -/
structure DocumentSearch where
  title : Option String := none
  category : Option DocumentCategory := none
  tags : List String := []

/-- The title contains the text, whether in upper or in lower case. -/
def contains (title text : String) : Bool := text.toLower.toList <:+: title.toLower.toList

namespace DocumentRepository

/-- `listDocuments`: the documents of a building, the newest first. -/
def listDocuments (buildingId : ℕ) (filter : DocumentFilter) (privileged : Bool)
    (pagination : SkipTake) (s : Store) : Page Document :=
  .of ((s.documents.rows.filter fun d => d.buildingId = buildingId ∧
    (∀ category ∈ filter.category, d.category = category) ∧
    (∀ status ∈ filter.status, d.status = status) ∧
    visibilityCondition privileged filter.visibility d).insertionSort newestFirst) pagination

/-- `searchDocuments`: those with a title, a category, or one of some tags. -/
def searchDocuments (buildingId : ℕ) (params : DocumentSearch) (privileged : Bool)
    (pagination : SkipTake) (s : Store) : Page Document :=
  .of ((s.documents.rows.filter fun d => d.buildingId = buildingId ∧
    (∀ title ∈ params.title, title = "" ∨ contains d.title title = true) ∧
    (∀ category ∈ params.category, d.category = category) ∧
    (params.tags = [] ∨ ∃ tag ∈ params.tags, tag ∈ d.tags) ∧
    visibilityCondition privileged none d).insertionSort newestFirst) pagination

/-- What is selected of a version: all but its key and who uploaded it. -/
structure VersionListing where
  id : ℕ
  documentId : ℕ
  versionNumber : ℕ
  fileName : String
  fileType : String
  fileSize : ℕ
  uploadedAt : Time
  isCurrent : Bool
  expiresAt : Option Time
  deriving DecidableEq

/-- A version as it is listed. -/
def VersionListing.of (v : DocumentVersion) : VersionListing where
  id := v.id
  documentId := v.documentId
  versionNumber := v.versionNumber
  fileName := v.fileName
  fileType := v.fileType
  fileSize := v.fileSize
  uploadedAt := v.uploadedAt
  isCurrent := v.isCurrent
  expiresAt := v.expiresAt

/-- `listDocumentVersions`: the versions of a document, the latest first. -/
def listDocumentVersions (documentId : ℕ) (pagination : SkipTake) (s : Store) :
    Page VersionListing :=
  .of (((s.versionsOf documentId).insertionSort latestFirst).map VersionListing.of) pagination

/-- A reference with its version and its document. -/
structure AttachedDocument where
  reference : DocumentReference
  documentVersion : DocumentVersion
  document : Document
  deriving DecidableEq

/-- `listReferencesForEntity`, the newest reference first. -/
def listReferencesForEntity (entityType : DocumentReferenceEntityType) (entityId : ℕ) (s : Store) :
    List AttachedDocument :=
  ((s.references.rows.filter fun r => r.entityType = entityType ∧ r.entityId = entityId).insertionSort
    fun r r' => r'.createdAt ≤ r.createdAt).filterMap fun r =>
      (s.versionWithDocument r.documentVersionId).map fun (version, document) =>
        ⟨r, version, document⟩

/-! ### Rows -/

/-- What an intent to upload is made from. -/
structure UploadIntentParams where
  buildingId : ℕ
  storageKey : String
  requestedById : ℕ
  purpose : DocumentUploadPurpose
  documentId : Option ℕ := none
  paymentId : Option ℕ := none
  fileName : String
  fileType : String
  fileSize : ℕ
  expiresAt : Time

/-- The intent as it is stored, still to be used. -/
def UploadIntentParams.row (params : UploadIntentParams) (id : ℕ) : DocumentUploadIntent where
  id := id
  buildingId := params.buildingId
  storageKey := params.storageKey
  requestedById := params.requestedById
  purpose := params.purpose
  documentId := params.documentId
  paymentId := params.paymentId
  fileName := params.fileName
  fileType := params.fileType
  fileSize := params.fileSize
  expiresAt := params.expiresAt

/-- What a document is made from. -/
structure DocumentParams where
  buildingId : ℕ
  category : DocumentCategory
  title : String
  description : Option String := none
  tags : List String := []
  visibility : DocumentVisibility
  createdById : ℕ

/-- The document as it is stored. -/
def DocumentParams.row (params : DocumentParams) (now : Time) (id : ℕ) : Document where
  id := id
  buildingId := params.buildingId
  category := params.category
  title := params.title
  description := params.description
  tags := params.tags
  visibility := params.visibility
  createdById := params.createdById
  createdAt := now

/-- The file of a version. -/
structure FileParams where
  fileUrl : String
  fileName : String
  fileType : String
  fileSize : ℕ
  uploadedById : ℕ
  expiresAt : Option Time := none

/-- The version that a file becomes, the current one. -/
def FileParams.row (params : FileParams) (documentId versionNumber : ℕ) (now : Time) (id : ℕ) :
    DocumentVersion where
  id := id
  documentId := documentId
  versionNumber := versionNumber
  fileUrl := params.fileUrl
  fileName := params.fileName
  fileType := params.fileType.toUpper
  fileSize := params.fileSize
  uploadedById := params.uploadedById
  uploadedAt := now
  expiresAt := params.expiresAt

/-- The row that attaches a version to something. -/
def referenceRow (documentVersionId : ℕ) (entityType : DocumentReferenceEntityType) (entityId : ℕ)
    (now : Time) (id : ℕ) : DocumentReference where
  id := id
  documentVersionId := documentVersionId
  entityType := entityType
  entityId := entityId
  createdAt := now

/-- What `enqueueDocumentBackup` asks for. -/
def backupRequestRow (bucket : String) (version : DocumentVersion) (now : Time) (id : ℕ) :
    ObjectBackupRequest where
  id := id
  sourceBucket := bucket
  sourceKey := version.fileUrl
  referenceType := "DOCUMENT_VERSION"
  referenceId := version.id
  expectedSize := some version.fileSize
  nextAttemptAt := now
  finalizedAt := version.uploadedAt

/-- The intent has been used. -/
def consumed (now : Time) (i : DocumentUploadIntent) : DocumentUploadIntent :=
  { i with consumedAt := some now }

theorem consumed_id (now : Time) (i : DocumentUploadIntent) : (consumed now i).id = i.id := rfl

/-- The document is read-only from now on. -/
def archived (d : Document) : Document := { d with status := .archived }

theorem archived_id (d : Document) : (archived d).id = d.id := rfl

/-- The version is no longer the current one. -/
def superseded (v : DocumentVersion) : DocumentVersion := { v with isCurrent := false }

theorem superseded_id (v : DocumentVersion) : (superseded v).id = v.id := rfl

/-! ### Writes -/

/-- `enqueueDocumentBackup`, as a write of the transaction that creates the version. The version is
new, so that the unique index has nothing to refuse. `Backup.enqueueDocumentBackup` is the same
function for the runners, who look at the requests alone: there it is a call of its own, and its
rows have the columns that a runner writes. -/
def enqueueDocumentBackup (bucket : Option String) (version : DocumentVersion) (now : Time)
    (s : Store) : Store :=
  match bucket with
  | none => s
  | some bucket => s.onBackupRequests (·.create (backupRequestRow bucket version now) fun _ => rfl)

section Enqueue

variable {bucket : Option String} {version : DocumentVersion} {now : Time} {s : Store}

@[simp] theorem enqueueDocumentBackup_documents :
    (enqueueDocumentBackup bucket version now s).documents = s.documents := by
  cases bucket <;> rfl

@[simp] theorem enqueueDocumentBackup_versions :
    (enqueueDocumentBackup bucket version now s).versions = s.versions := by
  cases bucket <;> rfl

@[simp] theorem enqueueDocumentBackup_references :
    (enqueueDocumentBackup bucket version now s).references = s.references := by
  cases bucket <;> rfl

@[simp] theorem enqueueDocumentBackup_uploadIntents :
    (enqueueDocumentBackup bucket version now s).uploadIntents = s.uploadIntents := by
  cases bucket <;> rfl

@[simp] theorem enqueueDocumentBackup_objects :
    (enqueueDocumentBackup bucket version now s).objects = s.objects := by
  cases bucket <;> rfl

end Enqueue

/-- Create a version, and the request for its backup. -/
def createVersion (config : Config) (params : FileParams) (documentId versionNumber : ℕ)
    (now : Time) (s : Store) : Store :=
  enqueueDocumentBackup config.bucket (params.row documentId versionNumber now s.versions.next) now
    (s.onVersions (·.create (params.row documentId versionNumber now) fun _ => rfl))

/-- Create a document and its first version. -/
def createFirstVersion (config : Config) (document : DocumentParams) (file : FileParams)
    (now : Time) (s : Store) : Store :=
  createVersion config file s.documents.next 1 now
    (s.onDocuments (·.create (document.row now) fun _ => rfl))

section Create

variable {config : Config} {document : DocumentParams} {file : FileParams} {now : Time} {s : Store}
  {documentId versionNumber : ℕ}

@[simp] theorem createVersion_documents :
    (createVersion config file documentId versionNumber now s).documents = s.documents :=
  enqueueDocumentBackup_documents

@[simp] theorem createVersion_references :
    (createVersion config file documentId versionNumber now s).references = s.references :=
  enqueueDocumentBackup_references

@[simp] theorem createVersion_uploadIntents :
    (createVersion config file documentId versionNumber now s).uploadIntents = s.uploadIntents :=
  enqueueDocumentBackup_uploadIntents

@[simp] theorem createFirstVersion_documents :
    (createFirstVersion config document file now s).documents =
      s.documents.create (document.row now) fun _ => rfl :=
  createVersion_documents

@[simp] theorem createFirstVersion_references :
    (createFirstVersion config document file now s).references = s.references :=
  createVersion_references

@[simp] theorem createFirstVersion_uploadIntents :
    (createFirstVersion config document file now s).uploadIntents = s.uploadIntents :=
  createVersion_uploadIntents

end Create

/-- Create a document, its first version, and the reference on that version. -/
def createReceipt (config : Config) (document : DocumentParams) (file : FileParams)
    (paymentId : ℕ) (now : Time) (s : Store) : Store :=
  (createFirstVersion config document file now s).onReferences
    (·.create (referenceRow s.versions.next .payment paymentId now) fun _ => rfl)

/-! ### Transactions -/

/-- `createUploadIntent`: one intent for a storage key. -/
def createUploadIntent (params : UploadIntentParams) : Call PUnit :=
  transaction (writeUnless [(.storageKey params.storageKey, .exclusive)]
    (fun s => if (s.uploadIntentByStorageKey params.storageKey).isSome then some .uniqueConstraint
      else none)
    fun s => s.onUploadIntents (·.create params.row fun _ => rfl))

/-- `consumeUploadIntent`: a compare-and-set on the time of its use. -/
def consumeUploadIntent (uploadIntentId : ℕ) (now : Time) : Call PUnit :=
  claim (.uploadIntent uploadIntentId) (fun s => s.isUnconsumed uploadIntentId)
    (.conflict "This upload intent has already been used (possibly by a concurrent request) or no longer exists.")
    fun s => s.onUploadIntents (·.modify uploadIntentId (consumed now) (consumed_id now))

/-- Consume the intent, when there is one. -/
def consumeIfAny (uploadIntentId : Option ℕ) (now : Time) : Call PUnit :=
  match uploadIntentId with
  | some uploadIntentId => consumeUploadIntent uploadIntentId now
  | none => pure ⟨⟩

/-- `createDocumentWithFirstVersion`: the intent is used up, and there are a document and its first
version. -/
def createDocumentWithFirstVersion (config : Config) (document : DocumentParams)
    (file : FileParams) (uploadIntentId : Option ℕ) (now : Time) : Call PUnit :=
  transaction do
    consumeIfAny uploadIntentId now
    write [] (createFirstVersion config document file now)

/-- `addVersion`: the intent is used up, the current version gives way to a new one. -/
def addVersion (config : Config) (documentId : ℕ) (file : FileParams)
    (uploadIntentId : Option ℕ) (now : Time) : Call PUnit :=
  transaction do
    consumeIfAny uploadIntentId now
    let latest ← query fun s => s.latestVersionNumber documentId
    updateMany
      (fun s => ((s.versionsOf documentId).filter DocumentVersion.isCurrent).map DocumentVersion.id)
      Lock.version (fun id s => (s.versions.find? id).any DocumentVersion.isCurrent)
      fun id s => s.onVersions (·.modify id superseded superseded_id)
    writeUnless [(.versionNumber documentId (latest + 1), .exclusive)]
      (fun s => if (s.versionsOf documentId).any fun v => v.versionNumber = latest + 1 then
          some .uniqueConstraint
        else if (s.documents.find? documentId).isNone then some .foreignKey
        else none)
      (createVersion config file documentId (latest + 1) now)

/-- `archiveDocument`: an update by the id. -/
def archiveDocument (documentId : ℕ) : Call Document :=
  transaction do
    writeUnless []
      (fun s => if (s.documents.find? documentId).isNone then some .recordNotFound else none)
      fun s => s.onDocuments (·.modify documentId archived archived_id)
    let updated ← query fun s => s.documents.find? documentId
    expect updated .recordNotFound

/-- `createReference`: an insertion, whose foreign key is checked. -/
def createReference (documentVersionId : ℕ) (entityType : DocumentReferenceEntityType)
    (entityId : ℕ) (now : Time) : Call PUnit :=
  transaction (writeUnless []
    (fun s => if (s.versions.find? documentVersionId).isNone then some .foreignKey else none)
    fun s => s.onReferences
      (·.create (referenceRow documentVersionId entityType entityId now) fun _ => rfl))

/-- The document of a receipt. -/
def receiptDocument (buildingId createdById : ℕ) (fileName : String) : DocumentParams where
  buildingId := buildingId
  category := .financial
  visibility := .membersOnly
  title := s!"Payment receipt — {fileName}"
  createdById := createdById

/-- `createPaymentReceipt`: the document, its version and the reference to the payment, of which
there is one. -/
def createPaymentReceipt (config : Config) (buildingId paymentId : ℕ) (file : FileParams)
    (uploadIntentId : ℕ) (now : Time) : Call PUnit :=
  transaction do
    consumeUploadIntent uploadIntentId now
    writeUnless [(.paymentReference paymentId, .exclusive)]
      (fun s => if (s.paymentReceiptReference paymentId).isSome then some .uniqueConstraint else none)
      (createReceipt config (receiptDocument buildingId file.uploadedById file.fileName) file
        paymentId now)

end DocumentRepository

end VielHome.Documents
