import VielHome.Backup.Schema
import VielHome.Cases.Schema
import VielHome.Finance.Schema

/-!
# The tables of the documents

The documents of a building, their versions, what the versions are attached to, the intents
under which files are uploaded, and the objects of the storage. A payment, a case and a backup
request are rows of their own modules. Columns that no modelled operation reads or writes are
left out.
-/

namespace VielHome.Documents

open Relational Community
open Relational.ReadCommitted (Database Event Mode Prog)
open Backup (ObjectBackupRequest)
open Finance (Payment)

/-- What a document is about. -/
inductive DocumentCategory
  | governance
  | financial
  | legal
  | maintenance
  | general
  deriving DecidableEq

/-- Who a document is shown to. -/
inductive DocumentVisibility
  | publicDocument
  | membersOnly
  | managementOnly
  deriving DecidableEq

/-- Whether a document is still changed. -/
inductive DocumentStatus
  | active
  | archived
  deriving DecidableEq

/-- What a document may be attached to. -/
inductive DocumentReferenceEntityType
  | building
  | unit
  | vote
  | chargeBatch
  | payment
  | case
  | serviceProvider
  | supportCase
  | meeting
  | expense
  deriving DecidableEq

/-- What a file is uploaded for. -/
inductive DocumentUploadPurpose
  | createDocument
  | createVersion
  | paymentReceipt
  deriving DecidableEq

/-- A document of a building. -/
structure Document where
  id : ℕ
  buildingId : ℕ
  category : DocumentCategory
  title : String
  description : Option String := none
  tags : List String := []
  visibility : DocumentVisibility := .membersOnly
  status : DocumentStatus := .active
  createdById : ℕ
  createdAt : Time
  deriving DecidableEq

/-- A file of a document. -/
structure DocumentVersion where
  id : ℕ
  documentId : ℕ
  versionNumber : ℕ
  fileUrl : String
  fileName : String
  fileType : String
  fileSize : ℕ
  uploadedById : ℕ
  isCurrent : Bool := true
  uploadedAt : Time
  expiresAt : Option Time := none
  deriving DecidableEq

/-- A version is attached to something. -/
structure DocumentReference where
  id : ℕ
  documentVersionId : ℕ
  entityType : DocumentReferenceEntityType
  entityId : ℕ
  createdAt : Time
  deriving DecidableEq

/-- A file is going to be uploaded. -/
structure DocumentUploadIntent where
  id : ℕ
  buildingId : ℕ
  storageKey : String
  requestedById : ℕ
  purpose : DocumentUploadPurpose
  documentId : Option ℕ := none
  paymentId : Option ℕ := none
  fileName : String
  fileType : String
  fileSize : ℕ
  expiresAt : Time
  consumedAt : Option Time := none
  deriving DecidableEq

/-- The tables of the cases, those of the documents with what they are attached to, and the
objects of the storage by their keys. -/
structure Store extends casesStore : Cases.Store where
  payments : Table Payment Payment.id
  documents : Table Document Document.id
  versions : Table DocumentVersion DocumentVersion.id
  references : Table DocumentReference DocumentReference.id
  uploadIntents : Table DocumentUploadIntent DocumentUploadIntent.id
  backupRequests : Table ObjectBackupRequest ObjectBackupRequest.id
  objects : String → Option (List UInt8)

/-- The store before anything happened. -/
def Store.empty : Store where
  casesStore := Cases.Store.empty
  payments := .empty
  documents := .empty
  versions := .empty
  references := .empty
  uploadIntents := .empty
  backupRequests := .empty
  objects _ := none

/-! ### Writes to one table -/

namespace Store

/-- A change of the documents. -/
@[simps documents versions references uploadIntents backupRequests objects]
def onDocuments (f : Table Document Document.id → Table Document Document.id) (s : Store) : Store :=
  { s with documents := f s.documents }

/-- A change of the versions. -/
@[simps documents versions references uploadIntents backupRequests objects]
def onVersions (f : Table DocumentVersion DocumentVersion.id →
    Table DocumentVersion DocumentVersion.id) (s : Store) : Store :=
  { s with versions := f s.versions }

/-- A change of the references. -/
@[simps documents versions references uploadIntents backupRequests objects]
def onReferences (f : Table DocumentReference DocumentReference.id →
    Table DocumentReference DocumentReference.id) (s : Store) : Store :=
  { s with references := f s.references }

/-- A change of the intents. -/
@[simps documents versions references uploadIntents backupRequests objects]
def onUploadIntents (f : Table DocumentUploadIntent DocumentUploadIntent.id →
    Table DocumentUploadIntent DocumentUploadIntent.id) (s : Store) : Store :=
  { s with uploadIntents := f s.uploadIntents }

/-- A change of the requests for a backup. -/
@[simps documents versions references uploadIntents backupRequests objects]
def onBackupRequests (f : Table ObjectBackupRequest ObjectBackupRequest.id →
    Table ObjectBackupRequest ObjectBackupRequest.id) (s : Store) : Store :=
  { s with backupRequests := f s.backupRequests }

/-- Put an object under a key, or delete it. -/
@[simps documents versions references uploadIntents backupRequests objects]
def setObject (key : String) (object : Option (List UInt8)) (s : Store) : Store :=
  { s with objects := Function.update s.objects key object }

end Store

/-! ### Calls and their locks -/

/-- What a statement locks: the row of an intent that is consumed; the entries of the unique
indexes that an insertion takes, the keys of the intents, the payments with a receipt, and the
numbers of the versions of a document; and the cleanup after an intent, which is only ever shared
and so never makes anybody wait. -/
inductive Lock
  | uploadIntent (id : ℕ)
  | storageKey (key : String)
  | paymentReference (paymentId : ℕ)
  | versionNumber (documentId versionNumber : ℕ)
  | version (id : ℕ)
  | cleanup (uploadIntentId : ℕ)
  deriving DecidableEq

/-- The database makes a statement wait for each of these locks. -/
def Lock.enforced (_ : Lock) : Bool := true

/-- A program of statements on the tables. -/
abbrev Call (α : Type) : Type := Prog Store Lock Failure α

/-- The tables, the sessions that run a call each, and the locks they hold. -/
abbrev Sessions (ι α : Type) : Type := Database ι Store Lock Failure α

/-- The sessions after some events, each call about to start on the store. -/
def runCalls {ι α : Type} [DecidableEq ι] (s : Store) (calls : ι → Call α)
    (es : List (Event ι Failure)) : Sessions ι α :=
  Relational.runFrom (Database.next Lock.enforced) (Database.start s calls) es

end VielHome.Documents
