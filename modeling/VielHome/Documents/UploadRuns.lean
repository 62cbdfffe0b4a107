import VielHome.Documents.UploadCalls

/-!
# Runs of the calls that upload files

Any number of requests for an upload, uploads by clients, and calls that turn an uploaded file
into a version, statement by statement in any order. A version is only ever created under one
intent, whose declaration it carries (`trusted_of_calls`), and together with the request for its
backup (`backed_of_calls`).
-/

namespace VielHome.Documents

open Relational Community
open DocumentRepository DocumentsService
open Relational.ReadCommitted (Database Event Prog)
open Relational.ReadCommitted.Prog.Safe (Clean)

variable {s : Store} {config : Config} {receipts : Bool} {β : Type} {last : Store} {now : Time}
  {post : β → Store → List (Lock × ReadCommitted.Mode × Store) → (Store → Store) → Prop}

/-! ### The finalization of a receipt -/

/-- What a finalization has checked of an intent. -/
def ForReceipt (buildingId paymentId : ℕ) (i : DocumentUploadIntent) : Prop :=
  i.buildingId = buildingId ∧ i.purpose = .paymentReceipt ∧ i.paymentId = some paymentId

theorem safe_loadValidReceiptIntent {uploadIntentId buildingId paymentId : ℕ}
    {f : DocumentUploadIntent → Call β}
    (h : ∀ i last', Issued i last' → ForReceipt buildingId paymentId i →
      (f i).Safe (uploads config receipts) post last' [] id) :
    (PaymentReceiptService.loadValidReceiptIntent uploadIntentId buildingId paymentId now >>=
      f).Safe (uploads config receipts) post last [] id := by
  rw [PaymentReceiptService.loadValidReceiptIntent, Prog.bind_assoc]
  refine Prog.Safe.query fun s₁ _ _ _ => ?_
  rw [Prog.bind_assoc]
  refine Prog.Safe.expect fun i hi => ?_
  rw [Option.filter_eq_some_iff] at hi
  obtain ⟨hpurpose, hbuilding⟩ := of_decide_eq_true hi.2
  simp only [Prog.bind_assoc]
  refine .require fun hpayment => .require fun _ => .require fun _ => ?_
  exact h i s₁ (issued_of_find? hi.1) ⟨hbuilding, hpurpose, hpayment⟩

/-- The receipt is the file that the intent declares. -/
theorem safe_attachReceipt {buildingId paymentId actorPersonId : ℕ} {i : DocumentUploadIntent}
    (hissued : Issued i last) (hreceipt : ForReceipt buildingId paymentId i) :
    (Prog.tryCatch (createPaymentReceipt config buildingId paymentId
      (PaymentReceiptService.receiptFile i actorPersonId) i.id now) fun error =>
        .fail (PaymentReceiptService.translated error)).Safe (uploads config receipts) Clean last []
      id :=
  .tryCatch (safe_createPaymentReceipt fun _ => ⟨i, rfl, hissued, ⟨rfl, rfl, rfl, rfl⟩, hreceipt⟩)
    fun _ _ => trivial

/-- Deleting an object leaves every row as it is. -/
theorem safe_deleteObject {storageKey : String} {uploadIntentId : ℕ} {answered : Bool} :
    (StorageService.deleteObject config storageKey uploadIntentId answered).Safe
      (uploads config false) Clean last [] id := by
  rw [StorageService.deleteObject]
  split
  case isFalse => exact ⟨rfl, rfl⟩
  case isTrue =>
    rw [Prog.transaction]
    refine Prog.Safe.write fun _ _ _ _ => Prog.Safe.commitAll fun s hs _ _ => ?_
    obtain ⟨hconsistent, hkeeps, hsame⟩ :=
      commits_setObject storageKey none hs
    exact ⟨hconsistent, ⟨hkeeps, fun h => absurd h (by decide)⟩, fun l _ _ => hsame l, rfl, rfl⟩

theorem safe_finalize {buildingId paymentId uploadIntentId actorPersonId : ℕ}
    {requests : PaymentReceiptService.Requests} :
    (PaymentReceiptService.finalize config buildingId paymentId uploadIntentId actorPersonId
      requests now).Safe (uploads config false) Clean last [] id := by
  rw [PaymentReceiptService.finalize]
  refine .readOnly (readOnly_getBankTransferPaymentForPayer _ _ _) fun payment _ _ => ?_
  refine .readOnly (readOnly_assertNoExistingReceipt _) fun _ _ _ => ?_
  refine safe_loadValidReceiptIntent fun i s₁ hissued hreceipt => ?_
  refine .readOnly (readOnly_validateMagicBytes _ _ _) fun validationError s₂ hs₂ => ?_
  cases validationError with
  | some error => exact safe_deleteObject.bind_clean fun _ _ => trivial
  | none => exact safe_attachReceipt (hissued.later hs₂) hreceipt

/-! ### Runs -/

/-- A call that has to do with an upload. -/
inductive UploadCall
  | requestUploadUrl (buildingId : ℕ) (dto : RequestUploadUrlDto) (actorPersonId : ℕ)
    (parts : StorageService.KeyParts) (now : Time)
  | requestUploadIntent (buildingId paymentId : ℕ) (dto : PaymentReceiptService.RequestDto)
    (actorPersonId : ℕ) (parts : StorageService.KeyParts) (now : Time)
  | put (storageKey : String) (bytes : List UInt8) (now : Time)
  | createDocument (buildingId : ℕ) (dto : CreateDocumentDto) (actorPersonId : ℕ)
    (head : StorageService.HeadRequest) (now : Time)
  | bulkCreateDocuments (buildingId : ℕ)
    (dto : List (CreateDocumentDto × StorageService.HeadRequest)) (actorPersonId : ℕ) (now : Time)
  | uploadVersion (documentId : ℕ) (dto : UploadVersionDto) (actorPersonId : ℕ)
    (head : StorageService.HeadRequest) (now : Time)
  | finalize (buildingId paymentId uploadIntentId actorPersonId : ℕ)
    (requests : PaymentReceiptService.Requests) (now : Time)

/-- The method that the call is made to. -/
def UploadCall.call (config : Config) : UploadCall → Call PUnit
  | requestUploadUrl buildingId dto actorPersonId parts now =>
    DocumentsService.requestUploadUrl config buildingId dto actorPersonId parts now
  | requestUploadIntent buildingId paymentId dto actorPersonId parts now =>
    PaymentReceiptService.requestUploadIntent config buildingId paymentId dto actorPersonId parts now
  | put storageKey bytes now => StorageService.put storageKey bytes now
  | createDocument buildingId dto actorPersonId head now =>
    DocumentsService.createDocument config buildingId dto actorPersonId head now
  | bulkCreateDocuments buildingId dto actorPersonId now =>
    DocumentsService.bulkCreateDocuments config buildingId dto actorPersonId now
  | uploadVersion documentId dto actorPersonId head now =>
    DocumentsService.uploadVersion config documentId dto actorPersonId head now
  | finalize buildingId paymentId uploadIntentId actorPersonId requests now =>
    PaymentReceiptService.finalize config buildingId paymentId uploadIntentId actorPersonId requests
      now

theorem UploadCall.safe (c : UploadCall) (last : Store) :
    (c.call config).Safe (uploads config false) (fun _ _ _ _ => True) last [] id := by
  have hclean : (c.call config).Safe (uploads config false) Clean last [] id := by
    cases c with
    | requestUploadUrl buildingId dto actorPersonId parts now => exact safe_requestUploadUrl
    | requestUploadIntent buildingId paymentId dto actorPersonId parts now =>
      exact safe_requestUploadIntent
    | put storageKey bytes now => exact safe_put
    | createDocument buildingId dto actorPersonId head now => exact safe_createDocument
    | bulkCreateDocuments buildingId dto actorPersonId now => exact safe_bulkCreateDocuments
    | uploadVersion documentId dto actorPersonId head now => exact safe_uploadVersion
    | finalize buildingId paymentId uploadIntentId actorPersonId requests now => exact safe_finalize
  exact hclean.mono fun _ _ _ _ _ => trivial

/-- The tables stay consistent whatever the calls do. -/
theorem consistent_of_calls {ι : Type} [DecidableEq ι] (hs : Consistent config s)
    (calls : ι → UploadCall) (es : List (Event ι Failure)) :
    Consistent config (runCalls s (fun i => (calls i).call config) es).store :=
  (Database.safe_run (D := uploads config false) hs (fun i => (calls i).safe s)
    (Database.eachStep_orderly_of_enforced (fun _ _ => rfl) _ es)).1

/-- The keys of the objects are trusted only through one intent. -/
structure Trusted (s : Store) : Prop where
  intent : ∀ v ∈ s.versions, ∃ i, (i ∈ s.uploadIntents ∧ i.storageKey = v.fileUrl) ∧
    (∀ i' ∈ s.uploadIntents, i'.storageKey = v.fileUrl → i' = i) ∧ Binds s v i
  version : ∀ v ∈ s.versions, ∀ v' ∈ s.versions, v.fileUrl = v'.fileUrl → v = v'
  reference : ∀ r ∈ s.references, r.entityType = .payment →
    ∃ v, s.versions.find? r.documentVersionId = some v ∧ ∃ i ∈ s.uploadIntents,
      i.storageKey = v.fileUrl ∧ i.purpose = .paymentReceipt ∧ i.paymentId = some r.entityId
  receipt : ∀ r ∈ s.references, ∀ r' ∈ s.references, r.entityType = .payment →
    r'.entityType = .payment → r.entityId = r'.entityId → r = r'

theorem Consistent.trusted (h : Consistent config s) (hconfigured : config.storageConfigured = true) :
    Trusted s := by
  have hbound := h.bound hconfigured
  refine ⟨fun v hv => ?_, hbound.version, hbound.reference, h.unique.receipt⟩
  obtain ⟨i, hi, hbinds⟩ := hbound.intent v hv
  refine ⟨i, ⟨hi, hbinds.storageKey⟩, fun i' hi' hkey => ?_, hbinds⟩
  exact h.unique.storageKey i' hi' i hi (hkey.trans hbinds.storageKey.symm)

/-- Every version has one intent, which was consumed for it and declares its file; no two versions
share a file, and no payment has two receipts. -/
theorem trusted_of_calls {ι : Type} [DecidableEq ι] (hconfigured : config.storageConfigured = true)
    (hs : Consistent config s) (calls : ι → UploadCall) (es : List (Event ι Failure)) :
    Trusted (runCalls s (fun i => (calls i).call config) es).store :=
  (consistent_of_calls hs calls es).trusted hconfigured

theorem consistent_of_no_versions (hversions : s.versions = .empty)
    (hreferences : s.references = .empty) (hbackups : s.backupRequests = .empty)
    (hintents : ∀ i ∈ s.uploadIntents, ∀ i' ∈ s.uploadIntents, i.storageKey = i'.storageKey →
      i = i') : Consistent config s := by
  have hnoVersion : ∀ v, v ∉ s.versions := by simp [hversions]
  have hnoReference : ∀ r, r ∉ s.references := by simp [hreferences]
  have hnoBackup : ∀ q, q ∉ s.backupRequests := by simp [hbackups]
  refine ⟨⟨hintents, fun r hr => absurd hr (hnoReference r),
    fun r hr => absurd hr (hnoReference r)⟩, fun _ => ⟨fun v hv => absurd hv (hnoVersion v),
    fun v hv => absurd hv (hnoVersion v), fun r hr => absurd hr (hnoReference r)⟩, fun bucket _ =>
    ⟨fun v hv => absurd hv (hnoVersion v), fun _ q hq => absurd hq (hnoBackup q),
    fun _ q hq => absurd hq (hnoBackup q)⟩⟩

/-- A building whose manager has uploaded a file under an intent. -/
def uploaded : Store where
  toStore := { Community.Store.empty with
    buildings := Table.empty.create fun id =>
      { id, name := "Azadi", addressLine := "Azadi 1", postalCode := "5157814563",
        createdById := 1 }
    memberships := Table.empty.create fun id =>
      { id, personId := 1, buildingId := 0, role := .manager } }
  buildingCases := .empty
  caseAssignments := .empty
  caseMessages := .empty
  supportCases := .empty
  supportCaseMessages := .empty
  staffRoles := .empty
  rolePermissions := .empty
  payments := .empty
  documents := .empty
  versions := .empty
  references := .empty
  uploadIntents := Table.empty.create fun id =>
    { id, buildingId := 0, storageKey := "documents/0/2025/01/a-plan.pdf", requestedById := 1,
      purpose := .createDocument, fileName := "plan.pdf", fileType := "pdf", fileSize := 3,
      expiresAt := 10 }
  backupRequests := .empty
  objects key := if key = "documents/0/2025/01/a-plan.pdf" then some [1, 2, 3] else none

theorem consistent_uploaded : Consistent config uploaded :=
  consistent_of_no_versions rfl rfl rfl (by decide +kernel)

/-- The storage is set up, and what is in it is backed up. -/
def backedUp : Config where
  storageConfigured := true
  bucket := some "vielhome"

/-- The manager creates two documents from one file. -/
def createdTwice (_ : Fin 2) : UploadCall :=
  .createDocument 0
    { category := .general, title := "Plan", fileUrl := "documents/0/2025/01/a-plan.pdf",
      fileName := "plan.pdf", fileType := "PDF", fileSize := 3 } 1
    { answered := true, sizeReported := true } 2

/-- One version and one request for a backup are there at the end. -/
private theorem length_createdTwice :
    (runCalls uploaded (fun i => (createdTwice i).call backedUp)
      (List.replicate 5 (Event.step 0) ++ List.replicate 9 (Event.step 1) ++
        List.replicate 4 (Event.step 0))).store.versions.rows.length = 1 ∧
    (runCalls uploaded (fun i => (createdTwice i).call backedUp)
      (List.replicate 5 (Event.step 0) ++ List.replicate 9 (Event.step 1) ++
        List.replicate 4 (Event.step 0))).store.backupRequests.rows.length = 1 := by
  -- lists of characters are compared faster than the strings of `toUpper`
  simp only [createdTwice, UploadCall.call, DocumentsService.createDocument,
    DocumentsService.createOne, DocumentsService.resolveUploadIntent,
    DocumentsService.assertIntentMatches, ← String.toList_inj]
  decide +kernel

/-- Both calls find the intent unconsumed, and one of them consumes it. -/
theorem trusted_of_calls_createdTwice :
    (runCalls uploaded (fun i => (createdTwice i).call backedUp)
      (List.replicate 5 (Event.step 0) ++ List.replicate 9 (Event.step 1) ++
        List.replicate 4 (Event.step 0))).store.versions.rows.length = 1 ∧
    Trusted (runCalls uploaded (fun i => (createdTwice i).call backedUp)
      (List.replicate 5 (Event.step 0) ++ List.replicate 9 (Event.step 1) ++
        List.replicate 4 (Event.step 0))).store :=
  ⟨length_createdTwice.1, trusted_of_calls rfl consistent_uploaded createdTwice _⟩

/-- Every version has one request for its backup, and there is no request without its version. -/
theorem backed_of_calls {ι : Type} [DecidableEq ι] {bucket : String}
    (hbucket : config.bucket = some bucket) (hs : Consistent config s) (calls : ι → UploadCall)
    (es : List (Event ι Failure)) :
    Backed bucket (runCalls s (fun i => (calls i).call config) es).store :=
  (consistent_of_calls hs calls es).backed bucket hbucket

/-- The call that fails leaves no request behind. -/
theorem backed_of_calls_createdTwice :
    (runCalls uploaded (fun i => (createdTwice i).call backedUp)
      (List.replicate 5 (Event.step 0) ++ List.replicate 9 (Event.step 1) ++
        List.replicate 4 (Event.step 0))).store.backupRequests.rows.length = 1 ∧
    Backed "vielhome" (runCalls uploaded (fun i => (createdTwice i).call backedUp)
      (List.replicate 5 (Event.step 0) ++ List.replicate 9 (Event.step 1) ++
        List.replicate 4 (Event.step 0))).store :=
  ⟨length_createdTwice.2, backed_of_calls rfl consistent_uploaded createdTwice _⟩

end VielHome.Documents
