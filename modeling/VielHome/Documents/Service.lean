import VielHome.Cases.Service
import VielHome.Documents.Repository

/-!
# `DocumentsService` and `PaymentReceiptService`

The calls that read and write documents, and those that attach a receipt to a payment. A file is
put into the storage by the client, under a key that an intent was issued for; the calls look at
the object before they trust it. What the storage answers is part of the model where the objects
decide it, and an input of the call where they do not: a request may fail at any time. What a call
records for the audit, which events it emits, and what a write returns is left out.
-/

namespace VielHome.Documents

open Relational Community
open Backup (ObjectBackupRequest)
open Finance (Payment PaymentMethod)
open Relational.ReadCommitted (Prog)
open Relational.ReadCommitted.Prog (expect forEach query require transaction tryCatch write)
open DocumentRepository

/-! ### The storage -/

namespace StorageService

/-- How a `HEAD` request goes: whether it is answered, and whether the answer has a length. -/
structure HeadRequest where
  answered : Bool
  sizeReported : Bool

/-- What the storage says of an object. -/
structure ObjectVerificationResult where
  exists_ : Bool
  actualSizeBytes : Option ℕ := none

/-- `verifyObjectUploaded`: what a `HEAD` request finds. -/
def verifyObjectUploaded (config : Config) (storageKey : String) (head : HeadRequest) :
    Call ObjectVerificationResult := do
  assertConfigured config
  query fun s =>
    match s.objects storageKey with
    | none => { exists_ := false }
    | some bytes =>
      if head.answered then
        { exists_ := true, actualSizeBytes := if head.sizeReported then some bytes.length else none }
      else { exists_ := false }

/-- The first bytes of an object, or nothing when it cannot be read: an empty object has no range
to read. -/
def readObjectPrefix (config : Config) (storageKey : String) (byteCount : ℕ) (answered : Bool) :
    Call (Option (List UInt8)) :=
  if config.storageConfigured ∧ answered = true then
    query fun s => ((s.objects storageKey).filter (· ≠ [])).map (List.take byteCount)
  else pure none

/-- A client uploads to the presigned URL of a key. -/
def put (storageKey : String) (bytes : List UInt8) (now : Time) : Call PUnit := do
  let intent ← query fun s => s.uploadIntentByStorageKey storageKey
  let intent ← expect intent (.authorization "The upload was not signed.")
  require (now ≤ intent.expiresAt) (.authorization "The signed upload has expired.")
  transaction (write [] (Store.setObject storageKey (some bytes)))

/-- Delete the object that was uploaded for an intent, unless the request fails. -/
def deleteObject (config : Config) (storageKey : String) (uploadIntentId : ℕ) (answered : Bool) :
    Call PUnit :=
  if config.storageConfigured ∧ answered = true then
    transaction (write [(.cleanup uploadIntentId, .shared)] (Store.setObject storageKey none))
  else pure ⟨⟩

end StorageService

/-! ### What the documents are attached to -/

namespace FinanceService

/-- The payment, when it is of the building. -/
def getOwnPayment (buildingId paymentId : ℕ) : Call Payment := do
  let payment ← query fun s => s.payments.find? paymentId
  expect (payment.filter fun p => p.buildingId = buildingId) (.notFound "Payment not found.")

/-- The payer, and the Managers and Accountants of the building, may see a payment. -/
def getPaymentForViewer (buildingId paymentId actorPersonId : ℕ) : Call PUnit := do
  let payment ← getOwnPayment buildingId paymentId
  if payment.payerId = actorPersonId then pure ⟨⟩
  else do
    let roles ← query fun s => s.roles actorPersonId payment.buildingId
    require (.manager ∈ roles ∨ .accountant ∈ roles) (.authorization
      "Only the payer or a Manager/Accountant of this building may access this payment receipt.")

/-- The payment, for who has made it. -/
def getPaymentForPayer (buildingId paymentId actorPersonId : ℕ) : Call Payment := do
  let payment ← getOwnPayment buildingId paymentId
  require (payment.payerId = actorPersonId)
    (.authorization "Only the original payer may upload a receipt for this payment.")
  pure payment

end FinanceService

/-- `CasesService.getCase`, as one read. -/
def getCase (buildingId caseId actorPersonId : ℕ) : Call PUnit := do
  let found ← query fun s =>
    (Cases.CasesService.getCase buildingId caseId actorPersonId).outcome s.casesStore
  match found with
  | .ok _ => pure ⟨⟩
  | .error e => .fail e

/-! ### `DocumentsService` -/

namespace DocumentsService

/-- Who reads the document may see every case that it is attached to. -/
def assertCaseReferenceAccess (documentId buildingId actorPersonId : ℕ) : Call PUnit := do
  let caseIds ← query fun s => s.caseReferenceTargets documentId
  forEach caseIds fun caseId => getCase buildingId caseId actorPersonId

/-- Who reads the document may see every payment that it is attached to. -/
def assertPaymentReferenceAccess (documentId buildingId actorPersonId : ℕ) : Call PUnit := do
  let paymentIds ← query fun s => s.paymentReferenceTargets documentId
  forEach paymentIds fun paymentId =>
    FinanceService.getPaymentForViewer buildingId paymentId actorPersonId

/-- The building is there, or `404`. -/
def getBuilding (buildingId : ℕ) : Call PUnit := do
  let building ← query fun s => s.buildings.find? buildingId
  let _ ← expect building (.notFound "Building not found.")

/-- Somebody has a role of the management in the building. -/
def isPrivileged (personId buildingId : ℕ) : Call Bool :=
  query fun s => Cases.CasesService.hasPrivilegedRole (s.roles personId buildingId)

/-- Somebody has any role in the building. -/
def assertMember (personId buildingId : ℕ) : Call PUnit := do
  let roles ← query fun s => s.roles personId buildingId
  require (roles ≠ []) (.authorization "You do not have access to this building.")

/-- Somebody is the manager of the building. -/
def assertManager (personId buildingId : ℕ) : Call PUnit := do
  let roles ← query fun s => s.roles personId buildingId
  require (.manager ∈ roles)
    (.authorization "Only the current building Manager may upload documents.")

/-- The document, or `404`. -/
def getDocumentOrThrow (documentId : ℕ) : Call Document := do
  let found ← query fun s => s.documents.find? documentId
  expect found (.notFound "Document not found.")

/-- A file that is to be uploaded, and what for. -/
structure RequestUploadUrlDto where
  fileName : String
  fileType : String
  fileSize : ℕ
  purpose : DocumentUploadPurpose
  documentId : Option ℕ := none

/-- The document that the intent is for has to be one of the building, if the intent is for a
version; any other intent names none. -/
def assertTarget (buildingId : ℕ) (dto : RequestUploadUrlDto) : Call PUnit :=
  if dto.purpose = .createVersion then do
    let documentId ← expect dto.documentId
      (.validation "documentId is required when purpose is CREATE_VERSION.")
    let target ← query fun s => s.documents.find? documentId
    require ((target.any fun d => d.buildingId = buildingId) = true)
      (.notFound "Document not found in this building.")
  else
    require (¬ (dto.purpose = .createDocument ∧ dto.documentId ≠ none)) (.validation
      "documentId must not be provided when purpose is CREATE_DOCUMENT.")

/-- `requestUploadUrl`: an intent for a new storage key. -/
def requestUploadUrl (config : Config) (buildingId : ℕ) (dto : RequestUploadUrlDto)
    (actorPersonId : ℕ) (parts : StorageService.KeyParts) (now : Time) : Call PUnit := do
  getBuilding buildingId
  assertManager actorPersonId buildingId
  DocumentPolicy.assertFileTypeSupported dto.fileType
  DocumentPolicy.assertFileSizeWithinLimit dto.fileSize
  assertTarget buildingId dto
  StorageService.assertConfigured config
  createUploadIntent
    { buildingId, storageKey := StorageService.buildObjectKey buildingId dto.fileName parts,
      requestedById := actorPersonId, purpose := dto.purpose,
      documentId := if dto.purpose = .createVersion then dto.documentId else none,
      fileName := dto.fileName, fileType := dto.fileType, fileSize := dto.fileSize,
      expiresAt := now + StorageService.UPLOAD_VALIDITY }

/-- A file that is said to be uploaded, and by whom. -/
structure ResolveParams where
  buildingId : ℕ
  actorPersonId : ℕ
  purpose : DocumentUploadPurpose
  documentId : Option ℕ := none
  storageKey : String
  fileName : String
  fileType : String
  fileSize : ℕ

/-- The name of a purpose, as the messages have it. -/
def purposeName : DocumentUploadPurpose → String
  | .createDocument => "CREATE_DOCUMENT"
  | .createVersion => "CREATE_VERSION"
  | .paymentReceipt => "PAYMENT_RECEIPT"

/-- The checks of `resolveUploadIntent` on the row of the intent. -/
def assertIntentMatches (params : ResolveParams) (now : Time) (intent : DocumentUploadIntent) :
    Call PUnit := do
  require (intent.consumedAt = none) (.conflict "This upload intent has already been used.")
  require (now ≤ intent.expiresAt)
    (.businessRuleViolation "This upload intent has expired. Request a new upload URL.")
  require (intent.buildingId = params.buildingId)
    (.authorization "This upload intent does not belong to this building.")
  require (intent.requestedById = params.actorPersonId)
    (.authorization "This upload intent was not requested by you.")
  require (intent.purpose = params.purpose) (.businessRuleViolation
    s!"This upload intent was requested for {purposeName intent.purpose}, not {purposeName params.purpose}.")
  require (¬ (params.purpose = .createVersion ∧ intent.documentId ≠ params.documentId))
    (.businessRuleViolation "This upload intent is bound to a different document.")
  require (intent.fileName = params.fileName ∧
      intent.fileType.toUpper = params.fileType.toUpper ∧ intent.fileSize = params.fileSize)
    (.validation
      "Submitted file metadata does not match the upload intent requested for this storage key.")

/-- The size of the object, if the storage reported one, is the declared one. -/
def assertSize (actualSizeBytes : Option ℕ) (fileSize : ℕ) : Call PUnit :=
  match actualSizeBytes with
  | none => pure ⟨⟩
  | some actualSizeBytes => require (actualSizeBytes = fileSize) (.validation
      s!"Uploaded file size ({actualSizeBytes} bytes) does not match the declared file size ({fileSize} bytes).")

/-- `resolveUploadIntent`: without a storage there is no intent to look for. -/
def resolveUploadIntent (config : Config) (params : ResolveParams)
    (head : StorageService.HeadRequest) (now : Time) : Call (Option ℕ) := do
  if config.storageConfigured then
    let intent ← query fun s => s.uploadIntentByStorageKey params.storageKey
    let intent ← expect intent (.notFound
      "No upload intent found for this storage key. Request a presigned upload URL first (POST .../documents/upload-url).")
    assertIntentMatches params now intent
    let verification ← StorageService.verifyObjectUploaded config params.storageKey head
    require (verification.exists_ = true) (.businessRuleViolation
      "The file has not been uploaded to storage yet. PUT it to the presigned uploadUrl before calling this endpoint.")
    assertSize verification.actualSizeBytes params.fileSize
    pure (some intent.id)
  else pure none

/-- A new document with its file. -/
structure CreateDocumentDto where
  category : DocumentCategory
  title : String
  description : Option String := none
  tags : List String := []
  visibility : Option DocumentVisibility := none
  fileUrl : String
  fileName : String
  fileType : String
  fileSize : ℕ
  expiresAt : Option Time := none

/-- The document of the request. -/
def CreateDocumentDto.document (dto : CreateDocumentDto) (buildingId actorPersonId : ℕ) :
    DocumentParams where
  buildingId := buildingId
  category := dto.category
  title := dto.title
  description := dto.description
  tags := dto.tags
  visibility := dto.visibility.getD .membersOnly
  createdById := actorPersonId

/-- The file of the request. -/
def CreateDocumentDto.file (dto : CreateDocumentDto) (actorPersonId : ℕ) : FileParams where
  fileUrl := dto.fileUrl
  fileName := dto.fileName
  fileType := dto.fileType
  fileSize := dto.fileSize
  uploadedById := actorPersonId
  expiresAt := dto.expiresAt

/-- The upload that the request relies on. -/
def CreateDocumentDto.resolve (dto : CreateDocumentDto) (buildingId actorPersonId : ℕ) :
    ResolveParams where
  buildingId := buildingId
  actorPersonId := actorPersonId
  purpose := .createDocument
  storageKey := dto.fileUrl
  fileName := dto.fileName
  fileType := dto.fileType
  fileSize := dto.fileSize

/-- The part that `createDocument` and `bulkCreateDocuments` share. -/
def createOne (config : Config) (buildingId : ℕ) (dto : CreateDocumentDto) (actorPersonId : ℕ)
    (privileged : Bool) (head : StorageService.HeadRequest) (now : Time) : Call PUnit := do
  DocumentPolicy.assertCategoryManageable dto.category privileged
  DocumentPolicy.assertFileTypeSupported dto.fileType
  DocumentPolicy.assertFileSizeWithinLimit dto.fileSize
  let uploadIntentId ← resolveUploadIntent config (dto.resolve buildingId actorPersonId) head now
  createDocumentWithFirstVersion config (dto.document buildingId actorPersonId)
    (dto.file actorPersonId) uploadIntentId now

/-- `createDocument`, by the manager. -/
def createDocument (config : Config) (buildingId : ℕ) (dto : CreateDocumentDto)
    (actorPersonId : ℕ) (head : StorageService.HeadRequest) (now : Time) : Call PUnit := do
  getBuilding buildingId
  assertManager actorPersonId buildingId
  let privileged ← isPrivileged actorPersonId buildingId
  createOne config buildingId dto actorPersonId privileged head now

/-- One document after the other; an error of one of them is a result like any other. -/
def bulkCreateDocuments (config : Config) (buildingId : ℕ)
    (dto : List (CreateDocumentDto × StorageService.HeadRequest)) (actorPersonId : ℕ)
    (now : Time) : Call PUnit := do
  getBuilding buildingId
  assertManager actorPersonId buildingId
  let privileged ← isPrivileged actorPersonId buildingId
  forEach dto fun (item, head) =>
    tryCatch (createOne config buildingId item actorPersonId privileged head now) fun _ => pure ⟨⟩

/-- A new file of a document. -/
structure UploadVersionDto where
  fileUrl : String
  fileName : String
  fileType : String
  fileSize : ℕ
  expiresAt : Option Time := none

/-- The file of the request. -/
def UploadVersionDto.file (dto : UploadVersionDto) (actorPersonId : ℕ) : FileParams where
  fileUrl := dto.fileUrl
  fileName := dto.fileName
  fileType := dto.fileType
  fileSize := dto.fileSize
  uploadedById := actorPersonId
  expiresAt := dto.expiresAt

/-- The upload that the request relies on. -/
def UploadVersionDto.resolve (dto : UploadVersionDto) (buildingId actorPersonId documentId : ℕ) :
    ResolveParams where
  buildingId := buildingId
  actorPersonId := actorPersonId
  purpose := .createVersion
  documentId := some documentId
  storageKey := dto.fileUrl
  fileName := dto.fileName
  fileType := dto.fileType
  fileSize := dto.fileSize

/-- `uploadVersion`, by the manager, to a document that is not archived. -/
def uploadVersion (config : Config) (documentId : ℕ) (dto : UploadVersionDto)
    (actorPersonId : ℕ) (head : StorageService.HeadRequest) (now : Time) : Call PUnit := do
  let found ← getDocumentOrThrow documentId
  assertManager actorPersonId found.buildingId
  let privileged ← isPrivileged actorPersonId found.buildingId
  DocumentPolicy.assertCategoryManageable found.category privileged
  DocumentPolicy.assertNotArchived found.status
  DocumentPolicy.assertFileTypeSupported dto.fileType
  DocumentPolicy.assertFileSizeWithinLimit dto.fileSize
  let uploadIntentId ← resolveUploadIntent config
    (dto.resolve found.buildingId actorPersonId documentId) head now
  addVersion config documentId (dto.file actorPersonId) uploadIntentId now

/-- The document, when the person may see it and all that it is attached to. -/
def getAccessible (documentId actorPersonId : ℕ) : Call Document := do
  let found ← getDocumentOrThrow documentId
  assertMember actorPersonId found.buildingId
  let privileged ← isPrivileged actorPersonId found.buildingId
  DocumentPolicy.assertVisible found.visibility privileged
  assertCaseReferenceAccess documentId found.buildingId actorPersonId
  assertPaymentReferenceAccess documentId found.buildingId actorPersonId
  pure found

/-- `getDocument`: the document and its current version. -/
def getDocument (documentId actorPersonId : ℕ) : Call (Document × Option DocumentVersion) := do
  let found ← getAccessible documentId actorPersonId
  let currentVersion ← query fun s => s.currentVersion documentId
  pure (found, currentVersion)

/-- `listDocuments`, on a page that `toSkipTake` has translated. -/
def listDocuments (buildingId actorPersonId : ℕ) (filter : DocumentFilter)
    (pagination : SkipTake) : Call (Page Document) := do
  assertMember actorPersonId buildingId
  let privileged ← isPrivileged actorPersonId buildingId
  query (DocumentRepository.listDocuments buildingId filter privileged pagination)

/-- `searchDocuments`, by a member. -/
def searchDocuments (buildingId actorPersonId : ℕ) (params : DocumentSearch)
    (pagination : SkipTake) : Call (Page Document) := do
  getBuilding buildingId
  assertMember actorPersonId buildingId
  let privileged ← isPrivileged actorPersonId buildingId
  query (DocumentRepository.searchDocuments buildingId params privileged pagination)

/-- `listDocumentVersions`, of a document that may be read. -/
def listDocumentVersions (documentId actorPersonId : ℕ) (pagination : SkipTake) :
    Call (Page VersionListing) := do
  let _ ← getAccessible documentId actorPersonId
  query (DocumentRepository.listDocumentVersions documentId pagination)

/-- The row that was written is returned. -/
def archiveDocument (documentId actorPersonId : ℕ) : Call Document := do
  let found ← getDocumentOrThrow documentId
  assertMember actorPersonId found.buildingId
  let privileged ← isPrivileged actorPersonId found.buildingId
  DocumentPolicy.assertCategoryManageable found.category privileged
  DocumentPolicy.assertArchivable found.status
  DocumentRepository.archiveDocument documentId

/-- What a document is to be attached to. -/
structure CreateReferenceDto where
  entityType : DocumentReferenceEntityType
  entityId : ℕ
  versionId : Option ℕ := none

/-- The version that a reference is to be created on: the one that is named, which has to be one
of the document, or the current one. -/
def referencedVersion (documentId : ℕ) (versionId : Option ℕ) : Call ℕ :=
  match versionId with
  | some versionId => do
    let explicitVersion ← query fun s => s.versions.find? versionId
    let explicitVersion ← expect explicitVersion (.notFound "Document version not found.")
    require (explicitVersion.documentId = documentId)
      (.validation "The referenced version does not belong to this document.")
    pure explicitVersion.id
  | none => do
    let currentVersion ← query fun s => s.currentVersion documentId
    let currentVersion ← expect currentVersion
      (.notFound "This document has no version to reference.")
    pure currentVersion.id

/-- `createReference`: a version of the document is attached, the current one if none is named. -/
def createReference (documentId : ℕ) (dto : CreateReferenceDto) (actorPersonId : ℕ)
    (now : Time) : Call PUnit := do
  let found ← getDocumentOrThrow documentId
  assertMember actorPersonId found.buildingId
  let privileged ← isPrivileged actorPersonId found.buildingId
  DocumentPolicy.assertVisible found.visibility privileged
  require (dto.entityType ≠ .payment) (.validation
    "Payment receipt references can only be created through the payment-receipt finalize endpoint.")
  if dto.entityType = .case then
    getCase found.buildingId dto.entityId actorPersonId
  let versionId ← referencedVersion documentId dto.versionId
  DocumentRepository.createReference versionId dto.entityType dto.entityId now

/-- `listReferencesForEntity`: what is attached to something, as far as it may be read. -/
def listReferencesForEntity (buildingId : ℕ) (entityType : DocumentReferenceEntityType)
    (entityId actorPersonId : ℕ) : Call (List AttachedDocument) := do
  assertMember actorPersonId buildingId
  if entityType = .case then
    getCase buildingId entityId actorPersonId
  let privileged ← isPrivileged actorPersonId buildingId
  let refs ← query (DocumentRepository.listReferencesForEntity entityType entityId)
  pure (refs.filter fun r => r.document.buildingId = buildingId ∧
    (privileged = true ∨ r.document.visibility ≠ .managementOnly))

/-- The URL of a file: signed when the storage is configured, and what was stored otherwise. -/
inductive FileUrl
  | presigned (storageKey : String)
  | stored (fileUrl : String)
  deriving DecidableEq

/-- What a download answers. -/
structure Download where
  fileUrl : FileUrl
  fileName : String
  fileType : String
  deriving DecidableEq

/-- `downloadVersion`, of a document that may be read. -/
def downloadVersion (config : Config) (versionId actorPersonId : ℕ) : Call Download := do
  let version ← query fun s => s.versionWithDocument versionId
  let (version, document) ← expect version (.notFound "Document version not found.")
  assertMember actorPersonId document.buildingId
  let privileged ← isPrivileged actorPersonId document.buildingId
  DocumentPolicy.assertVisible document.visibility privileged
  assertCaseReferenceAccess document.id document.buildingId actorPersonId
  assertPaymentReferenceAccess document.id document.buildingId actorPersonId
  pure { fileUrl := if config.storageConfigured then .presigned version.fileUrl
                    else .stored version.fileUrl
         fileName := version.fileName
         fileType := version.fileType }

end DocumentsService

/-! ### `PaymentReceiptService` -/

namespace PaymentReceiptService

/-- The payment, when it was made by bank transfer. -/
def getBankTransferPaymentForPayer (buildingId paymentId actorPersonId : ℕ) : Call Payment := do
  let payment ← FinanceService.getPaymentForPayer buildingId paymentId actorPersonId
  require (payment.method = .bankTransfer)
    (.businessRuleViolation "Receipts can only be attached to BANK_TRANSFER payments.")
  pure payment

/-- There is no receipt yet. -/
def assertNoExistingReceipt (paymentId : ℕ) : Call PUnit := do
  let existing ← query fun s => s.paymentReceiptReference paymentId
  require (existing = none)
    (.conflict "A receipt has already been uploaded for this payment.")

/-- A receipt that is to be uploaded. -/
structure RequestDto where
  fileName : String
  fileType : String
  fileSize : ℕ

/-- `requestUploadIntent`: an intent for the receipt of one payment. -/
def requestUploadIntent (config : Config) (buildingId paymentId : ℕ) (dto : RequestDto)
    (actorPersonId : ℕ) (parts : StorageService.KeyParts) (now : Time) : Call PUnit := do
  let payment ← getBankTransferPaymentForPayer buildingId paymentId actorPersonId
  assertNoExistingReceipt payment.id
  PaymentReceiptPolicy.assertFileTypeSupported dto.fileType
  PaymentReceiptPolicy.assertFileSizeWithinLimit dto.fileSize
  StorageService.assertConfigured config
  createUploadIntent
    { buildingId,
      storageKey := StorageService.buildPaymentReceiptObjectKey buildingId payment.id dto.fileName
        parts,
      requestedById := actorPersonId, purpose := .paymentReceipt, paymentId := some payment.id,
      fileName := dto.fileName, fileType := dto.fileType, fileSize := dto.fileSize,
      expiresAt := now + StorageService.UPLOAD_VALIDITY }

/-- The intent, when it is for this payment and still to be used. -/
def loadValidReceiptIntent (uploadIntentId buildingId paymentId : ℕ) (now : Time) :
    Call DocumentUploadIntent := do
  let intent ← query fun s => s.uploadIntents.find? uploadIntentId
  let intent ← expect (intent.filter fun i => i.purpose = .paymentReceipt ∧ i.buildingId = buildingId)
    (.notFound "No matching receipt upload intent found.")
  require (intent.paymentId = some paymentId)
    (.notFound "This upload intent does not belong to this payment.")
  require (intent.consumedAt = none) (.conflict "This upload intent has already been used.")
  require (now ≤ intent.expiresAt)
    (.businessRuleViolation "This upload intent has expired. Request a new upload URL.")
  pure intent

/-- How the requests of a finalization to the storage go. -/
structure Requests where
  readAnswered : Bool
  deleteAnswered : Bool

/-- The error to raise, if the first bytes of the object are not those of its declared type. -/
def validateMagicBytes (config : Config) (intent : DocumentUploadIntent) (answered : Bool) :
    Call (Option Failure) := do
  let bytes ← StorageService.readObjectPrefix config intent.storageKey 16 answered
  match bytes with
  | none => pure (some (.businessRuleViolation
      "The receipt file could not be read from storage. Upload it to the presigned URL before finalizing."))
  | some bytes =>
    let declared := normalizeDeclaredFileType intent.fileType
    let detected := detectFileSignature bytes
    if declared = none ∨ detected = none ∨ detected ≠ declared then
      pure (some (.validation
        "The uploaded file's actual contents do not match its declared file type."))
    else pure none

/-- The file of a receipt, as its intent declares it. -/
def receiptFile (intent : DocumentUploadIntent) (actorPersonId : ℕ) : FileParams where
  fileUrl := intent.storageKey
  fileName := intent.fileName
  fileType := intent.fileType
  fileSize := intent.fileSize
  uploadedById := actorPersonId

/-- A second receipt is a conflict; any other error is raised as it is. -/
def translated (error : Failure) : Failure :=
  if error = .uniqueConstraint then
    .conflict "A receipt has already been uploaded for this payment."
  else error

/-- `finalize`: the file is looked at, and becomes the receipt. -/
def finalize (config : Config) (buildingId paymentId uploadIntentId actorPersonId : ℕ)
    (requests : Requests) (now : Time) : Call PUnit := do
  let payment ← getBankTransferPaymentForPayer buildingId paymentId actorPersonId
  assertNoExistingReceipt payment.id
  let intent ← loadValidReceiptIntent uploadIntentId buildingId payment.id now
  let validationError ← validateMagicBytes config intent requests.readAnswered
  match validationError with
  | some error => do
    StorageService.deleteObject config intent.storageKey intent.id requests.deleteAnswered
    .fail error
  | none =>
    tryCatch
      (createPaymentReceipt config buildingId payment.id (receiptFile intent actorPersonId)
        intent.id now)
      fun error => .fail (translated error)

end PaymentReceiptService

end VielHome.Documents
