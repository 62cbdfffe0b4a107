import VielHome.Documents.Schema

/-!
# Policies of the documents and of their files

What the services check before they touch a document, how a file is recognised by its first
bytes, and how the keys of the storage are built. A policy goes on or raises its error.
-/

namespace VielHome.Documents

open Community (Time)
open Relational.ReadCommitted.Prog (require)

/-- How the server is set up: whether the storage is configured, and the bucket whose files are
to be backed up. -/
structure Config where
  storageConfigured : Bool
  bucket : Option String

/-! ### `DocumentPolicy` -/

namespace DocumentPolicy

/-- What may be uploaded. -/
def SUPPORTED_FILE_TYPES : List String := ["PDF", "JPG", "JPEG", "PNG"]

/-- 25 MB. -/
def MAX_FILE_SIZE_BYTES : ℕ := 25 * 1024 * 1024

/-- What only the management manages. -/
def PRIVILEGED_CATEGORIES : List DocumentCategory := [.governance, .financial, .legal]

/-- The type is one that may be uploaded, in capitals or not. -/
def assertFileTypeSupported (fileType : String) : Call PUnit :=
  require (fileType.toUpper ∈ SUPPORTED_FILE_TYPES) (.validation
    s!"Unsupported file type \"{fileType}\". Supported types: PDF, JPG, JPEG, PNG.")

/-- The file is not too large. -/
def assertFileSizeWithinLimit (fileSize : ℕ) : Call PUnit :=
  require (fileSize ≤ MAX_FILE_SIZE_BYTES) (.validation
    s!"File is too large ({fileSize} bytes). Maximum allowed: {MAX_FILE_SIZE_BYTES} bytes (25MB).")

/-- The name of a category, as the messages have it. -/
def categoryName : DocumentCategory → String
  | .governance => "GOVERNANCE"
  | .financial => "FINANCIAL"
  | .legal => "LEGAL"
  | .maintenance => "MAINTENANCE"
  | .general => "GENERAL"

/-- A document of the management is managed by the privileged. -/
def assertCategoryManageable (category : DocumentCategory) (isPrivileged : Bool) : Call PUnit :=
  require (¬ (category ∈ PRIVILEGED_CATEGORIES ∧ isPrivileged = false)) (.authorization
    s!"Only a privileged role (MANAGER/BOARD_MEMBER/ACCOUNTANT) may manage {categoryName category} documents.")

/-- A document of the management is shown to the privileged. -/
def assertVisible (visibility : DocumentVisibility) (isPrivileged : Bool) : Call PUnit :=
  require (¬ (visibility = .managementOnly ∧ isPrivileged = false))
    (.authorization "This document is restricted to management roles.")

/-- An archived document is not changed. -/
def assertNotArchived (status : DocumentStatus) : Call PUnit :=
  require (status ≠ .archived)
    (.businessRuleViolation "This document is archived and is read-only.")

/-- A document is archived once. -/
def assertArchivable (status : DocumentStatus) : Call PUnit :=
  require (status ≠ .archived) (.businessRuleViolation "This document is already archived.")

end DocumentPolicy

/-! ### `PaymentReceiptPolicy` -/

namespace PaymentReceiptPolicy

/-- What may be a receipt. -/
def SUPPORTED_RECEIPT_FILE_TYPES : List String := ["PDF", "JPG", "JPEG", "PNG"]

/-- 25 MB. -/
def MAX_RECEIPT_FILE_SIZE_BYTES : ℕ := 25 * 1024 * 1024

/-- The type is one of a receipt, in capitals or not. -/
def assertFileTypeSupported (fileType : String) : Call PUnit :=
  require (fileType.toUpper ∈ SUPPORTED_RECEIPT_FILE_TYPES) (.validation
    s!"Unsupported receipt file type \"{fileType}\". Supported types: PDF, JPG, JPEG, PNG.")

/-- The receipt is not too large. -/
def assertFileSizeWithinLimit (fileSize : ℕ) : Call PUnit :=
  require (fileSize ≤ MAX_RECEIPT_FILE_SIZE_BYTES) (.validation
    s!"Receipt file is too large ({fileSize} bytes). Maximum allowed: {MAX_RECEIPT_FILE_SIZE_BYTES} bytes (25MB).")

end PaymentReceiptPolicy

/-! ### File signatures -/

/-- What a file is by its first bytes. -/
inductive DetectedFileSignature
  | pdf
  | png
  | jpeg
  deriving DecidableEq

/-- The first bytes of each. -/
def SIGNATURES : List (DetectedFileSignature × List UInt8) :=
  [(.pdf, [0x25, 0x50, 0x44, 0x46, 0x2d]),
   (.png, [0x89, 0x50, 0x4e, 0x47, 0x0d, 0x0a, 0x1a, 0x0a]),
   (.jpeg, [0xff, 0xd8, 0xff])]

/-- `detectFileSignature`: the first signature that the file begins with. -/
def detectFileSignature (bytes : List UInt8) : Option DetectedFileSignature :=
  (SIGNATURES.find? fun signature => signature.2.isPrefixOf bytes).map Prod.fst

/-- `normalizeDeclaredFileType`: what the file is said to be. -/
def normalizeDeclaredFileType (fileType : String) : Option DetectedFileSignature :=
  let upper := fileType.toUpper
  if upper = "PDF" then some .pdf
  else if upper = "PNG" then some .png
  else if upper = "JPG" ∨ upper = "JPEG" then some .jpeg
  else none

/-! ### `StorageService` -/

namespace StorageService

/-- How long a presigned upload is valid: 900 seconds. -/
def UPLOAD_VALIDITY : Time := 900 * 1000

/-- There is a storage. -/
def assertConfigured (config : Config) : Call PUnit :=
  require (config.storageConfigured = true) (.unexpected
    "Object storage is not configured on this server (STORAGE_ENDPOINT/STORAGE_BUCKET/STORAGE_ACCESS_KEY_ID/STORAGE_SECRET_ACCESS_KEY). See README > Known risk areas.")

/-- A character that stays in the key of an object. -/
def isSafe (c : Char) : Bool :=
  c.isAlphanum || c = '.' || c = '_' || c = '-'

/-- Replace each run of characters that satisfy `p` by one underscore; `inRun` says whether the
run has already been replaced. -/
def squeeze (p : Char → Bool) : (inRun : Bool) → List Char → List Char
  | _, [] => []
  | inRun, c :: cs =>
    if p c then (if inRun then squeeze p true cs else '_' :: squeeze p true cs)
    else c :: squeeze p false cs

/-- The name of a file as it stands in the key of its object: the last 140 safe characters. -/
def sanitize (fileName : String) : String :=
  let replaced := squeeze (fun c => !isSafe c) false fileName.trimAscii.toString.toList
  let squeezed := squeeze (· = '_') false replaced
  String.ofList (squeezed.drop (squeezed.length - 140))

/-- The parts of a key that the moment of the request decides: the year, the month, and the
random suffix. -/
structure KeyParts where
  year : ℕ
  month : ℕ
  suffix : String

/-- A number with at least two digits. -/
def padStart (month : ℕ) : String := if month < 10 then s!"0{month}" else s!"{month}"

/-- `buildObjectKey`: the key of a document. -/
def buildObjectKey (buildingId : ℕ) (fileName : String) (parts : KeyParts) : String :=
  s!"documents/{buildingId}/{parts.year}/{padStart parts.month}/{parts.suffix}-{sanitize fileName}"

/-- `buildPaymentReceiptObjectKey`: the key of a receipt. -/
def buildPaymentReceiptObjectKey (buildingId paymentId : ℕ) (fileName : String)
    (parts : KeyParts) : String :=
  s!"payments/{buildingId}/{paymentId}/{parts.suffix}-{sanitize fileName}"

end StorageService

end VielHome.Documents
