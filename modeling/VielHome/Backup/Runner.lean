import VielHome.Backup.Repository

/-!
# `HttpBackupStorage` and `BackupRunner`

A runner claims a request, copies the source, reads the copy back, puts a manifest beside it, and
marks the request as verified. Any request to a storage may fail, also one that was carried out: how
it goes is an input. A source is read under the ETag that it had before, and the destination takes
an object only where there is none. What `SHA-256` computes is a parameter.
-/

namespace VielHome.Backup

open Relational
open Community (Time)
open Relational.ReadCommitted (Prog)
open Relational.ReadCommitted.Prog (commitAll expect query require transaction tryCatch write
  writeUnless)

/-- How the runner is set up. -/
structure Config where
  sourceBucket : String
  destinationBucket : String
  environment : String
  maxBytes : ℕ

/-- How a request to a storage goes: it is answered, or it fails with a code, and if it is to write
something, it may have been carried out all the same. -/
inductive Answer
  | answered
  | failed (code : String) (carriedOut : Bool)

namespace HttpBackupStorage

/-- Neither empty nor with a segment that names a directory. -/
def isValidKey (key : String) : Bool :=
  key ≠ "" ∧ ∀ segment ∈ key.toList.splitOn '/', segment ≠ ['.'] ∧ segment ≠ ['.', '.']

/-- The checks that every request begins and ends with, but for what it does. -/
def request {α : Type} (key : String) (answer : Answer) (answered : Call α) : Call α := do
  require (isValidKey key = true) (.backupError "INVALID_KEY")
  match answer with
  | .answered => answered
  | .failed code _ => .fail (.backupError code)

/-- The body of a `GET` is read up to the limit. -/
def assertWithinLimit (config : Config) (size : ℕ) : Call PUnit :=
  require (size ≤ config.maxBytes) (.backupError "OBJECT_TOO_LARGE")

/-- `headSource`: how the source is identified. -/
def headSource (config : Config) (key : String) (answer : Answer) : Call SourceIdentity :=
  request key answer do
    let object ← query fun s => s.sources key
    let object ← expect object (.backupError "SOURCE_MISSING")
    require (object.etag ≠ "" ∧ object.lastModified ≠ "") (.backupError "INVALID_SOURCE_IDENTITY")
    assertWithinLimit config object.bytes.length
    pure { etag := object.etag, lastModified := object.lastModified, size := object.bytes.length }

/-- A `GET` of the source with `If-Match`. -/
def readSource (config : Config) (key etag : String) (answer : Answer) : Call (List UInt8) :=
  request key answer do
    let object ← query fun s => s.sources key
    let object ← expect object (.backupError "SOURCE_MISSING")
    require (object.etag = etag) (.backupError "SOURCE_CHANGED")
    assertWithinLimit config object.bytes.length
    write [] (Store.record (.got key etag object.bytes))
    commitAll
    pure object.bytes

/-- A `PUT` with `If-None-Match`: it is answered when there was no object. -/
def putNew (key : String) (bytes : List UInt8) (answer : Answer) : Call PUnit := do
  require (isValidKey key = true) (.backupError "INVALID_KEY")
  match answer with
  | .answered =>
    transaction (writeUnless [(.object key, .exclusive)]
      (fun s => if (s.destination key).isSome then some (.backupError "GENERATION_EXISTS") else none)
      (Store.putIfAbsent key bytes))
  | .failed code carriedOut => do
    if carriedOut then transaction (write [(.object key, .exclusive)] (Store.putIfAbsent key bytes))
    else pure ⟨⟩
    .fail (.backupError code)

/-- `readBackup`: the bytes of a copy. -/
def readBackup (config : Config) (key : String) (answer : Answer) : Call (List UInt8) :=
  request key answer do
    let bytes ← query fun s => s.destination key
    let bytes ← expect bytes (.backupError "BACKUP_MISSING")
    assertWithinLimit config bytes.length
    pure bytes

end HttpBackupStorage

open BackupRepository HttpBackupStorage

namespace BackupRunner

/-- How the requests of one run go. -/
structure Answers where
  headBefore : Answer
  readSource : Answer
  headAfter : Answer
  putBackup : Answer
  readBackup : Answer
  putManifest : Answer
  readManifest : Answer

/-- The bytes of the source, with its identity: it is the same before and after it is read. -/
def capture (config : Config) (request : ObjectBackupRequest) (answers : Answers) :
    Call (SourceIdentity × List UInt8) := do
  let before ← headSource config request.sourceKey answers.headBefore
  require (request.expectedSize.all (fun expectedSize => expectedSize = before.size) = true)
    (.backupError "SIZE_MISMATCH")
  let bytes ← readSource config request.sourceKey before.etag answers.readSource
  let after ← headSource config request.sourceKey answers.headAfter
  require (before.etag = after.etag ∧ before.lastModified = after.lastModified ∧
    before.size = after.size ∧ bytes.length = before.size) (.backupError "SOURCE_CHANGED")
  pure (before, bytes)

/-- What `runOne` does with a request that it has claimed. -/
def copy (config : Config) (digest : List UInt8 → String) (lease : Lease) (answers : Answers) :
    Call PUnit := do
  let (before, bytes) ← capture config lease.request answers
  let sha256 := digest bytes
  let generation ← createGeneration lease.request.id config.destinationBucket
  putNew generation.backupKey bytes answers.putBackup
  let restored ← readBackup config generation.backupKey answers.readBackup
  require (restored.length = bytes.length ∧ digest restored = sha256)
    (.backupError "CHECKSUM_MISMATCH")
  let verifiedAt ← query Store.clock
  let metadata := manifest lease.request generation before sha256 config.environment verifiedAt
  putNew generation.manifestKey metadata answers.putManifest
  let written ← readBackup config generation.manifestKey answers.readManifest
  require (metadata = written) (.backupError "MANIFEST_MISMATCH")
  verify lease generation
    { sourceETag := before.etag, sourceLastModified := before.lastModified,
      observedSize := bytes.length, sha256, verifiedAt }

/-- The code that is recorded for an error. -/
def codeOf : Fault → String
  | .backupError code => code
  | _ => "BACKUP_FAILED"

/-- How an attempt has ended. -/
inductive Outcome
  | idle
  | verified
  | failed
  deriving DecidableEq

/-- `runOne`: a request is claimed and copied, and the copy is verified. -/
def runOne (config : Config) (digest : List UInt8 → String) (canClaim : List Bool)
    (answers : Answers) : Call Outcome := do
  let lease ← claimRequest config.sourceBucket canClaim
  match lease with
  | none => pure .idle
  | some lease =>
    tryCatch (do copy config digest lease answers; pure .verified)
      fun e => do fail lease (codeOf e); pure .failed

end BackupRunner

/-! ### What else happens -/

/-- The version of a document that is to be backed up. -/
structure VersionParams where
  sourceBucket : String
  sourceKey : String
  versionId : ℕ
  fileSize : ℕ
  uploadedAt : Time

/-- The request as it is stored, still to be claimed. -/
def VersionParams.row (params : VersionParams) (now : Time) (id : ℕ) : ObjectBackupRequest where
  id := id
  sourceBucket := params.sourceBucket
  sourceKey := params.sourceKey
  referenceType := "DOCUMENT_VERSION"
  referenceId := params.versionId
  expectedSize := some params.fileSize
  nextAttemptAt := now
  finalizedAt := params.uploadedAt

/-- There is a request for the version. -/
def VersionParams.isRequested (params : VersionParams) (s : Store) : Bool :=
  s.requests.rows.any fun r => r.sourceBucket = params.sourceBucket ∧
    r.referenceType = "DOCUMENT_VERSION" ∧ r.referenceId = params.versionId

/-- `enqueueDocumentBackup`, as a call of its own, for any version and under the unique index.
`Documents.enqueueDocumentBackup` is the same function as a part of the transaction that creates the
version; its rows have the same values, and lack the columns that only a runner writes. -/
def enqueueDocumentBackup (params : VersionParams) : Call PUnit := do
  let now ← query Store.clock
  transaction (writeUnless
    [(.reference params.sourceBucket "DOCUMENT_VERSION" params.versionId, .exclusive)]
    (fun s => if params.isRequested s = true then some .uniqueConstraint else none)
    (Store.onRequests (·.create (params.row now) fun _ => rfl)))

/-- Somebody overwrites or deletes a source. -/
def changeSource (key : String) (object : Option SourceObject) : Call PUnit :=
  transaction (write [] (Store.setSource key object))

/-- Time goes by. -/
def wait (milliseconds : ℕ) : Call PUnit := transaction (write [] (Store.advance milliseconds))

end VielHome.Backup
