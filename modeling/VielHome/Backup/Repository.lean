import VielHome.Backup.Manifest
import VielHome.Relational.OrderBy

/-!
# `BackupRepository`

A claim looks for requests that may be copied, and tries to take the lease of one after the other:
one update that matches only while the request may still be copied. It returns the row that it reads
afterwards. What is done for a request under its lease matches the owner on the row that was
returned.

The owner that a claim has drawn goes along with the request that it returns, and into the record of
what has happened; nothing that the code does depends on it.
-/

namespace VielHome.Backup

open Relational
open Community (Time)
open Relational.ReadCommitted (Mode Prog)
open Relational.ReadCommitted.Prog (claim commitAll commitKeeping expect query queryUnder transaction
  updateMany write writeUnless)

/-- `randomUUID`. -/
def randomUUID : Call Uuid := do
  let uuid ← queryUnder (fun s => [(.uuid, .exclusive), (.drawn s.uuids, .exclusive)]) Store.uuids
  write [] Store.drawUuid
  commitKeeping [.drawn uuid]
  pure uuid

namespace BackupRepository

/-! ### Leases -/

/-- The request may be copied: nobody is copying it and it is due, or a lease has expired. -/
def eligible (sourceBucket : String) (now : Time) (r : ObjectBackupRequest) : Bool :=
  r.sourceBucket = sourceBucket ∧
    (r.state ∈ [.pending, .failed, .sourceMissing] ∧ r.nextAttemptAt ≤ now ∧ r.attempts < 10 ∨
      r.state = .copying ∧ r.leaseUntil.any (fun leaseUntil => leaseUntil ≤ now) = true)

/-- The ids of the first 25 requests that may be copied. -/
def candidates (sourceBucket : String) (now : Time) (s : Store) : List ℕ :=
  (((s.requests.rows.filter (eligible sourceBucket now)).insertionSort
    fun r r' => r.finalizedAt ≤ r'.finalizedAt).take 25).map ObjectBackupRequest.id

/-- The candidate may still be copied. -/
def isEligible (sourceBucket : String) (now : Time) (requestId : ℕ) (s : Store) : Bool :=
  (s.requests.find? requestId).any (eligible sourceBucket now)

/-- How long a lease lasts: ten minutes. -/
def LEASE : Time := 600000

/-- The request belongs to a runner for a while. -/
def leased (owner : Uuid) (now : Time) (r : ObjectBackupRequest) : ObjectBackupRequest :=
  { r with
    state := .copying
    leaseOwner := some owner
    leaseUntil := some (now + LEASE)
    attempts := r.attempts + 1
    failureCode := none }

theorem leased_id (owner : Uuid) (now : Time) (r : ObjectBackupRequest) :
    (leased owner now r).id = r.id := rfl

/-- A lease that is won is not read back yet. -/
def leaseLocks (sourceBucket : String) (now : Time) (requestId : ℕ) (s : Store) :
    List (Lock × Mode) :=
  (.request requestId, .exclusive) ::
    if isEligible sourceBucket now requestId s = true then [(.lease requestId, .exclusive)] else []

/-- Take the lease of a candidate, if it may still be copied. -/
def takeLease (sourceBucket : String) (now : Time) (requestId : ℕ) (owner : Uuid) : Call Bool := do
  let found ← query (isEligible sourceBucket now requestId)
  if found = true then do
    let still ← queryUnder (leaseLocks sourceBucket now requestId)
      (isEligible sourceBucket now requestId)
    if still = true then do
      write [] fun s => (s.onRequests (·.modify requestId (leased owner now)
        (leased_id owner now))).record (.won requestId owner)
      commitKeeping [.lease requestId]
      pure true
    else do
      commitAll
      pure false
  else do
    commitAll
    pure false

/-- A request as a claim returns it, with the owner that the claim has drawn. -/
structure Lease where
  request : ObjectBackupRequest
  owner : Uuid

/-- The request of a lease that was won, as it is read back. -/
def readBack (requestId : ℕ) (owner : Uuid) : Call Lease := do
  let request ← query fun s => s.requests.find? requestId
  let request ← expect request .recordNotFound
  write [] (Store.record (.returned requestId owner request.leaseOwner))
  commitAll
  pure { request, owner }

/-- The first of the candidates whose lease can be taken. `canClaim` says how often it may be asked
for one more. -/
def claimFirst (sourceBucket : String) (now : Time) : List ℕ → (canClaim : List Bool) →
    Call (Option Lease)
  | requestId :: requestIds, true :: canClaim => do
    let owner ← randomUUID
    let won ← takeLease sourceBucket now requestId owner
    if won = true then do
      let lease ← readBack requestId owner
      pure (some lease)
    else claimFirst sourceBucket now requestIds canClaim
  | _, _ => pure none

/-- `claim`. The answers of `canClaim` are inputs: the first before the look for candidates, one
before each of them, and `false` from the end of the list on. -/
def claimRequest (sourceBucket : String) (canClaim : List Bool) : Call (Option Lease) := do
  let now ← query Store.clock
  match canClaim with
  | true :: canClaim =>
    let requestIds ← query (candidates sourceBucket now)
    claimFirst sourceBucket now requestIds canClaim
  | _ => pure none

/-! ### Generations -/

/-- What a copy is made from. -/
structure GenerationParams where
  requestId : ℕ
  captureId : Uuid
  backupBucket : String

/-- The key of a copy. -/
def backupKey (requestId : ℕ) (captureId : Uuid) : String := s!"objects/v1/{requestId}/{captureId}"

/-- The key of the manifest beside it. -/
def manifestKey (requestId : ℕ) (captureId : Uuid) : String :=
  s!"manifests/v1/{requestId}/{captureId}.json"

/-- The copy as it is stored, still to be verified. -/
def GenerationParams.row (params : GenerationParams) (now : Time) (id : ℕ) :
    ObjectBackupGeneration where
  id := id
  requestId := params.requestId
  captureId := params.captureId
  backupBucket := params.backupBucket
  backupKey := backupKey params.requestId params.captureId
  manifestKey := manifestKey params.requestId params.captureId
  createdAt := now

theorem GenerationParams.row_id (params : GenerationParams) (now : Time) (id : ℕ) :
    (params.row now id).id = id := rfl

/-- What refuses a new generation: one of its unique columns is taken, or its request is missing. -/
def GenerationParams.refused (params : GenerationParams) (s : Store) : Option Fault :=
  if s.generations.rows.any fun g => g.captureId = params.captureId ∨
      g.backupKey = backupKey params.requestId params.captureId ∨
      g.manifestKey = manifestKey params.requestId params.captureId then some .uniqueConstraint
  else if (s.requests.find? params.requestId).isNone then some .foreignKey
  else none

/-- The copy with a capture id, of which there is one. -/
def findGeneration (captureId : Uuid) (s : Store) : Option ObjectBackupGeneration :=
  s.generations.rows.find? fun g => g.captureId = captureId

/-- The generation, which is found by its capture. -/
def createGeneration (requestId : ℕ) (backupBucket : String) : Call ObjectBackupGeneration := do
  let captureId ← randomUUID
  let now ← query Store.clock
  writeUnless [(.captureId captureId, .exclusive)]
    (GenerationParams.refused { requestId, captureId, backupBucket })
    (Store.onGenerations (·.create (GenerationParams.row { requestId, captureId, backupBucket } now)
      (GenerationParams.row_id _ now)))
  commitAll
  let generation ← query (findGeneration captureId)
  expect generation .recordNotFound

/-! ### The end of a copy -/

/-- What was found when a copy was verified. -/
structure Verification where
  sourceETag : String
  sourceLastModified : String
  observedSize : ℕ
  sha256 : String
  verifiedAt : Time

/-- The `where` clause of both updates of a request under its lease. -/
def isOwned (leaseOwner : Option Uuid) (r : ObjectBackupRequest) : Bool :=
  r.state = .copying ∧ r.leaseOwner = leaseOwner

/-- The lease has not expired. -/
def isActive (leaseOwner : Option Uuid) (now : Time) (r : ObjectBackupRequest) : Bool :=
  isOwned leaseOwner r = true ∧ r.leaseUntil.any (fun leaseUntil => now < leaseUntil) = true

/-- The request is done. -/
def verified (r : ObjectBackupRequest) : ObjectBackupRequest :=
  { r with state := .verified, leaseOwner := none, leaseUntil := none, failureCode := none }

theorem verified_id (r : ObjectBackupRequest) : (verified r).id = r.id := rfl

/-- The copy with what was found. -/
def Verification.complete (data : Verification) (g : ObjectBackupGeneration) :
    ObjectBackupGeneration :=
  { g with
    sourceETag := some data.sourceETag
    sourceLastModified := some data.sourceLastModified
    observedSize := some data.observedSize
    sha256 := some data.sha256
    verifiedAt := some data.verifiedAt }

theorem Verification.complete_id (data : Verification) (g : ObjectBackupGeneration) :
    (data.complete g).id = g.id := rfl

/-- `verify`: under the lease, the request and the copy are marked. -/
def verify (lease : Lease) (generation : ObjectBackupGeneration) (data : Verification) :
    Call PUnit :=
  transaction do
    let now ← query Store.clock
    claim (.request lease.request.id)
      (fun s => (s.requests.find? lease.request.id).any (isActive lease.request.leaseOwner now))
      (.backupError "LEASE_LOST")
      fun s => (s.onRequests (·.modify lease.request.id verified verified_id)).record
        (.wrote lease.request.id lease.owner)
    claim (.generation generation.id)
      (fun s => (s.generations.find? generation.id).any fun g => g.requestId = lease.request.id)
      (.backupError "GENERATION_MISMATCH")
      (Store.onGenerations (·.modify generation.id data.complete data.complete_id))

/-- The seconds until the next attempt. -/
def backoff (attempts : ℕ) : ℕ := min 300 (30 * 2 ^ min (attempts - 1) 4)

/-- The request is to be tried again later, or its source is gone. -/
def failed (code : String) (nextAttemptAt : Time) (r : ObjectBackupRequest) : ObjectBackupRequest :=
  { r with
    state := if code = "SOURCE_MISSING" then .sourceMissing else .failed
    failureCode := some code
    leaseUntil := none
    leaseOwner := none
    nextAttemptAt }

theorem failed_id (code : String) (nextAttemptAt : Time) (r : ObjectBackupRequest) :
    (failed code nextAttemptAt r).id = r.id := rfl

/-- `fail`: under the lease, the request is put off. -/
def fail (lease : Lease) (code : String) : Call PUnit :=
  transaction do
    let now ← query Store.clock
    let nextAttemptAt := now + backoff lease.request.attempts * 1000
    updateMany
      (fun s => if (s.requests.find? lease.request.id).any (isOwned lease.request.leaseOwner) = true
        then [lease.request.id] else [])
      Lock.request (fun id s => (s.requests.find? id).any (isOwned lease.request.leaseOwner))
      fun id s => (s.onRequests (·.modify id (failed code nextAttemptAt)
        (failed_id code nextAttemptAt))).record (.wrote id lease.owner)

end BackupRepository

end VielHome.Backup
