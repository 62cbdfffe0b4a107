import Mathlib.Logic.Function.Basic
import Mathlib.Tactic.Simps.Basic
import VielHome.Community.Schema
import VielHome.Relational.ReadCommitted

/-!
# The queue of the object backup

A request asks for one source object to be copied, and is claimed by one runner at a time; each
copy is a generation of its request. The objects are in two storages: the sources may be changed by
anybody at any time, and in the destination an object is put once and never changes. Columns that no
modelled operation reads or writes are left out.
-/

namespace VielHome.Backup

open Relational
open Community (Time)
open Relational.ReadCommitted (Database Event Mode Prog)

/-- An identifier of `randomUUID`. -/
abbrev Uuid : Type := ℕ

/-- How far a request has come. -/
inductive ObjectBackupState
  | pending
  | copying
  | verified
  | failed
  | sourceMissing
  | retired
  deriving DecidableEq

/-- An object that is to be copied. -/
structure ObjectBackupRequest where
  id : ℕ
  sourceBucket : String
  sourceKey : String
  referenceType : String
  referenceId : ℕ
  expectedSize : Option ℕ := none
  state : ObjectBackupState := .pending
  attempts : ℕ := 0
  nextAttemptAt : Time
  leaseUntil : Option Time := none
  leaseOwner : Option Uuid := none
  failureCode : Option String := none
  finalizedAt : Time
  deriving DecidableEq

/-- A copy of an object. -/
structure ObjectBackupGeneration where
  id : ℕ
  requestId : ℕ
  captureId : Uuid
  backupBucket : String
  backupKey : String
  manifestKey : String
  sourceETag : Option String := none
  sourceLastModified : Option String := none
  observedSize : Option ℕ := none
  sha256 : Option String := none
  verifiedAt : Option Time := none
  createdAt : Time
  deriving DecidableEq

/-- An object of the source storage. -/
structure SourceObject where
  bytes : List UInt8
  etag : String
  lastModified : String
  deriving DecidableEq

/-- What a call has done: it has read a source under an ETag, won the lease of a request with an
owner it has drawn, returned the request with the owner that it found there, or changed the request
under its lease. -/
inductive Happening
  | got (key etag : String) (bytes : List UInt8)
  | won (requestId : ℕ) (owner : Uuid)
  | returned (requestId : ℕ) (owner : Uuid) (leaseOwner : Option Uuid)
  | wrote (requestId : ℕ) (owner : Uuid)
  deriving DecidableEq

/-- The tables, the objects of the two storages by their keys, the time, the next identifier that
`randomUUID` draws, and what has happened so far. -/
structure Store where
  requests : Table ObjectBackupRequest ObjectBackupRequest.id
  generations : Table ObjectBackupGeneration ObjectBackupGeneration.id
  sources : String → Option SourceObject
  destination : String → Option (List UInt8)
  clock : Time
  uuids : Uuid
  history : List Happening

/-! ### Writes to one part -/

namespace Store

/-- A change of the requests. -/
@[simps]
def onRequests (f : Table ObjectBackupRequest ObjectBackupRequest.id →
    Table ObjectBackupRequest ObjectBackupRequest.id) (s : Store) : Store :=
  { s with requests := f s.requests }

/-- A change of the copies. -/
@[simps]
def onGenerations (f : Table ObjectBackupGeneration ObjectBackupGeneration.id →
    Table ObjectBackupGeneration ObjectBackupGeneration.id) (s : Store) : Store :=
  { s with generations := f s.generations }

/-- Put a source object under a key, or delete it. -/
@[simps]
def setSource (key : String) (object : Option SourceObject) (s : Store) : Store :=
  { s with sources := Function.update s.sources key object }

/-- Put an object under a key of the destination, unless there is one. -/
@[simps]
def putIfAbsent (key : String) (bytes : List UInt8) (s : Store) : Store :=
  { s with destination := Function.update s.destination key (some ((s.destination key).getD bytes)) }

/-- Time goes by. -/
@[simps]
def advance (milliseconds : ℕ) (s : Store) : Store := { s with clock := s.clock + milliseconds }

/-- The next UUID is drawn. -/
@[simps]
def drawUuid (s : Store) : Store := { s with uuids := s.uuids + 1 }

/-- Record that something has happened. -/
@[simps]
def record (h : Happening) (s : Store) : Store := { s with history := s.history ++ [h] }

end Store

/-! ### Calls and their locks -/

/-- What a statement locks: a row that is updated; the entry of a unique index; an object that is
put; the source of identifiers while one is drawn, and the identifier that was drawn, for which
nobody else ever waits. The last lock is enforced by nobody. It names the lease that a call has won
and not yet read back. -/
inductive Lock
  | request (id : ℕ)
  | generation (id : ℕ)
  | reference (sourceBucket referenceType : String) (referenceId : ℕ)
  | captureId (captureId : Uuid)
  | object (key : String)
  | uuid
  | drawn (uuid : Uuid)
  | lease (requestId : ℕ)
  deriving DecidableEq

/-- The database, or the storage, makes a statement wait for the lock. -/
def Lock.enforced : Lock → Bool
  | lease _ => false
  | _ => true

/-- How a call fails: with the code of a `BackupError`, or because the database refuses. -/
inductive Fault
  | backupError (code : String)
  | recordNotFound
  | uniqueConstraint
  | foreignKey
  deriving DecidableEq

/-- A program of statements on the tables and of requests to the storages. -/
abbrev Call (α : Type) : Type := Prog Store Lock Fault α

/-- The tables, the sessions that run a call each, and the locks they hold. -/
abbrev Sessions (ι α : Type) : Type := Database ι Store Lock Fault α

/-- The sessions after some events, each call about to start on the store. -/
def runCalls {ι α : Type} [DecidableEq ι] (s : Store) (calls : ι → Call α)
    (es : List (Event ι Fault)) : Sessions ι α :=
  Relational.runFrom (Database.next Lock.enforced) (Database.start s calls) es

end VielHome.Backup
