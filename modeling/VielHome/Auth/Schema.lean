import VielHome.Community.Locks

/-!
# The tables of the authentication

The one-time codes, the devices and the refresh tokens, beside the tables of the community with its
people and the staff of the platform. The store also has a record of what the calls have done,
which no statement reads. Columns that no modelled operation reads or writes are left out.
-/

namespace VielHome.Auth

open Relational Community
open Relational.ReadCommitted (Database Event Mode Prog)

/-- What a code is for. -/
inductive OtpPurpose
  | login
  | register
  | verifyPhone
  deriving DecidableEq

/-- A code that was sent to a phone. -/
structure OtpRequest where
  id : ℕ
  phone : String
  purpose : OtpPurpose
  codeHash : String
  attempts : ℕ := 0
  maxAttempts : ℕ := 5
  expiresAt : Time
  consumedAt : Option Time := none
  createdAt : Time
  deriving DecidableEq

/-- A device that somebody has signed in with. -/
structure Device where
  id : ℕ
  personId : ℕ
  deviceToken : String
  platform : String
  lastSeenAt : Time
  revokedAt : Option Time := none
  deriving DecidableEq

/-- A token that keeps somebody signed in. -/
structure RefreshToken where
  id : ℕ
  personId : ℕ
  deviceId : ℕ
  tokenHash : String
  expiresAt : Time
  revokedAt : Option Time := none
  replacedBy : Option ℕ := none
  deriving DecidableEq

/-- What a call has done: it has compared a code with the hash of a request, claimed a request,
minted a token for a login, or replaced a token by its successor. -/
inductive Happening
  | compared (requestId : ℕ) (code : String)
  | claimed (requestId : ℕ)
  | loggedIn (tokenId : ℕ)
  | rotated (tokenId successorId : ℕ)
  deriving DecidableEq

/-- The tables of the community, those of the authentication, and what has happened so far. -/
structure Store extends communityStore : Community.Store where
  otpRequests : Table OtpRequest OtpRequest.id
  devices : Table Device Device.id
  refreshTokens : Table RefreshToken RefreshToken.id
  history : List Happening

/-- The store before anything happened. -/
def Store.empty : Store where
  communityStore := Community.Store.empty
  otpRequests := .empty
  devices := .empty
  refreshTokens := .empty
  history := []

/-! ### Writes to one table -/

namespace Store

/-- A change of the tables of the community. -/
@[simps communityStore otpRequests devices refreshTokens history]
def onCommunity (f : Community.Store → Community.Store) (s : Store) : Store :=
  { s with communityStore := f s.communityStore }

/-- A change of the codes. -/
@[simps communityStore otpRequests devices refreshTokens history]
def onOtpRequests (f : Table OtpRequest OtpRequest.id → Table OtpRequest OtpRequest.id)
    (s : Store) : Store :=
  { s with otpRequests := f s.otpRequests }

/-- A change of the devices. -/
@[simps communityStore otpRequests devices refreshTokens history]
def onDevices (f : Table Device Device.id → Table Device Device.id) (s : Store) : Store :=
  { s with devices := f s.devices }

/-- A change of the tokens. -/
@[simps communityStore otpRequests devices refreshTokens history]
def onRefreshTokens (f : Table RefreshToken RefreshToken.id → Table RefreshToken RefreshToken.id)
    (s : Store) : Store :=
  { s with refreshTokens := f s.refreshTokens }

/-- Record that something has happened. -/
@[simps communityStore otpRequests devices refreshTokens history]
def record (h : Happening) (s : Store) : Store := { s with history := s.history ++ [h] }

end Store

/-! ### Calls and their locks -/

/-- What a statement locks: what a statement on the community locks; a row that is updated; the
entry of a unique index. The last two locks are enforced by nobody. They name what a call looks at
before it writes: the wrong guesses at a code, and the sessions of the person with a phone. -/
inductive Lock
  | community (l : Community.Lock)
  | otpRequest (id : ℕ)
  | deviceToken (deviceToken : String)
  | refreshToken (id : ℕ)
  | tokenHash (tokenHash : String)
  | guesses (requestId : ℕ)
  | sessions (phone : String)
  deriving DecidableEq

/-- The database makes a statement wait for the lock. -/
def Lock.enforced : Lock → Bool
  | community l => l.enforced
  | guesses _ => false
  | sessions _ => false
  | _ => true

/-- A program of statements on the tables. -/
abbrev Call (α : Type) : Type := Prog Store Lock Failure α

/-- The tables, the sessions that run a call each, and the locks they hold. -/
abbrev Sessions (ι α : Type) : Type := Database ι Store Lock Failure α

/-- The sessions after some events, each call about to start on the store. -/
def runCalls {ι α : Type} [DecidableEq ι] (s : Store) (calls : ι → Call α)
    (es : List (Event ι Failure)) : Sessions ι α :=
  Relational.runFrom (Database.next Lock.enforced) (Database.start s calls) es

end VielHome.Auth
