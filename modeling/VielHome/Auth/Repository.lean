import VielHome.Auth.Schema
import VielHome.Backoffice.Repository
import VielHome.Building.Service
import VielHome.Relational.Embedding

/-!
# `OtpPolicy`, `AuthRepository` and a part of `BackOfficeRepository`

The statements about one-time codes, devices and refresh tokens, and the suspension of a person by
staff, which revokes the tokens of the person. A row that is created and then pointed to in one
transaction is written by one statement.
-/

namespace VielHome.Auth

open Relational Community
open Relational.ReadCommitted (Mode Prog)
open Relational.ReadCommitted.Prog (claim commitKeeping expect query queryUnder require transaction
  updateEach write writeIf writeUnless)

/-- A program on the tables of the community. -/
def onCommunity {α : Type} (p : Community.Call α) : Call α :=
  p.lift Store.communityStore (fun c s => s.onCommunity fun _ => c) Lock.community

/-! ### `OtpPolicy` -/

namespace OtpPolicy

/-- The code is still to be used, and its time is not over. -/
def assertNotExpired (otp : OtpRequest) (now : Time) : Call PUnit := do
  require (otp.consumedAt = none) (.businessRuleViolation "This code has already been used.")
  require (now ≤ otp.expiresAt)
    (.businessRuleViolation "This code has expired. Request a new one.")

/-- The code may be guessed once more. -/
def assertAttemptsRemaining (otp : OtpRequest) : Call PUnit :=
  require (otp.attempts < otp.maxAttempts)
    (.rateLimit "Too many incorrect attempts. Request a new code.")

end OtpPolicy

namespace AuthRepository

/-! ### One-time codes -/

/-- What a code is made from. -/
structure OtpParams where
  phone : String
  purpose : OtpPurpose
  codeHash : String
  expiresAt : Time
  maxAttempts : ℕ

/-- The code as it is stored. -/
def OtpParams.row (params : OtpParams) (now : Time) (id : ℕ) : OtpRequest where
  id := id
  phone := params.phone
  purpose := params.purpose
  codeHash := params.codeHash
  maxAttempts := params.maxAttempts
  expiresAt := params.expiresAt
  createdAt := now

/-- `createOtpRequest`. -/
def createOtpRequest (params : OtpParams) (now : Time) : Call PUnit :=
  transaction (write [] (Store.onOtpRequests (·.create (params.row now) fun _ => rfl)))

/-- The requests for a phone and a purpose that have not been consumed. -/
def activeOtps (phone : String) (purpose : OtpPurpose) (s : Store) : List OtpRequest :=
  s.otpRequests.rows.filter fun r => r.phone = phone ∧ r.purpose = purpose ∧ r.consumedAt = none

/-- The first of them by `createdAt desc`. -/
def findLatestActiveOtp (phone : String) (purpose : OtpPurpose) (s : Store) : Option OtpRequest :=
  ((activeOtps phone purpose s).insertionSort fun r r' => r'.createdAt ≤ r.createdAt).head?

/-- One more guess is counted. -/
def attempted (r : OtpRequest) : OtpRequest := { r with attempts := r.attempts + 1 }

theorem attempted_id (r : OtpRequest) : (attempted r).id = r.id := rfl

/-- `incrementOtpAttempts`: an increment by the id. -/
def incrementOtpAttempts (id : ℕ) : Call PUnit :=
  transaction (writeIf [(.otpRequest id, .exclusive)] (fun s => (s.otpRequests.find? id).isSome)
    .recordNotFound (Store.onOtpRequests (·.modify id attempted attempted_id)))

/-- A code as it was read, to be used up. -/
structure ClaimOtpParams where
  id : ℕ
  phone : String
  purpose : OtpPurpose
  codeHash : String
  attempts : ℕ
  now : Time

/-- The `where` clause of `claimOtp`. -/
def ClaimOtpParams.matches_ (params : ClaimOtpParams) (r : OtpRequest) : Bool :=
  r.phone = params.phone ∧ r.purpose = params.purpose ∧ r.codeHash = params.codeHash ∧
    r.attempts = params.attempts ∧ r.consumedAt = none ∧ params.now < r.expiresAt

/-- The code is used up. -/
def otpConsumed (now : Time) (r : OtpRequest) : OtpRequest := { r with consumedAt := some now }

theorem otpConsumed_id (now : Time) (r : OtpRequest) : (otpConsumed now r).id = r.id := rfl

/-- The request is claimed, or the call fails. -/
def claimOtp (params : ClaimOtpParams) : Call PUnit :=
  transaction (claim (.otpRequest params.id)
    (fun s => (s.otpRequests.find? params.id).any params.matches_)
    (.authorization "This code has already been used or is no longer valid.")
    fun s => (s.onOtpRequests (·.modify params.id (otpConsumed params.now)
      (otpConsumed_id params.now))).record (.claimed params.id))

/-! ### People and devices -/

/-- `findPersonByPhone`. -/
def findPersonByPhone (phone : String) (s : Store) : Option Person :=
  Building.AuthService.findPersonByPhone phone s.communityStore

/-- `findPersonById`. -/
def findPersonById (id : ℕ) (s : Store) : Option Person := s.persons.find? id

/-- What the caller gets is the row as it was created, which it finds by its phone. -/
def createPerson (phone : String) : Call Person := do
  writeUnless [(.community (.phoneKey phone), .exclusive)]
    (fun s => if (findPersonByPhone phone s).isSome then some .uniqueConstraint else none)
    fun s => s.onCommunity (Community.Store.onPersons (·.create (fun id => { id, phone })
      fun _ => rfl))
  commitKeeping [.sessions phone]
  let person ← query (findPersonByPhone phone)
  let person ← expect person .recordNotFound
  pure { person with isSuspended := false }

/-- A device that somebody signs in with. -/
structure DeviceParams where
  personId : ℕ
  deviceToken : String
  platform : String

/-- The device as it is stored. -/
def DeviceParams.row (params : DeviceParams) (now : Time) (id : ℕ) : Device where
  id := id
  personId := params.personId
  deviceToken := params.deviceToken
  platform := params.platform
  lastSeenAt := now

/-- The device with a token, of which there is one. -/
def findDevice (deviceToken : String) (s : Store) : Option Device :=
  s.devices.rows.find? fun d => d.deviceToken = deviceToken

/-- The device belongs to who signs in with it, and is not revoked any more. -/
def DeviceParams.seen (params : DeviceParams) (now : Time) (d : Device) : Device :=
  { d with personId := params.personId, lastSeenAt := now, revokedAt := none }

theorem DeviceParams.seen_id (params : DeviceParams) (now : Time) (d : Device) :
    (params.seen now d).id = d.id := rfl

/-- The device is updated, or inserted. -/
def DeviceParams.upsert (params : DeviceParams) (now : Time) (s : Store) : Store :=
  match findDevice params.deviceToken s with
  | some device => s.onDevices (·.modify device.id (params.seen now) (params.seen_id now))
  | none => s.onDevices (·.create (params.row now) fun _ => rfl)

/-- The device, which is found by its token. The locks of `keep` outlast the transaction. -/
def upsertDevice (params : DeviceParams) (now : Time) (keep : List Lock) : Call Device := do
  writeUnless [(.deviceToken params.deviceToken, .exclusive)]
    (fun s => if (s.persons.find? params.personId).isSome then none else some .foreignKey)
    (params.upsert now)
  commitKeeping keep
  let device ← query (findDevice params.deviceToken)
  expect device .recordNotFound

/-! ### Refresh tokens -/

/-- `findRefreshTokenByHash`. -/
def findRefreshTokenByHash (tokenHash : String) (s : Store) : Option RefreshToken :=
  s.refreshTokens.rows.find? fun t => t.tokenHash = tokenHash

/-- What a refresh token is made from. -/
structure TokenParams where
  personId : ℕ
  deviceId : ℕ
  tokenHash : String
  expiresAt : Time

/-- The token as it is stored. -/
def TokenParams.row (params : TokenParams) (id : ℕ) : RefreshToken where
  id := id
  personId := params.personId
  deviceId := params.deviceId
  tokenHash := params.tokenHash
  expiresAt := params.expiresAt

theorem TokenParams.row_id (params : TokenParams) (id : ℕ) : (params.row id).id = id := rfl

/-- What refuses a new token: its hash is taken, or its person or its device is missing. -/
def TokenParams.refused (params : TokenParams) (s : Store) : Option Failure :=
  if (findRefreshTokenByHash params.tokenHash s).isSome then some .uniqueConstraint
  else if (s.persons.find? params.personId).isNone ∨ (s.devices.find? params.deviceId).isNone then
    some .foreignKey
  else none

/-- The token is inserted. -/
def TokenParams.create (params : TokenParams) (s : Store) : Store :=
  s.onRefreshTokens (·.create params.row params.row_id)

/-- `createRefreshToken`: an insertion, with its unique index and its foreign keys. -/
def createRefreshToken (params : TokenParams) : Call PUnit :=
  transaction (writeUnless [(.tokenHash params.tokenHash, .exclusive)] params.refused fun s =>
    (params.create s).record (.loggedIn s.refreshTokens.next))

/-- The token is good for nothing any more. -/
def tokenRevoked (now : Time) (t : RefreshToken) : RefreshToken := { t with revokedAt := some now }

theorem tokenRevoked_id (now : Time) (t : RefreshToken) : (tokenRevoked now t).id = t.id := rfl

/-- The token has a successor. -/
def replaced (successorId : ℕ) (t : RefreshToken) : RefreshToken :=
  { t with replacedBy := some successorId }

theorem replaced_id (successorId : ℕ) (t : RefreshToken) : (replaced successorId t).id = t.id := rfl

/-- A token that is to be replaced, and by what. -/
structure RotateParams where
  id : ℕ
  successor : TokenParams
  now : Time

/-- The `where` clause of `rotateRefreshToken`. -/
def RotateParams.matches_ (params : RotateParams) (t : RefreshToken) : Bool :=
  t.personId = params.successor.personId ∧ t.deviceId = params.successor.deviceId ∧
    t.revokedAt = none ∧ params.now < t.expiresAt

/-- Create the successor, and point the token at it. -/
def RotateParams.succeed (params : RotateParams) (s : Store) : Store :=
  ((params.successor.create s).onRefreshTokens
    (·.modify params.id (replaced s.refreshTokens.next) (replaced_id s.refreshTokens.next))).record
      (.rotated params.id s.refreshTokens.next)

/-- The token is rotated, or the call fails. -/
def rotateRefreshToken (params : RotateParams) : Call PUnit :=
  transaction do
    claim (.refreshToken params.id)
      (fun s => (s.refreshTokens.find? params.id).any params.matches_)
      (.authorization "Refresh token has already been used or is no longer valid.")
      (Store.onRefreshTokens (·.modify params.id (tokenRevoked params.now)
        (tokenRevoked_id params.now)))
    writeUnless [(.tokenHash params.successor.tokenHash, .exclusive)] params.successor.refused
      params.succeed

end AuthRepository

/-! ### Suspensions by staff -/

namespace BackOfficeRepository

open Backoffice.BackOfficeRepository (ChangePersonSuspensionParams assertSuspensionChange
  findSuspensionTarget getActivePlatformStaff outranked)
open Backoffice (advisoryLock)
open AuthRepository (tokenRevoked tokenRevoked_id)

/-- The sessions of a person, by the phone of the person. -/
def sessionsOf (personId : ℕ) (mode : Mode) (s : Store) : List (Lock × Mode) :=
  match s.persons.find? personId with
  | some person => [(.sessions person.phone, mode)]
  | none => []

/-- The person has the token, which has not been revoked. -/
def isLive (personId : ℕ) (t : RefreshToken) : Bool := t.personId = personId ∧ t.revokedAt = none

/-- `refreshToken.updateMany`: the tokens of a person that have not been revoked. -/
def revokeRefreshTokens (personId : ℕ) (now : Time) : Call PUnit := do
  let tokens ← queryUnder (sessionsOf personId .exclusive) fun s =>
    (s.refreshTokens.rows.filter (isLive personId)).map RefreshToken.id
  updateEach tokens Lock.refreshToken (fun id s => (s.refreshTokens.find? id).any (isLive personId))
    fun id => Store.onRefreshTokens (·.modify id (tokenRevoked now) (tokenRevoked_id now))

/-- Somebody is suspended, or no longer. -/
def suspensionChanged (suspend : Bool) (r : Person) : Person := { r with isSuspended := suspend }

theorem suspensionChanged_id (suspend : Bool) (r : Person) : (suspensionChanged suspend r).id = r.id :=
  rfl

/-- Whom staff suspends loses every session. The audit record is left out. -/
def changePersonSuspensionAtomically (params : ChangePersonSuspensionParams) (now : Time) :
    Call PUnit :=
  transaction do
    onCommunity (advisoryLock (.userAdmin params.targetPersonId))
    require (params.targetPersonId ≠ params.actorPersonId)
      (.conflict "Staff cannot change their own suspension state.")
    let actor ← query fun s => getActivePlatformStaff params.actorPersonId s.communityStore
    let target ← query fun s => findSuspensionTarget params.targetPersonId s.communityStore
    let targetStaff ← expect target (.notFound "Person not found.")
    let actor ← expect actor (.conflict "Active staff identity is required.")
    require (outranked actor.role targetStaff = false)
      (.conflict "Staff cannot target equal or higher-ranked staff.")
    onCommunity (assertSuspensionChange params targetStaff)
    claim (.community (.row .person params.targetPersonId))
      (fun s => (s.persons.find? params.targetPersonId).any fun r => r.isSuspended = !params.suspend)
      (.conflict "Person suspension state changed.")
      fun s => s.onCommunity (Community.Store.onPersons (·.modify params.targetPersonId
        (suspensionChanged params.suspend) (suspensionChanged_id params.suspend)))
    if params.suspend then revokeRefreshTokens params.targetPersonId now else pure ⟨⟩

end BackOfficeRepository

end VielHome.Auth
