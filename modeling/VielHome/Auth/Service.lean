import VielHome.Auth.Repository

/-!
# `AuthService`

A code is requested for a phone and a purpose, and whoever knows the code logs in on a device with
it: the login mints a refresh token, and every refresh replaces the token by a successor. The hash
of codes and tokens is a parameter. Codes and tokens are chosen at random, and are inputs of the
call that chooses them. Access tokens, the audit, the events, and the units that a login links to
their owner write nothing that a call here reads, and are left out.
-/

namespace VielHome.Auth

open Relational Community
open Relational.ReadCommitted (Mode Prog)
open Relational.ReadCommitted.Prog (commitKeeping expect query queryUnder require write)
open AuthRepository BackOfficeRepository

/-- The settings of the authentication. -/
structure Config where
  otpTtl : Time
  otpMaxAttempts : ℕ
  refreshExpiresIn : Time

namespace OtpDomainService

/-- The code is the one that was hashed. -/
def verifyCode (hash : String → String) (code codeHash : String) : Bool := hash code = codeHash

end OtpDomainService

open OtpDomainService

namespace AuthService

/-- Somebody asks for a code. -/
structure RequestOtpDto where
  phone : String
  purpose : OtpPurpose := .login

/-- The code is created before it is delivered, and stays when the delivery fails. -/
def requestOtp (hash : String → String) (config : Config) (dto : RequestOtpDto) (code : String)
    (delivered : Bool) (now : Time) : Call PUnit := do
  createOtpRequest
    { phone := dto.phone, purpose := dto.purpose, codeHash := hash code,
      expiresAt := now + config.otpTtl, maxAttempts := config.otpMaxAttempts } now
  require (delivered = true) (.serviceUnavailable
    "Verification code delivery is temporarily unavailable. Please try again.")

/-- Somebody gives a code. -/
structure VerifyOtpDto where
  phone : String
  code : String
  purpose : OtpPurpose := .login
  deviceToken : String
  platform : String

/-- The call gets to compare its code with the hash of the request. -/
def compares (now : Time) (r : OtpRequest) : Bool :=
  now ≤ r.expiresAt ∧ r.attempts < r.maxAttempts

/-- A wrong guess is one until it has been counted. -/
def guessLock (hash : String → String) (dto : VerifyOtpDto) (now : Time) (s : Store) :
    List (Lock × Mode) :=
  match findLatestActiveOtp dto.phone dto.purpose s with
  | some r =>
    if compares now r = true ∧ verifyCode hash dto.code r.codeHash = false then
      [(.guesses r.id, .exclusive)]
    else []
  | none => []

/-- The code is compared. -/
def compareCode (requestId : ℕ) (code : String) : Call PUnit := do
  write [] (Store.record (.compared requestId code))
  commitKeeping [.guesses requestId]

/-- The request for the code is claimed, or the wrong guess is counted. -/
def acceptCode (hash : String → String) (dto : VerifyOtpDto) (now : Time) : Call PUnit := do
  let otpRequest ← queryUnder (guessLock hash dto now) (findLatestActiveOtp dto.phone dto.purpose)
  let otpRequest ← expect otpRequest
    (.businessRuleViolation "No active code found for this number. Request a new one.")
  OtpPolicy.assertNotExpired otpRequest now
  OtpPolicy.assertAttemptsRemaining otpRequest
  compareCode otpRequest.id dto.code
  if verifyCode hash dto.code otpRequest.codeHash = true then
    claimOtp
      { id := otpRequest.id, phone := dto.phone, purpose := dto.purpose,
        codeHash := otpRequest.codeHash, attempts := otpRequest.attempts, now }
  else do
    incrementOtpAttempts otpRequest.id
    .fail (.authorization "Incorrect code.")

/-- The person with the phone, who is created at the first login. -/
def findOrCreatePerson (phone : String) : Call Person := do
  let person ← queryUnder (fun _ => [(.sessions phone, .shared)]) (findPersonByPhone phone)
  match person with
  | some person => pure person
  | none => createPerson phone

/-- `issueTokenPair`: the hash of the new token is stored. -/
def issueTokenPair (hash : String → String) (config : Config) (personId deviceId : ℕ)
    (rawRefreshToken : String) (now : Time) : Call PUnit :=
  createRefreshToken
    { personId, deviceId, tokenHash := hash rawRefreshToken,
      expiresAt := now + config.refreshExpiresIn }

/-- `verifyOtp`: a code that is right signs in, unless its person is suspended. -/
def verifyOtp (hash : String → String) (config : Config) (dto : VerifyOtpDto)
    (rawRefreshToken : String) (now : Time) : Call PUnit := do
  acceptCode hash dto now
  let person ← findOrCreatePerson dto.phone
  require (person.isSuspended = false)
    (.authorization "Your account has been suspended. Contact support for assistance.")
  let device ← upsertDevice
    { personId := person.id, deviceToken := dto.deviceToken, platform := dto.platform } now
    [.sessions dto.phone]
  issueTokenPair hash config person.id device.id rawRefreshToken now

/-- `refresh`: a token that is good is replaced by another one. -/
def refresh (hash : String → String) (config : Config) (refreshToken rawRefreshToken : String)
    (now : Time) : Call PUnit := do
  let existing ← query (findRefreshTokenByHash (hash refreshToken))
  let existing ← expect existing (.notFound "Refresh token not recognized.")
  require (existing.revokedAt = none) (.authorization "Refresh token has been revoked.")
  require (now ≤ existing.expiresAt)
    (.authorization "Refresh token expired. Please sign in again.")
  let person ← queryUnder (sessionsOf existing.personId .shared) (findPersonById existing.personId)
  require ((person.any fun r => r.isSuspended = false) = true)
    (.authorization "Your account has been suspended. Contact support for assistance.")
  rotateRefreshToken
    { id := existing.id, now
      successor := { personId := existing.personId, deviceId := existing.deviceId,
                     tokenHash := hash rawRefreshToken,
                     expiresAt := now + config.refreshExpiresIn } }

end AuthService

end VielHome.Auth
