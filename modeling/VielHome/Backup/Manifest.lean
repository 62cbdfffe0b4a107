import VielHome.Backup.Schema

/-!
# `manifest`

The text that says what was copied, from where and when. It is the JSON text of an object, in
UTF-8: the fields stand in the order in which the source writes them.
-/

namespace VielHome.Backup

open Community (Time)

/-! ### JSON texts -/

/-- A hexadecimal digit. -/
def hexDigit (n : ℕ) : Char := Nat.digitChar n

/-- A character as it stands in a JSON string. -/
def escape (c : Char) : List Char :=
  if c = '"' then ['\\', '"']
  else if c = '\\' then ['\\', '\\']
  else if c.toNat = 8 then ['\\', 'b']
  else if c.toNat = 9 then ['\\', 't']
  else if c.toNat = 10 then ['\\', 'n']
  else if c.toNat = 12 then ['\\', 'f']
  else if c.toNat = 13 then ['\\', 'r']
  else if c.toNat < 32 then ['\\', 'u', '0', '0', hexDigit (c.toNat / 16), hexDigit (c.toNat % 16)]
  else [c]

/-- The characters of a JSON text. -/
abbrev JsonText : Type := List Char

/-- A text as a JSON string. -/
def quote (text : String) : JsonText := '"' :: text.toList.flatMap escape ++ ['"']

/-- A natural number, which stands as its digits. -/
def digits (n : ℕ) : JsonText := Nat.toDigits 10 n

/-- A JSON object, from the names and the JSON texts of its fields. -/
def jsonObject (fields : List (String × JsonText)) : JsonText :=
  '{' :: List.intercalate [','] (fields.map fun field => quote field.1 ++ ':' :: field.2) ++ ['}']

/-! ### Dates -/

/-- A number with at least `width` digits. -/
def padStart (width n : ℕ) : String :=
  String.ofList (List.replicate (width - (toString n).length) '0') ++ toString n

/-- The year, the month and the day, a number of days after the first of January 1970. The years
of the calculation begin in March, and 400 of them have 146097 days. -/
def civil (days : ℤ) : ℤ × ℤ × ℤ :=
  let z := days + 719468
  let era := z / 146097
  let doe := z % 146097
  let yoe := (doe - doe / 1460 + doe / 36524 - doe / 146096) / 365
  let doy := doe - (365 * yoe + yoe / 4 - yoe / 100)
  let mp := (5 * doy + 2) / 153
  let month := if mp < 10 then mp + 3 else mp - 9
  (yoe + era * 400 + if month ≤ 2 then 1 else 0, month, doy - (153 * mp + 2) / 5 + 1)

/-- A year as `toISOString` writes it: with a sign and six digits where four do not do. -/
def isoYear (year : ℤ) : String :=
  if 0 ≤ year ∧ year ≤ 9999 then padStart 4 year.toNat
  else (if year < 0 then "-" else "+") ++ padStart 6 year.natAbs

/-- `Date.prototype.toISOString`, of the milliseconds since 1970. -/
def toISOString (time : Time) : String :=
  let day := time / 86400000
  let rest := (time % 86400000).toNat
  let (year, month, dayOfMonth) := civil day
  isoYear year ++ "-" ++ padStart 2 month.toNat ++ "-" ++ padStart 2 dayOfMonth.toNat ++ "T" ++
    padStart 2 (rest / 3600000) ++ ":" ++ padStart 2 (rest / 60000 % 60) ++ ":" ++
    padStart 2 (rest / 1000 % 60) ++ "." ++ padStart 3 (rest % 1000) ++ "Z"

example : toISOString 1709210096789 = "2024-02-29T12:34:56.789Z" := by decide +kernel

/-! ### The manifest -/

/-- What a `HEAD` request says of a source. -/
structure SourceIdentity where
  etag : String
  lastModified : String
  size : ℕ
  deriving DecidableEq

/-- The text of a manifest. -/
def manifestText (request : ObjectBackupRequest) (generation : ObjectBackupGeneration)
    (source : SourceIdentity) (sha256 environment : String) (verifiedAt : Time) : JsonText :=
  jsonObject
    [("manifestVersion", digits 1),
     ("environment", quote environment),
     ("source", jsonObject
       [("bucket", quote request.sourceBucket),
        ("key", quote request.sourceKey),
        ("size", digits source.size),
        ("etag", quote source.etag),
        ("lastModified", quote source.lastModified)]),
     ("reference", jsonObject
       [("type", quote request.referenceType), ("id", quote (toString request.referenceId))]),
     ("sha256", quote sha256),
     ("destination", jsonObject
       [("bucket", quote generation.backupBucket), ("key", quote generation.backupKey)]),
     ("captureId", quote (toString generation.captureId)),
     ("backupTimestamp", quote (toISOString generation.createdAt)),
     ("verificationTimestamp", quote (toISOString verifiedAt))]

/-- The bytes of a manifest. -/
def manifest (request : ObjectBackupRequest) (generation : ObjectBackupGeneration)
    (source : SourceIdentity) (sha256 environment : String) (verifiedAt : Time) : List UInt8 :=
  (manifestText request generation source sha256 environment verifiedAt).flatMap
    String.utf8EncodeChar

end VielHome.Backup
