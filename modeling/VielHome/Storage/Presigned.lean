import Mathlib.Data.Char
import Mathlib.Data.List.Lex
import VielHome.Encoding.Percent
import VielHome.Encoding.Url
import Mathlib.Data.List.Sort

/-!
# Presigned URLs

The signer of the object storage puts the query together, signs the request with it and writes the
signature at the end. A server that reads the URL has the parameters in the order in which they were
signed, and each of them decodes to what it was, so it computes the signature that it finds.
-/

namespace VielHome.Storage

open Encoding

/-! ### `sigv4.ts` -/

/-- What may be done with an object. -/
inductive Method
  | DELETE
  | GET
  | PUT
  | HEAD
  deriving DecidableEq

/-- The method as it stands in a request. -/
def Method.toString : Method → String
  | DELETE => "DELETE"
  | GET => "GET"
  | PUT => "PUT"
  | HEAD => "HEAD"

/-- `/[A-Za-z0-9\-_.~]/`. -/
def isUnreserved (ch : Char) : Bool :=
  ch.isUpper || ch.isLower || ch.isDigit || ch = '-' || ch = '_' || ch = '.' || ch = '~'

/-- `byte.toString(16).toUpperCase().padStart(2, '0')`. -/
def hexUpper (byte : UInt8) : List Char :=
  [(Nat.digitChar (byte.toNat / 16)).toUpper, (Nat.digitChar (byte.toNat % 16)).toUpper]

/-- `uriEncode`: what is not unreserved is written byte by byte. -/
def uriEncode (input : String) (encodeSlash : Bool) : String :=
  String.ofList (input.toList.flatMap fun ch =>
    if isUnreserved ch then [ch]
    else if ch = '/' ∧ encodeSlash = false then [ch]
    else (String.utf8EncodeChar ch).flatMap fun byte => '%' :: hexUpper byte)

/-- `replace(/[:-]|\.\d{3}/g, '')`. -/
def stripSeparators : List Char → List Char
  | '.' :: a :: b :: c :: rest =>
    if a.isDigit ∧ b.isDigit ∧ c.isDigit then stripSeparators rest
    else '.' :: stripSeparators (a :: b :: c :: rest)
  | ch :: rest =>
    if ch = ':' ∨ ch = '-' then stripSeparators rest else ch :: stripSeparators rest
  | [] => []

/-- A time is given by its `toISOString()`. -/
def toAmzDate (toISOString : String) : String :=
  String.ofList (stripSeparators toISOString.toList)

/-- The functions of the platform. -/
structure Crypto where
  /-- The digest of the text, in hexadecimal digits. -/
  sha256Hex : String → String
  /-- The HMAC of a text under a key. -/
  hmac : List UInt8 → String → List UInt8

/-- A text as the key of an HMAC. -/
def keyOfString (key : String) : List UInt8 := key.toList.flatMap String.utf8EncodeChar

/-- `toString('hex')`. -/
def hex (bytes : List UInt8) : String :=
  String.ofList (bytes.flatMap fun byte =>
    [Nat.digitChar (byte.toNat / 16), Nat.digitChar (byte.toNat % 16)])

/-- `buildCanonicalQueryString`: the parameters, encoded and sorted. -/
def buildCanonicalQueryString (params : List (String × String)) : String :=
  let encoded := params.map fun (k, v) => (uriEncode k true, uriEncode v true)
  let sorted := encoded.mergeSort fun (a, _) (b, _) => decide (a ≤ b)
  "&".intercalate (sorted.map fun (k, v) => k ++ "=" ++ v)

/-- `buildCanonicalRequest`: the request as it is signed. -/
def buildCanonicalRequest (method : Method) (canonicalUri canonicalQueryString host : String) :
    String :=
  "\n".intercalate
    [method.toString, canonicalUri, canonicalQueryString, "host:" ++ host ++ "\n", "host",
      "UNSIGNED-PAYLOAD"]

/-- `buildStringToSign`. -/
def buildStringToSign (crypto : Crypto) (amzDate credentialScope canonicalRequest : String) :
    String :=
  "\n".intercalate
    ["AWS4-HMAC-SHA256", amzDate, credentialScope, crypto.sha256Hex canonicalRequest]

/-- `deriveSigningKey`. -/
def deriveSigningKey (crypto : Crypto) (secretAccessKey dateStamp region : String) : List UInt8 :=
  let kDate := crypto.hmac (keyOfString ("AWS4" ++ secretAccessKey)) dateStamp
  let kRegion := crypto.hmac kDate region
  let kService := crypto.hmac kRegion "s3"
  crypto.hmac kService "aws4_request"

/-- A request that is to be signed. -/
structure PresignInput where
  method : Method
  host : String
  canonicalUri : String
  /-- `String(input.expiresInSeconds)`. -/
  expiresInSeconds : String
  /-- The `toISOString()` of the time. -/
  now : String
  useSsl : Bool

/-- Who signs it. -/
structure SigV4Credentials where
  accessKeyId : String
  secretAccessKey : String
  region : String

/-- `amzDate.slice(0, 8)`. -/
def dateStampOf (amzDate : String) : String := String.ofList (amzDate.toList.take 8)

/-- The parameters that are signed. -/
def signedParams (credential amzDate expiresInSeconds : String) : List (String × String) :=
  [("X-Amz-Algorithm", "AWS4-HMAC-SHA256"), ("X-Amz-Credential", credential),
    ("X-Amz-Date", amzDate), ("X-Amz-Expires", expiresInSeconds), ("X-Amz-SignedHeaders", "host")]

/-- `presignUrl`: the URL with its signature. -/
def presignUrl (crypto : Crypto) (input : PresignInput) (creds : SigV4Credentials) : String :=
  let amzDate := toAmzDate input.now
  let dateStamp := dateStampOf amzDate
  let region := if creds.region = "" then "us-east-1" else creds.region
  let credentialScope := dateStamp ++ "/" ++ region ++ "/s3/aws4_request"
  let credential := creds.accessKeyId ++ "/" ++ credentialScope
  let canonicalQueryString :=
    buildCanonicalQueryString (signedParams credential amzDate input.expiresInSeconds)
  let canonicalRequest :=
    buildCanonicalRequest input.method input.canonicalUri canonicalQueryString input.host
  let stringToSign := buildStringToSign crypto amzDate credentialScope canonicalRequest
  let signingKey := deriveSigningKey crypto creds.secretAccessKey dateStamp region
  let signature := hex (crypto.hmac signingKey stringToSign)
  let scheme := if input.useSsl then "https" else "http"
  scheme ++ "://" ++ input.host ++ input.canonicalUri ++ "?" ++ canonicalQueryString ++
    "&X-Amz-Signature=" ++ signature

/-! ### `storage.service.ts` -/

/-- The configuration of the storage. -/
structure StorageConfig where
  endpoint : String
  region : String
  bucket : String
  accessKeyId : String
  secretAccessKey : String
  forcePathStyle : Bool
  useSsl : Bool

/-- The host, with the bucket in front unless it is in the path. -/
def StorageConfig.host (c : StorageConfig) : String :=
  if c.forcePathStyle then c.endpoint else c.bucket ++ "." ++ c.endpoint

/-- The path of an object. -/
def StorageConfig.canonicalUri (c : StorageConfig) (key : String) : String :=
  if c.forcePathStyle then "/" ++ uriEncode c.bucket false ++ "/" ++ uriEncode key false
  else "/" ++ uriEncode key false

/-- The URL that grants a method on an object. -/
def presign (crypto : Crypto) (c : StorageConfig) (method : Method)
    (key expiresInSeconds now : String) : String :=
  presignUrl crypto
    { method, host := c.host, canonicalUri := c.canonicalUri key, expiresInSeconds, now,
      useSsl := c.useSsl }
    { accessKeyId := c.accessKeyId, secretAccessKey := c.secretAccessKey, region := c.region }

/-! ### The server -/

/-- What a server reads of a parameter of the query, by its name. -/
def parameter? (query : List (List Char × List Char)) (name : String) : Option (List Char) :=
  (query.find? fun p => p.1 = name.toList).map (·.2)

/-- The parameter, decoded. -/
def decoded? (query : List (List Char × List Char)) (name : String) : Option (List Char) :=
  (parameter? query name).bind Percent.decode?

theorem parameter?_cons (name name' : String) (value : List Char)
    (query : List (List Char × List Char)) :
    parameter? ((name.toList, value) :: query) name' =
      if name = name' then some value else parameter? query name' := by
  rw [parameter?, List.find?_cons]
  by_cases h : name = name'
  · rw [h, decide_eq_true rfl, if_pos rfl]
    rfl
  · rw [decide_eq_false fun heq => h (String.toList_inj.mp heq), if_neg h]
    rfl

/-- The query that a server signs: without the signature, sorted by the names. -/
def signedQuery (query : List (List Char × List Char)) : List Char :=
  Url.writeQuery ((query.filter fun p => p.1 ≠ "X-Amz-Signature".toList).mergeSort
    fun p q => decide (p.1 ≤ q.1))

/-- What a server computes that knows the credentials, of a URL as it stands. -/
def recompute? (crypto : Crypto) (accessKeyId secretAccessKey : String) (method : Method)
    (url : Url.Parts) : Option String := do
  let amzDate ← decoded? url.query "X-Amz-Date"
  let credential ← decoded? url.query "X-Amz-Credential"
  let credentialScope ← credential.dropPrefix? (accessKeyId.toList ++ ['/'])
  let dateStamp := amzDate.take 8
  let regionAndService ← credentialScope.dropPrefix? (dateStamp ++ ['/'])
  let region ← regionAndService.dropSuffix? "/s3/aws4_request".toList
  let canonicalRequest := buildCanonicalRequest method (String.ofList url.path)
    (String.ofList (signedQuery url.query)) (String.ofList url.host)
  let stringToSign := buildStringToSign crypto (String.ofList amzDate)
    (String.ofList credentialScope) canonicalRequest
  let signingKey := deriveSigningKey crypto secretAccessKey (String.ofList dateStamp)
    (String.ofList region)
  pure (hex (crypto.hmac signingKey stringToSign))

/-- The server finds the signature that it computes. -/
def Verifies (crypto : Crypto) (accessKeyId secretAccessKey : String) (method : Method)
    (url : Url.Parts) : Prop :=
  ∃ signature, recompute? crypto accessKeyId secretAccessKey method url = some signature ∧
    parameter? url.query "X-Amz-Signature" = some signature.toList

/-- The path of the object: the key behind a slash, and behind the bucket in path style. -/
def StorageConfig.objectPath (c : StorageConfig) (key : String) : String :=
  if c.forcePathStyle then "/" ++ c.bucket ++ "/" ++ key else "/" ++ key

/-! ### What is encoded -/

/-- A character that stands for itself. -/
def isKept (encodeSlash : Bool) (ch : Char) : Bool :=
  isUnreserved ch || (ch = '/' && !encodeSlash)

theorem toList_uriEncode (input : String) (encodeSlash : Bool) :
    (uriEncode input encodeSlash).toList = Percent.encode (isKept encodeSlash) input.toList := by
  rw [uriEncode, String.toList_ofList, Percent.encode]
  refine congrArg (List.flatMap · input.toList) (funext fun ch => ?_)
  cases hunreserved : isUnreserved ch with
  | true => simp [isKept, hunreserved]
  | false =>
    by_cases hslash : ch = '/' ∧ encodeSlash = false
    · obtain ⟨rfl, rfl⟩ := hslash
      rfl
    · have hkept : isKept encodeSlash ch = false := by
        simpa [isKept, hunreserved] using hslash
      rw [if_neg Bool.false_ne_true, if_neg hslash, hkept, if_neg Bool.false_ne_true]
      rfl

/-- Decoding gives back what was encoded. -/
theorem decode?_uriEncode (input : String) (encodeSlash : Bool) :
    Percent.decode? (uriEncode input encodeSlash).toList = some input.toList := by
  rw [toList_uriEncode]
  exact Percent.decode?_encode (by cases encodeSlash <;> decide)

/-- None of the signs that part a URL behind its host is found in an encoded text. -/
theorem notMem_uriEncode (input : String) (encodeSlash : Bool) {c : Char}
    (h : c ∈ ['?', '&', '=', '#']) : c ∉ (uriEncode input encodeSlash).toList := by
  rw [toList_uriEncode]
  simp only [List.mem_cons, List.not_mem_nil, or_false] at h
  rcases h with rfl | rfl | rfl | rfl
  all_goals
    refine Percent.notMem_encode ?_ (by decide) (by decide)
    cases encodeSlash <;> decide

theorem toList_uriEncode_inj {key key' : String} {encodeSlash : Bool} :
    (uriEncode key encodeSlash).toList = (uriEncode key' encodeSlash).toList ↔ key = key' := by
  rw [toList_uriEncode, toList_uriEncode,
    Percent.encode_inj (by cases encodeSlash <;> decide), String.toList_inj]

/-! ### The query that is written -/

section

variable (credential amzDate expiresInSeconds : String)

/-- The parameters that are signed, as they are written. -/
def writtenParams : List (List Char × List Char) :=
  (signedParams credential amzDate expiresInSeconds).map fun (k, v) =>
    ((uriEncode k true).toList, (uriEncode v true).toList)

/-- The names are written as they are, and in order. -/
theorem writtenParams_eq :
    writtenParams credential amzDate expiresInSeconds =
      [("X-Amz-Algorithm".toList, (uriEncode "AWS4-HMAC-SHA256" true).toList),
        ("X-Amz-Credential".toList, (uriEncode credential true).toList),
        ("X-Amz-Date".toList, (uriEncode amzDate true).toList),
        ("X-Amz-Expires".toList, (uriEncode expiresInSeconds true).toList),
        ("X-Amz-SignedHeaders".toList, (uriEncode "host" true).toList)] := by
  have hname : ∀ name ∈ ["X-Amz-Algorithm", "X-Amz-Credential", "X-Amz-Date", "X-Amz-Expires",
      "X-Amz-SignedHeaders"], uriEncode name true = name := by
    decide +kernel
  simp only [writtenParams, signedParams, List.map_cons, List.map_nil]
  rw [hname "X-Amz-Algorithm" (by simp), hname "X-Amz-Credential" (by simp),
    hname "X-Amz-Date" (by simp), hname "X-Amz-Expires" (by simp),
    hname "X-Amz-SignedHeaders" (by simp)]

theorem separable_of_mem_writtenParams {parameter : List Char × List Char}
    (h : parameter ∈ writtenParams credential amzDate expiresInSeconds) :
    Url.Separable parameter := by
  obtain ⟨⟨k, v⟩, -, rfl⟩ := List.mem_map.mp h
  exact ⟨notMem_uriEncode _ _ (by decide), notMem_uriEncode _ _ (by decide),
    notMem_uriEncode _ _ (by decide)⟩

/-- The signer sorts nothing away: the query is written as it was listed. -/
theorem toList_buildCanonicalQueryString :
    (buildCanonicalQueryString (signedParams credential amzDate expiresInSeconds)).toList =
      Url.writeQuery (writtenParams credential amzDate expiresInSeconds) := by
  have hsorted : ((signedParams credential amzDate expiresInSeconds).map fun (k, v) =>
      (uriEncode k true, uriEncode v true)).Pairwise
        fun (a, _) (b, _) => decide (a ≤ b) = true := by
    have hnames : ((signedParams credential amzDate expiresInSeconds).map Prod.fst).Pairwise
        fun a b => decide (uriEncode a true ≤ uriEncode b true) = true := by
      change ["X-Amz-Algorithm", "X-Amz-Credential", "X-Amz-Date", "X-Amz-Expires",
        "X-Amz-SignedHeaders"].Pairwise _
      decide +kernel
    rw [List.pairwise_map]
    exact (List.pairwise_map (f := Prod.fst)).mp hnames
  rw [buildCanonicalQueryString, List.mergeSort_of_pairwise hsorted, String.toList_intercalate,
    Url.writeQuery, writtenParams, List.map_map, List.map_map, List.map_map]
  refine congrArg (List.intercalate ['&']) (List.map_congr_left fun p _ => ?_)
  simp [Url.writeParameter]

/-- A server sorts nothing away either. -/
theorem signedQuery_writtenParams (signature : List Char) :
    signedQuery (writtenParams credential amzDate expiresInSeconds ++
      [("X-Amz-Signature".toList, signature)]) =
        Url.writeQuery (writtenParams credential amzDate expiresInSeconds) := by
  have hfilter : (writtenParams credential amzDate expiresInSeconds ++
      [("X-Amz-Signature".toList, signature)]).filter
        (fun p => p.1 ≠ "X-Amz-Signature".toList) =
          writtenParams credential amzDate expiresInSeconds := by
    rw [writtenParams_eq]
    rfl
  have hsorted : ((writtenParams credential amzDate expiresInSeconds).map Prod.fst).Pairwise
      fun a b => decide (a ≤ b) = true := by
    rw [writtenParams_eq]
    change ["X-Amz-Algorithm".toList, "X-Amz-Credential".toList, "X-Amz-Date".toList,
      "X-Amz-Expires".toList, "X-Amz-SignedHeaders".toList].Pairwise _
    decide +kernel
  have hpairwise : (writtenParams credential amzDate expiresInSeconds).Pairwise
      fun p q => decide (p.1 ≤ q.1) = true := (List.pairwise_map (f := Prod.fst)).mp hsorted
  rw [signedQuery, hfilter, List.mergeSort_of_pairwise hpairwise]

end

/-! ### The URL as a whole -/

section

variable (crypto : Crypto) (input : PresignInput) (creds : SigV4Credentials)

/-- The region, or the one that stands for none. -/
def SigV4Credentials.regionOrDefault : String :=
  if creds.region = "" then "us-east-1" else creds.region

/-- The scope that is signed. -/
def credentialScope : String :=
  dateStampOf (toAmzDate input.now) ++ "/" ++ creds.regionOrDefault ++ "/s3/aws4_request"

/-- The parameters that are signed, as they are written. -/
def signedQueryOf : List (List Char × List Char) :=
  writtenParams (creds.accessKeyId ++ "/" ++ credentialScope input creds) (toAmzDate input.now)
    input.expiresInSeconds

/-- The signature of a request. -/
def signatureOf : String :=
  let canonicalRequest := buildCanonicalRequest input.method input.canonicalUri
    (String.ofList (Url.writeQuery (signedQueryOf input creds))) input.host
  let stringToSign :=
    buildStringToSign crypto (toAmzDate input.now) (credentialScope input creds) canonicalRequest
  let signingKey := deriveSigningKey crypto creds.secretAccessKey
    (dateStampOf (toAmzDate input.now)) creds.regionOrDefault
  hex (crypto.hmac signingKey stringToSign)

/-- The parts that are written. -/
def signedParts : Url.Parts where
  scheme := (if input.useSsl then "https" else "http").toList
  host := input.host.toList
  path := input.canonicalUri.toList
  query := signedQueryOf input creds ++
    [("X-Amz-Signature".toList, (signatureOf crypto input creds).toList)]

theorem signedQueryOf_ne_nil : signedQueryOf input creds ≠ [] := by
  rw [signedQueryOf, writtenParams_eq]
  exact List.cons_ne_nil _ _

/-- The URL writes the parts. -/
theorem toList_presignUrl :
    (presignUrl crypto input creds).toList = (signedParts crypto input creds).write := by
  have hquery : buildCanonicalQueryString
      (signedParams (creds.accessKeyId ++ "/" ++ credentialScope input creds)
        (toAmzDate input.now) input.expiresInSeconds) =
      String.ofList (Url.writeQuery (signedQueryOf input creds)) := by
    rw [signedQueryOf, ← toList_buildCanonicalQueryString, String.ofList_toList]
  have hurl : presignUrl crypto input creds =
      (if input.useSsl then "https" else "http") ++ "://" ++ input.host ++ input.canonicalUri ++
        "?" ++ String.ofList (Url.writeQuery (signedQueryOf input creds)) ++
        "&X-Amz-Signature=" ++ signatureOf crypto input creds := by
    rw [signatureOf, ← hquery]
    rfl
  rw [hurl, Url.Parts.write, signedParts, Url.writeQuery_concat (signedQueryOf_ne_nil input creds)]
  simp [Url.writeParameter]

theorem parameter?_credential :
    parameter? (signedParts crypto input creds).query "X-Amz-Credential" =
      some (uriEncode (creds.accessKeyId ++ "/" ++ credentialScope input creds) true).toList := by
  rw [signedParts, signedQueryOf, writtenParams_eq]
  simp only [List.cons_append, parameter?_cons, String.reduceEq, if_false, if_true]

theorem parameter?_date :
    parameter? (signedParts crypto input creds).query "X-Amz-Date" =
      some (uriEncode (toAmzDate input.now) true).toList := by
  rw [signedParts, signedQueryOf, writtenParams_eq]
  simp only [List.cons_append, parameter?_cons, String.reduceEq, if_false, if_true]

theorem parameter?_signature :
    parameter? (signedParts crypto input creds).query "X-Amz-Signature" =
      some (signatureOf crypto input creds).toList := by
  rw [signedParts, signedQueryOf, writtenParams_eq]
  simp only [List.cons_append, List.nil_append, parameter?_cons, String.reduceEq, if_false,
    if_true]

theorem notMem_hex (bytes : List UInt8) {c : Char} (hdigit : ∀ n < 16, c ≠ Nat.digitChar n) :
    c ∉ (hex bytes).toList := by
  rw [hex, String.toList_ofList]
  intro h
  obtain ⟨byte, -, hbyte⟩ := List.mem_flatMap.mp h
  have hhigh : byte.toNat / 16 < 16 := by
    have := byte.toNat_lt
    omega
  simp only [List.mem_cons, List.not_mem_nil, or_false] at hbyte
  rcases hbyte with heq | heq
  · exact hdigit _ hhigh heq
  · exact hdigit _ (Nat.mod_lt _ (by decide)) heq

/-- No parameter that is written holds the sign of a fragment. -/
theorem notMem_hash_of_mem_query {parameter : List Char × List Char}
    (h : parameter ∈ (signedParts crypto input creds).query) :
    '#' ∉ parameter.1 ∧ '#' ∉ parameter.2 := by
  rcases List.mem_append.mp h with h | h
  · obtain ⟨⟨k, v⟩, -, rfl⟩ := List.mem_map.mp h
    exact ⟨notMem_uriEncode _ _ (by decide), notMem_uriEncode _ _ (by decide)⟩
  · have hname : '#' ∉ "X-Amz-Signature".toList := by decide
    rw [List.mem_singleton.mp h]
    exact ⟨hname, notMem_hex _ (by decide)⟩

/-- What a server reads of the URL of a request to a host. -/
theorem parts_presignUrl (hhost : ∀ c ∈ Url.delimiters, c ∉ input.host.toList)
    (hslash : ∃ path, input.canonicalUri.toList = '/' :: path)
    (hpath : '?' ∉ input.canonicalUri.toList ∧ '#' ∉ input.canonicalUri.toList) :
    Url.parts (presignUrl crypto input creds).toList = signedParts crypto input creds := by
  rw [toList_presignUrl]
  refine Url.parts_write
    { scheme := ?_
      host := hhost
      path_slash := hslash
      path := hpath
      query_ne := by simp [signedParts]
      query := ?_
      query_hash := fun _ => notMem_hash_of_mem_query crypto input creds }
  · change ':' ∉ (if input.useSsl then "https" else "http").toList ∧
      '#' ∉ (if input.useSsl then "https" else "http").toList
    cases input.useSsl <;> decide
  · intro parameter hparameter
    rcases List.mem_append.mp hparameter with hparameter | hparameter
    · exact separable_of_mem_writtenParams _ _ _ hparameter
    · have hname : '=' ∉ "X-Amz-Signature".toList ∧ '&' ∉ "X-Amz-Signature".toList := by decide
      rw [List.mem_singleton.mp hparameter]
      exact ⟨hname.1, hname.2, notMem_hex _ (by decide)⟩

/-- The server computes the signature that was written. -/
theorem verifies_signedParts :
    Verifies crypto creds.accessKeyId creds.secretAccessKey input.method
      (signedParts crypto input creds) := by
  have hdate : decoded? (signedParts crypto input creds).query "X-Amz-Date" =
      some (toAmzDate input.now).toList := by
    rw [decoded?, parameter?_date, Option.bind_some, decode?_uriEncode]
  have hcredential : decoded? (signedParts crypto input creds).query "X-Amz-Credential" =
      some (creds.accessKeyId ++ "/" ++ credentialScope input creds).toList := by
    rw [decoded?, parameter?_credential, Option.bind_some, decode?_uriEncode]
  have hscope : (creds.accessKeyId ++ "/" ++ credentialScope input creds).toList.dropPrefix?
      (creds.accessKeyId.toList ++ ['/']) = some (credentialScope input creds).toList := by
    rw [List.dropPrefix?_eq_some_iff]
    exact ⟨creds.accessKeyId.toList ++ ['/'], by simp, by simp⟩
  have hregion : (credentialScope input creds).toList.dropPrefix?
      ((toAmzDate input.now).toList.take 8 ++ ['/']) =
        some (creds.regionOrDefault ++ "/s3/aws4_request").toList := by
    rw [List.dropPrefix?_eq_some_iff]
    exact ⟨(toAmzDate input.now).toList.take 8 ++ ['/'],
      by simp [credentialScope, dateStampOf], by simp⟩
  have hservice : (creds.regionOrDefault ++ "/s3/aws4_request").toList.dropSuffix?
      "/s3/aws4_request".toList = some creds.regionOrDefault.toList := by
    rw [List.dropSuffix?_eq_some_iff]
    exact ⟨"/s3/aws4_request".toList, by simp, by simp⟩
  have hquery : signedQuery (signedParts crypto input creds).query =
      Url.writeQuery (signedQueryOf input creds) := signedQuery_writtenParams _ _ _ _
  refine ⟨signatureOf crypto input creds, ?_, ?_⟩
  · simp only [recompute?, Option.bind_eq_bind, hdate, hcredential, hscope, hregion, hservice,
      hquery, Option.bind_some]
    simp only [signedParts, String.ofList_toList]
    rfl
  · exact parameter?_signature crypto input creds

end

/-! ### The URL of an object -/

theorem uriEncode_append (text text' : String) (encodeSlash : Bool) :
    uriEncode (text ++ text') encodeSlash =
      uriEncode text encodeSlash ++ uriEncode text' encodeSlash := by
  rw [← String.toList_inj, toList_uriEncode, String.toList_append, Percent.encode_append,
    String.toList_append, toList_uriEncode, toList_uriEncode]

/-- The path that is signed is the path of the object, encoded. -/
theorem canonicalUri_eq (c : StorageConfig) (key : String) :
    c.canonicalUri key = uriEncode (c.objectPath key) false := by
  have hslash : uriEncode "/" false = "/" := by decide +kernel
  rw [StorageConfig.canonicalUri, StorageConfig.objectPath]
  cases c.forcePathStyle with
  | true =>
    rw [if_pos rfl, if_pos rfl, uriEncode_append, uriEncode_append, uriEncode_append, hslash]
  | false => rw [if_neg Bool.false_ne_true, if_neg Bool.false_ne_true, uriEncode_append, hslash]

theorem objectPath_inj {c : StorageConfig} {key key' : String} :
    c.objectPath key = c.objectPath key' ↔ key = key' := by
  rw [StorageConfig.objectPath, StorageConfig.objectPath]
  cases c.forcePathStyle with
  | true => rw [if_pos rfl, if_pos rfl, ← String.toList_inj, ← String.toList_inj]; simp
  | false =>
    rw [if_neg Bool.false_ne_true, if_neg Bool.false_ne_true, ← String.toList_inj,
      ← String.toList_inj]
    simp

/-- The path begins with a slash. -/
theorem canonicalUri_slash (c : StorageConfig) (key : String) :
    ∃ path, (c.canonicalUri key).toList = '/' :: path := by
  rw [StorageConfig.canonicalUri]
  cases c.forcePathStyle with
  | true =>
    refine ⟨(uriEncode c.bucket false ++ "/" ++ uriEncode key false).toList, ?_⟩
    simp
  | false =>
    refine ⟨(uriEncode key false).toList, ?_⟩
    simp

/-- No two keys have one URL, whatever else is signed with them. -/
theorem presign_inj {crypto : Crypto} {c : StorageConfig} {method method' : Method}
    {key key' expiresInSeconds expiresInSeconds' now now' : String}
    (h : presign crypto c method key expiresInSeconds now =
      presign crypto c method' key' expiresInSeconds' now') : key = key' := by
  have hquestion : ∀ key, '?' ∉ (c.canonicalUri key).toList := by
    intro key
    rw [canonicalUri_eq]
    exact notMem_uriEncode _ _ (by decide)
  -- behind the scheme and the host, which are the same, the path ends at the first question mark
  have hlist := congrArg String.toList h
  rw [presign, presign, toList_presignUrl, toList_presignUrl, Url.Parts.write, Url.Parts.write]
    at hlist
  simp only [signedParts, List.append_cancel_left_eq, List.cons.injEq, true_and,
    List.append_assoc] at hlist
  have hpath := congrArg (fun text => (Url.cut '?' text).1) hlist
  simp only [Url.cut_append (hquestion _)] at hpath
  rw [canonicalUri_eq, canonicalUri_eq, toList_uriEncode_inj, objectPath_inj] at hpath
  exact hpath

/-- The URL leads to the object, to no other one, and a server that reads it agrees with the
signature. -/
structure Presigned (crypto : Crypto) (c : StorageConfig) (method : Method)
    (key expiresInSeconds now : String) : Prop where
  path : Percent.decode?
    (Url.parts (presign crypto c method key expiresInSeconds now).toList).path =
      some (c.objectPath key).toList
  distinct : ∀ key', key' ≠ key →
    presign crypto c method key' expiresInSeconds now ≠
      presign crypto c method key expiresInSeconds now
  verifies : Verifies crypto c.accessKeyId c.secretAccessKey method
    (Url.parts (presign crypto c method key expiresInSeconds now).toList)

/-- What is presigned for a host without the signs that would end it is read as it was signed. -/
theorem presigned_of_host (crypto : Crypto) (c : StorageConfig) (method : Method)
    (key expiresInSeconds now : String)
    (hhost : ∀ sign ∈ Url.delimiters, sign ∉ c.host.toList) :
    Presigned crypto c method key expiresInSeconds now := by
  have hpath : '?' ∉ (c.canonicalUri key).toList ∧ '#' ∉ (c.canonicalUri key).toList := by
    rw [canonicalUri_eq]
    exact ⟨notMem_uriEncode _ _ (by decide), notMem_uriEncode _ _ (by decide)⟩
  have hparts := parts_presignUrl crypto
    { method, host := c.host, canonicalUri := c.canonicalUri key, expiresInSeconds, now,
      useSsl := c.useSsl }
    { accessKeyId := c.accessKeyId, secretAccessKey := c.secretAccessKey, region := c.region }
    hhost (canonicalUri_slash c key) hpath
  refine ⟨?_, fun key' hne h => hne (presign_inj h), ?_⟩
  · rw [presign, hparts]
    change Percent.decode? (c.canonicalUri key).toList = _
    rw [canonicalUri_eq, decode?_uriEncode]
  · rw [presign, hparts]
    exact verifies_signedParts _ _ _

/-- A store beside the server, with one bucket. -/
def localStorage (bucket : String) (forcePathStyle : Bool) : StorageConfig where
  endpoint := "localhost:9000"
  region := ""
  bucket := bucket
  accessKeyId := "minio"
  secretAccessKey := "minio-secret"
  forcePathStyle := forcePathStyle
  useSsl := false

/-- A digest and an HMAC that tell the lengths of what they are given. -/
def lengths : Crypto where
  sha256Hex := fun data => toString data.length
  hmac := fun key data => [UInt8.ofNat key.length, UInt8.ofNat data.length]

theorem presigned_of_host_key :
    Presigned lengths (localStorage "viel" false) .GET "سند/a?b&c=100%.pdf" "900"
      "2026-07-22T16:45:30.123Z" := by
  refine presigned_of_host _ _ _ _ _ _ fun sign hsign => ?_
  simp only [Url.delimiters, List.mem_cons, List.not_mem_nil, or_false] at hsign
  rcases hsign with rfl | rfl | rfl | rfl | rfl
  all_goals decide +kernel

/-- A bucket that is written into the host can end it. -/
theorem not_presigned_question :
    ¬∀ (crypto : Crypto) (c : StorageConfig) (method : Method) (key expiresInSeconds now : String),
      Presigned crypto c method key expiresInSeconds now := by
  intro h
  have hpath := (h lengths (localStorage "a?b" false) .GET "k" "900" "2026-07-22T16:45:30.123Z").path
  have hurl : (Url.parts (presign lengths (localStorage "a?b" false) .GET "k" "900"
      "2026-07-22T16:45:30.123Z").toList).path = [] := by
    rw [presign, toList_presignUrl]
    rfl
  rw [hurl] at hpath
  exact absurd hpath (by decide +kernel)

end VielHome.Storage
