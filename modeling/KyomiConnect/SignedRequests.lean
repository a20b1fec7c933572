import KyomiConnect.CanonicalQuery
import KyomiConnect.Http
import KyomiConnect.TemporaryCredentials
import KyomiConnect.Text

/-! # Signed requests

The Redshift provider asks an AWS service for temporary credentials. It signs its request with
a secret that the service knows: the parts of the request are written into one text, and the
text's authentication code is sent along with the scope of the key. The service makes the text
anew from the request that it receives, and compares the codes. The hash, the code and the
hexadecimal digits in which they are written are those of third-party crates, here a parameter,
and so are the two formats of the time.

`iam_request_accepted`: the service accepts what the code sends, and reads the
parameters that were meant. `authorization_binds`: whoever moves the header to another request
that is accepted too has found two texts with one hash or one code.
-/

namespace KyomiConnect

/-! ## Signing -/

namespace AwsSigv4

/-- The functions of the `sha2`, `hmac` and `hex` crates. -/
structure Digests where
  sha256 : List UInt8 → List UInt8
  /-- of a key and a text -/
  hmacSha256 : List UInt8 → List UInt8 → List UInt8
  /-- `hex::encode` -/
  hexEncode : List UInt8 → String

/-- What is documented of `hex::encode`: lowercase digits, which are decoded again. -/
structure Digests.Documented (d : Digests) : Prop where
  digits : ∀ data, ∀ c ∈ (d.hexEncode data).toList, c ∈ "0123456789abcdef".toList
  injective : Function.Injective d.hexEncode

/-- AWS credentials for signing requests. -/
structure AwsCredentials where
  accessKeyId : String
  secretAccessKey : String

section Code

variable (d : Digests)

/-- Compute the SHA-256 hash of data and return it as a lowercase hex string. -/
def hexSha256 (data : List UInt8) : String := d.hexEncode (d.sha256 data)

/-- Compute HMAC-SHA256 and return the result as a lowercase hex string. -/
def hexHmacSha256 (key data : List UInt8) : String := d.hexEncode (d.hmacSha256 key data)

/-- Derive the AWS Signature V4 signing key. -/
def deriveSigningKey (secretAccessKey datestamp region service : String) : List UInt8 :=
  let kSecret := s!"AWS4{secretAccessKey}"
  let kDate := d.hmacSha256 (bytes kSecret) (bytes datestamp)
  let kRegion := d.hmacSha256 kDate (bytes region)
  let kService := d.hmacSha256 kRegion (bytes service)
  d.hmacSha256 kService (bytes "aws4_request")

/-- Build the `Authorization` header value for an AWS Signature V4 signed request. -/
def signRequest (method host path queryString region service : String)
    (credentials : AwsCredentials) (datetime datestamp : String) : String :=
  let signedHeaders := "host;x-amz-date"
  let payloadHash := hexSha256 d []
  let canonicalHeaders := s!"host:{host}\nx-amz-date:{datetime}\n"
  let canonicalRequest := s!"{method}\n{path}\n{queryString}\n{canonicalHeaders}\n" ++
    s!"{signedHeaders}\n{payloadHash}"
  let credentialScope := s!"{datestamp}/{region}/{service}/aws4_request"
  let canonicalRequestHash := hexSha256 d (bytes canonicalRequest)
  let stringToSign :=
    s!"AWS4-HMAC-SHA256\n{datetime}\n{credentialScope}\n{canonicalRequestHash}"
  let signingKey := deriveSigningKey d credentials.secretAccessKey datestamp region service
  let signature := hexHmacSha256 d signingKey (bytes stringToSign)
  s!"AWS4-HMAC-SHA256 Credential={credentials.accessKeyId}/{credentialScope}, " ++
    s!"SignedHeaders={signedHeaders}, Signature={signature}"

end Code

end AwsSigv4

namespace Redshift

open AwsSigv4

def REDSHIFT_API_VERSION : String := "2012-12-01"

/-- `chrono::Utc::now()`, as it is formatted. -/
structure Utc where
  /-- `%Y%m%dT%H%M%SZ` -/
  datetime : String
  /-- `%Y%m%d` -/
  datestamp : String

/-- What is documented of the formats, for a year of four digits. -/
structure Utc.Formatted (now : Utc) : Prop where
  datestamp : ∀ c ∈ now.datestamp.toList, c.isDigit = true
  datetime : ∃ time, now.datetime.toList = now.datestamp.toList ++ 'T' :: (time ++ ['Z']) ∧
    ∀ c ∈ time, c.isDigit = true

/-- The parameters of the call. -/
def clusterParams (clusterIdentifier dbUser database : String) : List (String × String) :=
  [("Action", "GetClusterCredentials"), ("AutoCreate", "false"),
    ("ClusterIdentifier", clusterIdentifier), ("DbName", database), ("DbUser", dbUser),
    ("Version", REDSHIFT_API_VERSION)]

section Code

variable (d : Digests) (awsCreds : AwsCredentials)
  (region clusterIdentifier dbUser database : String) (now : Utc)

/-- The request of `get_cluster_credentials`. -/
def clusterCredentialsRequest : HttpRequest :=
  let host := s!"redshift.{region}.amazonaws.com"
  let canonicalQueryString :=
    buildCanonicalQueryString (clusterParams clusterIdentifier dbUser database)
  let authorization := signRequest d "GET" host "/" canonicalQueryString region "redshift"
    awsCreds now.datetime now.datestamp
  { method := .get
    url := s!"https://{host}/?{canonicalQueryString}"
    headers := [("Host", host), ("X-Amz-Date", now.datetime), ("Authorization", authorization)]
    body := none }

/-- Extract an error message from an AWS XML error response. -/
def parseAwsErrorXml (xml : String) : Option String := do
  let code := (extractXmlElement xml "Code").getD ""
  let message ← extractXmlElement xml "Message"
  if code = "" then return message else return s!"{code}: {message}"

/-- What the body of an answer gives; `reason` names an HTTP status. -/
def readAnswer {σ : Type} (reason : ℕ → String) (response : HttpResponse) :
    Call σ TempCredentials := do
  let body ← response.readText "Failed to read Redshift GetClusterCredentials response"
  if response.isSuccess then
    match parseGetClusterCredentialsResponse body with
    | .ok credentials => return credentials
    | .error e => Call.fail e
  else
    let message := (parseAwsErrorXml body).getD s!"HTTP {reason response.status}"
    Call.fail (.internal s!"Redshift GetClusterCredentials failed: {message}")

/-- Call the AWS Redshift `GetClusterCredentials` API. `connectSecs` is the time limit. -/
def getClusterCredentials {σ : Type} (client : Except String (Net σ)) (connectSecs : ℕ)
    (reason : ℕ → String) : Call σ TempCredentials := do
  let net ← httpClient client
  let response ← net.requestWithin connectSecs
    "Redshift GetClusterCredentials API request timed out"
    "Redshift GetClusterCredentials API request failed"
    (clusterCredentialsRequest d awsCreds region clusterIdentifier dbUser database now)
  readAnswer reason response

/-- A text of the credentials that is not empty. -/
def nonEmptyField (credentials : Json) (key : String) : Option String :=
  (credentials.getStr key).filter (· ≠ "")

/-- AWS credentials: explicit fields, or else variables of the environment. -/
def awsCredentials (env : String → Option String) (credentials : Json) :
    Option AwsCredentials := do
  let accessKeyId ←
    (nonEmptyField credentials "access_key_id").or (env "AWS_ACCESS_KEY_ID")
  let secretAccessKey ←
    (nonEmptyField credentials "secret_access_key").or (env "AWS_SECRET_ACCESS_KEY")
  return { accessKeyId, secretAccessKey }

def missingAwsCredentials : String :=
  "Redshift IAM auth requires AWS credentials: either provide access_key_id + " ++
    "secret_access_key in credentials, or set AWS_ACCESS_KEY_ID and " ++
    "AWS_SECRET_ACCESS_KEY environment variables"

/-- Resolve IAM credentials: the user and the password that the service issues. -/
def resolveIamCredentials {σ : Type} (client : Except String (Net σ)) (connectSecs : ℕ)
    (reason : ℕ → String) (env : String → Option String) (credentials : Json) :
    Call σ (String × String) :=
  match nonEmptyField credentials "cluster_identifier" with
  | none => Call.fail (.provider "Redshift IAM auth requires cluster_identifier")
  | some clusterIdentifier =>
      match nonEmptyField credentials "region" with
      | none => Call.fail (.provider "Redshift IAM auth requires region")
      | some region =>
          match nonEmptyField credentials "db_user" with
          | none => Call.fail (.provider "Redshift IAM auth requires db_user")
          | some dbUser =>
              match awsCredentials env credentials with
              | none => Call.fail (.provider missingAwsCredentials)
              | some awsCreds => do
                  let issued ← getClusterCredentials d awsCreds region clusterIdentifier dbUser
                    database now client connectSecs reason
                  return (issued.dbUser, issued.dbPassword)

end Code

end Redshift

/-! ## The service -/

namespace AwsSigv4

/-- What follows a text at the start of another. -/
def textAfter (front text : List Char) : Option (List Char) :=
  if front.isPrefixOf text then some (text.drop front.length) else none

/-- A request as the service receives it. -/
structure ReceivedRequest where
  method : String
  path : String
  query : String
  headers : List (String × String)
  body : List UInt8

namespace ReceivedRequest

/-- The value of a header; its name may be written in any case. -/
def header (r : ReceivedRequest) (name : String) : Option String :=
  (r.headers.find? fun h => Text.toLowercase h.1 = name).map Prod.snd

/-- HTTP breaks its lines where they end: there is no line break in the parts of a request. -/
structure Unbroken (r : ReceivedRequest) : Prop where
  method : '\n' ∉ r.method.toList
  path : '\n' ∉ r.path.toList
  headers : ∀ h ∈ r.headers, '\n' ∉ h.2.toList

end ReceivedRequest

/-- How a request without a body arrives: at the host of its address, with the path and the
query of the address. -/
def receive (req : HttpRequest) : Option ReceivedRequest := do
  let rest ← textAfter "https://".toList req.url.toList
  let target := rest.dropWhile (· ≠ '/')
  let r : ReceivedRequest :=
    { method := match req.method with | .get => "GET" | .post => "POST"
      path := .ofList (target.takeWhile (· ≠ '?'))
      query := .ofList ((target.dropWhile (· ≠ '?')).drop 1)
      headers := req.headers
      body := [] }
  if req.body.isNone ∧ r.header "host" = some (.ofList (rest.takeWhile (· ≠ '/'))) then some r
  else none

/-- The parts of an `Authorization` header. -/
structure Authorization where
  accessKeyId : String
  datestamp : String
  region : String
  service : String
  signedHeaders : List String
  signature : String

namespace Authorization

/-- The day and the place that the key is for. -/
def scope (a : Authorization) : String :=
  "/".intercalate [a.datestamp, a.region, a.service, "aws4_request"]

def text (a : Authorization) : String :=
  ",".intercalate [
    "AWS4-HMAC-SHA256 Credential=" ++
      "/".intercalate [a.accessKeyId, a.datestamp, a.region, a.service, "aws4_request"],
    " SignedHeaders=" ++ ";".intercalate a.signedHeaders,
    " Signature=" ++ a.signature]

/-- Read a header's parts. -/
def parse (header : String) : Option Authorization :=
  match header.toList.splitOn ',' with
  | [credential, signed, signature] => do
      let credential ← textAfter "AWS4-HMAC-SHA256 Credential=".toList credential
      let signed ← textAfter " SignedHeaders=".toList signed
      let signature ← textAfter " Signature=".toList signature
      match credential.splitOn '/' with
      | [accessKeyId, datestamp, region, service, last] =>
          if last = "aws4_request".toList then
            some { accessKeyId := .ofList accessKeyId
                   datestamp := .ofList datestamp
                   region := .ofList region
                   service := .ofList service
                   signedHeaders := (signed.splitOn ';').map .ofList
                   signature := .ofList signature }
          else none
      | _ => none
  | _ => none

/-- No part has a separator in it. -/
structure Separated (a : Authorization) : Prop where
  credential : ∀ s ∈ [a.accessKeyId, a.datestamp, a.region, a.service],
    ',' ∉ s.toList ∧ '/' ∉ s.toList
  signedHeaders : a.signedHeaders ≠ [] ∧
    ∀ s ∈ a.signedHeaders, ',' ∉ s.toList ∧ ';' ∉ s.toList
  signature : ',' ∉ a.signature.toList

end Authorization

section Service

variable (d : Digests)

/-- The lines that a request is written in for signing. -/
def ReceivedRequest.canonicalLines (r : ReceivedRequest) (signedHeaders : List String) :
    Option (List String) := do
  let params ← queryParams r.query
  let headers ← signedHeaders.mapM fun name => (r.header name).map fun value =>
    name ++ ":" ++ value
  return [r.method, r.path, buildCanonicalQueryString params] ++ headers ++
    ["", ";".intercalate signedHeaders, hexSha256 d r.body]

/-- The text that the code is made for. -/
def stringToSign (scope datetime : String) (lines : List String) : String :=
  "\n".intercalate
    ["AWS4-HMAC-SHA256", datetime, scope, hexSha256 d (bytes ("\n".intercalate lines))]

/-- The service knows the secret of the key, finds the request's date in the key's scope, and
gets the code that the header says. -/
structure ReceivedRequest.Accepted (secretOf : String → Option String) (r : ReceivedRequest)
    (a : Authorization) (datetime : String) (lines : List String) : Prop where
  authorization : (r.header "authorization").bind Authorization.parse = some a
  signs : "host" ∈ a.signedHeaders ∧ "x-amz-date" ∈ a.signedHeaders
  dated : r.header "x-amz-date" = some datetime ∧ a.datestamp.toList <+: datetime.toList
  written : r.canonicalLines d a.signedHeaders = some lines
  signature : ∃ secret, secretOf a.accessKeyId = some secret ∧
    hexHmacSha256 d (deriveSigningKey d secret a.datestamp a.region a.service)
      (bytes (stringToSign d a.scope datetime lines)) = a.signature

end Service

/-! ## Reading a header -/

/-- A text behind its front is found there. -/
theorem textAfter_append (front text : List Char) :
    textAfter front (front ++ text) = some text := by
  have hfront : front.isPrefixOf (front ++ text) = true :=
    List.isPrefixOf_iff_prefix.2 (List.prefix_append front text)
  rw [textAfter, if_pos hfront, List.drop_left]

section Join

variable {c : Char} {sep : String} (hsep : sep.toList = [c])

include hsep

/-- Texts without the separator are split where they were joined. -/
theorem splitOn_join {parts : List String} (hne : parts ≠ []) (h : ∀ s ∈ parts, c ∉ s.toList) :
    (sep.intercalate parts).toList.splitOn c = parts.map String.toList := by
  have hclean : ∀ piece ∈ parts.map String.toList, c ∉ piece := by
    intro piece hpiece
    obtain ⟨s, hs, rfl⟩ := List.mem_map.1 hpiece
    exact h s hs
  rw [String.toList_intercalate, hsep]
  exact List.splitOn_intercalate _ hclean (by simpa using hne)

/-- So the joined text determines them. -/
theorem join_injective {parts parts' : List String} (hne : parts ≠ []) (hne' : parts' ≠ [])
    (h : ∀ s ∈ parts, c ∉ s.toList) (h' : ∀ s ∈ parts', c ∉ s.toList)
    (heq : sep.intercalate parts = sep.intercalate parts') : parts = parts' := by
  have hsplit : parts.map String.toList = parts'.map String.toList := by
    rw [← splitOn_join hsep hne h, ← splitOn_join hsep hne' h', heq]
  exact List.map_injective_iff.2 (fun _ _ => String.toList_inj.1) hsplit

/-- What is joined of texts without a character has it from the separator only. -/
theorem not_mem_join {c' : Char} (hc : c' ≠ c) {parts : List String}
    (h : ∀ s ∈ parts, c' ∉ s.toList) : c' ∉ (sep.intercalate parts).toList := by
  rw [String.toList_intercalate, hsep]
  induction parts with
  | nil => simp
  | cons s rest ih =>
      have hrest := ih fun t ht => h t (by simp [ht])
      cases rest with
      | nil => simpa using h s (by simp)
      | cons t rest =>
          -- in the first text, in the separator, or in the rest
          rw [List.map_cons, List.map_cons, List.intercalate_cons_cons]
          rw [List.map_cons] at hrest
          intro hmem
          simp only [List.mem_append, List.mem_singleton] at hmem
          rcases hmem with (hmem | hmem) | hmem
          · exact h s (by simp) hmem
          · exact hc hmem
          · exact hrest hmem

end Join

/-- A character that is in neither of two texts is not in both of them together. -/
theorem not_mem_append {c : Char} {front s : String} (hfront : c ∉ front.toList)
    (hs : c ∉ s.toList) : c ∉ (front ++ s).toList := by
  rw [String.toList_append, List.mem_append, not_or]
  exact ⟨hfront, hs⟩

/-- A header is read as it was written. -/
theorem Authorization.parse_text {a : Authorization} (h : a.Separated) :
    parse a.text = some a := by
  have hcredential : ∀ s ∈ [a.accessKeyId, a.datestamp, a.region, a.service, "aws4_request"],
      ',' ∉ s.toList ∧ '/' ∉ s.toList := by
    intro s hs
    rw [show [a.accessKeyId, a.datestamp, a.region, a.service, "aws4_request"] =
      [a.accessKeyId, a.datestamp, a.region, a.service] ++ ["aws4_request"] from rfl,
      List.mem_append, List.mem_singleton] at hs
    rcases hs with hs | rfl
    · exact h.credential s hs
    · decide
  -- the three pieces between the commas
  have hpieces := @splitOn_join ',' "," rfl [
    "AWS4-HMAC-SHA256 Credential=" ++
      "/".intercalate [a.accessKeyId, a.datestamp, a.region, a.service, "aws4_request"],
    " SignedHeaders=" ++ ";".intercalate a.signedHeaders,
    " Signature=" ++ a.signature] (List.cons_ne_nil _ _) (by
      intro s hs
      simp only [List.mem_cons, List.not_mem_nil, or_false] at hs
      rcases hs with rfl | rfl | rfl
      · exact not_mem_append (by decide)
          (@not_mem_join '/' "/" rfl ',' (by decide) _ fun s hs => (hcredential s hs).1)
      · exact not_mem_append (by decide)
          (@not_mem_join ';' ";" rfl ',' (by decide) _ fun s hs => (h.signedHeaders.2 s hs).1)
      · exact not_mem_append (by decide) h.signature)
  have hscope := @splitOn_join '/' "/" rfl
    [a.accessKeyId, a.datestamp, a.region, a.service, "aws4_request"] (List.cons_ne_nil _ _)
    fun s hs => (hcredential s hs).2
  have hnames := @splitOn_join ';' ";" rfl a.signedHeaders h.signedHeaders.1
    fun s hs => (h.signedHeaders.2 s hs).2
  unfold parse text
  rw [hpieces]
  simp only [List.map_cons, List.map_nil, String.toList_append, textAfter_append,
    Option.bind_eq_bind, Option.bind_some, hscope, hnames, if_true, String.ofList_toList,
    List.map_map]
  simp

/-! ## Signing and reading -/

/-- What the code writes into a header. -/
def signedBy (d : Digests) (credentials : AwsCredentials)
    (region service datetime datestamp : String) (lines : List String) : Authorization where
  accessKeyId := credentials.accessKeyId
  datestamp
  region
  service
  signedHeaders := ["host", "x-amz-date"]
  signature := hexHmacSha256 d
    (deriveSigningKey d credentials.secretAccessKey datestamp region service)
    (bytes (stringToSign d ("/".intercalate [datestamp, region, service, "aws4_request"]) datetime
      lines))

/-- The lines that the code signs. -/
def signedLines (d : Digests) (method host path queryString datetime : String) : List String :=
  [method, path, queryString, "host:" ++ host, "x-amz-date:" ++ datetime, "", "host;x-amz-date",
    hexSha256 d []]

/-- The signature, in the terms that a reader of the request has. -/
theorem signRequest_eq (d : Digests) (method host path queryString region service : String)
    (credentials : AwsCredentials) (datetime datestamp : String) :
    signRequest d method host path queryString region service credentials datetime datestamp =
      (signedBy d credentials region service datetime datestamp
        (signedLines d method host path queryString datetime)).text := by
  have hlines : method ++ "\n" ++ path ++ "\n" ++ queryString ++ "\n" ++
      ("host:" ++ host ++ "\nx-amz-date:" ++ datetime ++ "\n") ++ "\n" ++
      ("host;x-amz-date" ++ "\n" ++ hexSha256 d []) =
      "\n".intercalate (signedLines d method host path queryString datetime) := by
    apply String.toList_inj.1
    simp [signedLines, String.intercalate_cons_of_ne_nil, String.toList_append]
  have hscope : datestamp ++ "/" ++ region ++ "/" ++ service ++ "/aws4_request" =
      "/".intercalate [datestamp, region, service, "aws4_request"] := by
    apply String.toList_inj.1
    simp [String.intercalate_cons_of_ne_nil, String.toList_append]
  have htext : ∀ scope hash, "AWS4-HMAC-SHA256\n" ++ datetime ++ "\n" ++ scope ++ "\n" ++ hash =
      "\n".intercalate ["AWS4-HMAC-SHA256", datetime, scope, hash] := by
    intro scope hash
    apply String.toList_inj.1
    simp [String.intercalate_cons_of_ne_nil, String.toList_append]
  unfold signRequest
  simp only [toString]
  rw [hlines, hscope, htext]
  apply String.toList_inj.1
  simp [Authorization.text, signedBy, stringToSign, String.intercalate_cons_of_ne_nil,
    String.toList_append]

end AwsSigv4

/-! ## Characters -/

namespace AwsSigv4

/-- Letters, digits and hyphens: what the names of keys and regions are made of. -/
def isName (s : String) : Bool := s.toList.all fun c => c.isAlphanum || c == '-'

/-- A name has letters, digits and dashes only. -/
theorem not_mem_of_isName {s : String} (h : isName s = true) {c : Char}
    (hc : (c.isAlphanum || c == '-') = false) : c ∉ s.toList := by
  intro hmem
  have hplain := List.all_eq_true.1 h c hmem
  rw [hc] at hplain
  cases hplain

/-- A hexadecimal text has the sixteen digits only. -/
theorem not_mem_hexEncode {d : Digests} (hhex : d.Documented) {c : Char}
    (hc : c ∉ "0123456789abcdef".toList) (data : List UInt8) : c ∉ (d.hexEncode data).toList :=
  fun hmem => hc (hhex.digits data c hmem)

/-- Two texts with the same bytes are the same. -/
theorem bytes_injective : Function.Injective bytes := by
  intro s t h
  exact String.toByteArray_inj.1 (ByteArray.ext (Array.toList_inj.1 h))

/-! ## The query -/

/-- A canonical query has no line breaks. -/
theorem not_mem_canonicalQuery (params : List (String × String)) :
    '\n' ∉ (buildCanonicalQueryString params).toList := by
  have hkept : ∀ n : Fin 256, isUnreserved (UInt8.ofNat n) = true → Char.ofNat n ≠ '\n' := by
    decide +kernel
  have hencoded : ∀ s, '\n' ∉ (awsUrlEncode s).toList := by
    intro s hmem
    rw [toList_awsUrlEncode] at hmem
    rcases Percent.mem_encode hmem with hpercent | hdigit | ⟨b, hb, heq⟩
    · cases hpercent
    · cases hdigit
    · -- a byte that is kept as it is
      have hbyte := hkept ⟨b.toNat, b.toNat_lt⟩
      rw [UInt8.ofNat_toNat] at hbyte
      exact hbyte hb heq.symm
  refine @not_mem_join '&' "&" rfl '\n' (by decide) _ fun piece hpiece => ?_
  obtain ⟨pair, hpair, rfl⟩ := List.mem_map.1 hpiece
  obtain ⟨⟨k, v⟩, -, rfl⟩ := List.mem_map.1 ((perm_sortedParams params).mem_iff.1 hpair)
  intro hmem
  have htext := toList_pairText (awsUrlEncode k, awsUrlEncode v)
  change '\n' ∈ (pairText (awsUrlEncode k, awsUrlEncode v)).toList at hmem
  rw [htext, List.mem_append, List.mem_cons] at hmem
  rcases hmem with hmem | hmem | hmem
  · exact hencoded k hmem
  · cases hmem
  · exact hencoded v hmem

/-- The canonical query is read as the sorted parameters. -/
theorem queryPairs_canonical (params : List (String × String)) :
    queryPairs (buildCanonicalQueryString params) = some (sortedParams params) :=
  queryPairs_intercalate fun _ => separable_of_mem

/-- The service reads the parameters from a canonical query. -/
theorem queryParams_canonical (params : List (String × String)) :
    ∃ read, queryParams (buildCanonicalQueryString params) = some read ∧ read.Perm params := by
  refine ⟨(sortedParams params).filterMap decodePair, ?_, perm_decoded params⟩
  rw [queryParams, queryPairs_canonical]
  refine mapM_eq_some_filterMap fun pair hpair => ?_
  obtain ⟨⟨k, v⟩, -, rfl⟩ := List.mem_map.1 ((perm_sortedParams params).mem_iff.1 hpair)
  rw [decodePair_encoded]
  rfl

/-- Parameters with one canonical query are the same but for their order. -/
theorem perm_of_canonical {params params' : List (String × String)}
    (h : buildCanonicalQueryString params' = buildCanonicalQueryString params) :
    params'.Perm params := by
  have hpairs := queryPairs_canonical params'
  rw [h, queryPairs_canonical, Option.some.injEq] at hpairs
  -- both are what is decoded from one list of pairs
  have hdecoded := perm_decoded params'
  rw [← hpairs] at hdecoded
  exact hdecoded.symm.trans (perm_decoded params)

end AwsSigv4

/-! ## The call -/

namespace Redshift

open AwsSigv4

section Call

variable (d : Digests) (awsCreds : AwsCredentials)
  (region clusterIdentifier dbUser database : String) (now : Utc)

/-- The host of the service. -/
def serviceHost : String := s!"redshift.{region}.amazonaws.com"

/-- The lines that are signed for the call. -/
def ownLines : List String :=
  signedLines d "GET" (serviceHost region) "/"
    (buildCanonicalQueryString (clusterParams clusterIdentifier dbUser database)) now.datetime

/-- The header of the call, in its parts. -/
def ownAuthorization : Authorization :=
  signedBy d awsCreds region "redshift" now.datetime now.datestamp
    (ownLines d region clusterIdentifier dbUser database now)

variable {d awsCreds region clusterIdentifier dbUser database now}

/-- A date has digits only. -/
theorem not_mem_datestamp (hnow : now.Formatted) {c : Char} (hc : c.isDigit = false) :
    c ∉ now.datestamp.toList := by
  intro hmem
  rw [hnow.datestamp c hmem] at hc
  cases hc

/-- A time has digits, and two letters. -/
theorem not_mem_datetime (hnow : now.Formatted) {c : Char} (hc : c.isDigit = false)
    (hmarks : c ≠ 'T' ∧ c ≠ 'Z') : c ∉ now.datetime.toList := by
  obtain ⟨time, hdatetime, htime⟩ := hnow.datetime
  rw [hdatetime, List.mem_append, List.mem_cons, List.mem_append, List.mem_singleton]
  rintro (hmem | hmem | hmem | hmem)
  · exact not_mem_datestamp hnow hc hmem
  · exact hmarks.1 hmem
  · rw [htime c hmem] at hc
    cases hc
  · exact hmarks.2 hmem

/-- The host has the characters of the region's name, and dots. -/
theorem not_mem_serviceHost (hregion : isName region = true) {c : Char}
    (hc : (c.isAlphanum || c == '-') = false) (hdot : c ≠ '.') :
    c ∉ (serviceHost region).toList := by
  have hfixed : ∀ s : String,
      (s.toList.all fun x => x.isAlphanum || x == '-' || x == '.') = true → c ∉ s.toList := by
    intro s hs hmem
    have hmark := List.all_eq_true.1 hs c hmem
    rw [hc, Bool.false_or, beq_iff_eq] at hmark
    exact hdot hmark
  change c ∉ ("redshift." ++ region ++ ".amazonaws.com").toList
  refine not_mem_append (not_mem_append ?_ (not_mem_of_isName hregion hc)) ?_
  · exact hfixed _ (by decide)
  · exact hfixed _ (by decide)

/-- The scope of the key is one line. -/
theorem not_mem_scope (hnow : now.Formatted) (hregion : isName region = true) :
    ∀ s ∈ [now.datestamp, region, "redshift", "aws4_request"], '\n' ∉ s.toList := by
  intro s hs
  simp only [List.mem_cons, List.not_mem_nil, or_false] at hs
  rcases hs with rfl | rfl | rfl | rfl
  · exact not_mem_datestamp hnow rfl
  · exact not_mem_of_isName hregion rfl
  · decide
  · decide

/-- The header is read in its parts. -/
theorem parse_ownAuthorization (hhex : d.Documented) (hnow : now.Formatted)
    (hkey : isName awsCreds.accessKeyId = true) (hregion : isName region = true) :
    Authorization.parse
        (signRequest d "GET" (serviceHost region) "/"
          (buildCanonicalQueryString (clusterParams clusterIdentifier dbUser database)) region
          "redshift" awsCreds now.datetime now.datestamp) =
      some (ownAuthorization d awsCreds region clusterIdentifier dbUser database now) := by
  rw [signRequest_eq]
  refine Authorization.parse_text ⟨?_, ?_, ?_⟩
  · intro s hs
    simp only [signedBy, List.mem_cons, List.not_mem_nil, or_false] at hs
    rcases hs with rfl | rfl | rfl | rfl
    · exact ⟨not_mem_of_isName hkey rfl, not_mem_of_isName hkey rfl⟩
    · exact ⟨not_mem_datestamp hnow rfl, not_mem_datestamp hnow rfl⟩
    · exact ⟨not_mem_of_isName hregion rfl, not_mem_of_isName hregion rfl⟩
    · decide
  · simp only [signedBy]
    refine ⟨List.cons_ne_nil _ _, fun s hs => ?_⟩
    simp only [List.mem_cons, List.not_mem_nil, or_false] at hs
    rcases hs with rfl | rfl
    · decide
    · decide
  · exact not_mem_hexEncode hhex (by decide) _

variable (d awsCreds region clusterIdentifier dbUser database now) in
/-- The request as it arrives. -/
def ownReceived : ReceivedRequest where
  method := "GET"
  path := "/"
  query := buildCanonicalQueryString (clusterParams clusterIdentifier dbUser database)
  headers :=
    (clusterCredentialsRequest d awsCreds region clusterIdentifier dbUser database now).headers
  body := []

/-- Its headers. -/
theorem header_ownReceived :
    let r := ownReceived d awsCreds region clusterIdentifier dbUser database now
    r.header "host" = some (serviceHost region) ∧ r.header "x-amz-date" = some now.datetime ∧
      r.header "authorization" = some (signRequest d "GET" (serviceHost region) "/"
        (buildCanonicalQueryString (clusterParams clusterIdentifier dbUser database)) region
        "redshift" awsCreds now.datetime now.datestamp) := by
  have hhost : Text.toLowercase "Host" = "host" := by decide
  have hdate : Text.toLowercase "X-Amz-Date" = "x-amz-date" := by decide
  have hauthorization : Text.toLowercase "Authorization" = "authorization" := by decide
  refine ⟨?_, ?_, ?_⟩
  · simp [ReceivedRequest.header, ownReceived, clusterCredentialsRequest, hhost, serviceHost]
  · simp [ReceivedRequest.header, ownReceived, clusterCredentialsRequest, hhost, hdate]
  · simp [ReceivedRequest.header, ownReceived, clusterCredentialsRequest, hhost, hdate,
      hauthorization, serviceHost]

/-- The request arrives as it was sent. -/
theorem receive_clusterCredentialsRequest (hregion : isName region = true) :
    receive (clusterCredentialsRequest d awsCreds region clusterIdentifier dbUser database now) =
      some (ownReceived d awsCreds region clusterIdentifier dbUser database now) := by
  have hslash : '/' ∉ (serviceHost region).toList :=
    not_mem_serviceHost hregion rfl (by decide)
  have hurl : (clusterCredentialsRequest d awsCreds region clusterIdentifier dbUser database
      now).url.toList = "https://".toList ++ ((serviceHost region).toList ++
        '/' :: '?' :: (buildCanonicalQueryString
          (clusterParams clusterIdentifier dbUser database)).toList) := by
    change ("https://" ++ serviceHost region ++ "/?" ++ buildCanonicalQueryString
      (clusterParams clusterIdentifier dbUser database)).toList = _
    rw [String.toList_append, String.toList_append, String.toList_append, List.append_assoc,
      List.append_assoc]
    rfl
  have hne : ∀ c ∈ (serviceHost region).toList, decide (c ≠ '/') = true := by
    intro c hc
    rw [decide_eq_true_iff]
    rintro rfl
    exact hslash hc
  have hheaders := @header_ownReceived d awsCreds region clusterIdentifier dbUser database now
  unfold receive
  rw [hurl, textAfter_append]
  simp only [Option.bind_eq_bind, Option.bind_some]
  rw [List.takeWhile_append_of_pos hne, List.dropWhile_append_of_pos hne]
  -- the path is one slash, and the host is the one of the header
  have hpath : ∀ query : List Char,
      ('/' :: '?' :: query).takeWhile (fun c => decide (c ≠ '?')) = ['/'] ∧
      ('/' :: '?' :: query).dropWhile (fun c => decide (c ≠ '?')) = '?' :: query ∧
      ('/' :: '?' :: query).takeWhile (fun c => decide (c ≠ '/')) = [] ∧
      ('/' :: '?' :: query).dropWhile (fun c => decide (c ≠ '/')) = '/' :: '?' :: query :=
    fun query => ⟨rfl, rfl, rfl, rfl⟩
  obtain ⟨htake, hdrop, hnone, hall⟩ := hpath (buildCanonicalQueryString
    (clusterParams clusterIdentifier dbUser database)).toList
  rw [hall, htake, hdrop, hnone, List.append_nil, List.drop_one, List.tail_cons,
    String.ofList_toList, String.ofList_toList]
  rw [if_pos]
  · rfl
  · exact ⟨rfl, hheaders.1⟩

/-- A request with the parts of the call, and with its parameters in any order, is accepted by
whoever knows the secret. -/
theorem accepted_of_parts {secretOf : String → Option String} (hhex : d.Documented)
    (hnow : now.Formatted) (hkey : isName awsCreds.accessKeyId = true)
    (hregion : isName region = true)
    (hsecret : secretOf awsCreds.accessKeyId = some awsCreds.secretAccessKey)
    {r : ReceivedRequest} (hline : r.method = "GET" ∧ r.path = "/" ∧ r.body = [])
    (hheaders : r.header "host" = some (serviceHost region) ∧
      r.header "x-amz-date" = some now.datetime ∧
      r.header "authorization" = some (signRequest d "GET" (serviceHost region) "/"
        (buildCanonicalQueryString (clusterParams clusterIdentifier dbUser database)) region
        "redshift" awsCreds now.datetime now.datestamp))
    {read : List (String × String)} (hread : queryParams r.query = some read)
    (hperm : read.Perm (clusterParams clusterIdentifier dbUser database)) :
    r.Accepted d secretOf
      (ownAuthorization d awsCreds region clusterIdentifier dbUser database now) now.datetime
      (ownLines d region clusterIdentifier dbUser database now) := by
  obtain ⟨hmethod, hpath, hbody⟩ := hline
  obtain ⟨hhost, hdate, hauthorization⟩ := hheaders
  constructor
  · rw [hauthorization, Option.bind_some]
    exact parse_ownAuthorization hhex hnow hkey hregion
  · exact ⟨by simp [ownAuthorization, signedBy], by simp [ownAuthorization, signedBy]⟩
  · obtain ⟨time, hdatetime, -⟩ := hnow.datetime
    refine ⟨hdate, ?_⟩
    show now.datestamp.toList <+: now.datetime.toList
    rw [hdatetime]
    exact List.prefix_append _ _
  · -- the query is decoded and written again, in the one order
    have hcanonical : buildCanonicalQueryString read =
        buildCanonicalQueryString (clusterParams clusterIdentifier dbUser database) := by
      rw [buildCanonicalQueryString, buildCanonicalQueryString, sortedParams_congr hperm]
    simp only [ReceivedRequest.canonicalLines, hread, Option.bind_eq_bind, Option.bind_some,
      hcanonical, ownAuthorization, signedBy, List.mapM_cons, List.mapM_nil, hhost, hdate,
      Option.map_some, hmethod, hpath, hbody]
    rfl
  · exact ⟨awsCreds.secretAccessKey, hsecret, rfl⟩

/-- The service takes the request that the code has signed. -/
theorem accepted_ownReceived {secretOf : String → Option String} (hhex : d.Documented)
    (hnow : now.Formatted) (hkey : isName awsCreds.accessKeyId = true)
    (hregion : isName region = true)
    (hsecret : secretOf awsCreds.accessKeyId = some awsCreds.secretAccessKey) :
    (ownReceived d awsCreds region clusterIdentifier dbUser database now).Accepted d secretOf
      (ownAuthorization d awsCreds region clusterIdentifier dbUser database now) now.datetime
      (ownLines d region clusterIdentifier dbUser database now) := by
  obtain ⟨read, hread, hperm⟩ :=
    queryParams_canonical (clusterParams clusterIdentifier dbUser database)
  exact accepted_of_parts hhex hnow hkey hregion hsecret ⟨rfl, rfl, rfl⟩ header_ownReceived hread
    hperm

section Sent

variable {σ : Type} {net : Net σ} {client : Except String (Net σ)} {connectSecs : ℕ}
  {reason : ℕ → String} {env : String → Option String} {credentials : Json}

/-- Reading an answer sends nothing, and takes its body from a good one. -/
theorem records_readAnswer (response : HttpResponse) :
    Records (readAnswer reason response : Call σ TempCredentials) []
      (readAnswer reason response) := by
  unfold readAnswer HttpResponse.readText
  cases response.textError with
  | some e => exact records_fail _
  | none =>
      refine records_pure response.text |>.bind_quiet fun body => ?_
      split
      · split
        · exact records_pure _
        · exact records_fail _
      · exact records_fail _

/-- An answer that succeeds is read by its text. -/
theorem runs_readAnswer {response : HttpResponse} (htext : response.textError = none)
    (hsuccess : response.isSuccess = true) (s : σ) :
    (readAnswer reason response : Call σ TempCredentials).runs s =
      (parseGetClusterCredentialsResponse response.text, s) := by
  have hbody : (response.readText "Failed to read Redshift GetClusterCredentials response" :
      Call σ String).runs s = (.ok response.text, s) := by
    rw [HttpResponse.readText, htext]
    rfl
  rw [readAnswer, Call.runs_bind_ok hbody, if_pos hsuccess]
  cases parseGetClusterCredentialsResponse response.text with
  | ok issued => rfl
  | error e => rfl

/-- The call sends one request. -/
theorem records_getClusterCredentials :
    Records
      (getClusterCredentials d awsCreds region clusterIdentifier dbUser database now (.ok net)
        connectSecs reason)
      [clusterCredentialsRequest d awsCreds region clusterIdentifier dbUser database now]
      (getClusterCredentials d awsCreds region clusterIdentifier dbUser database now
        (.ok net.recorded) connectSecs reason) :=
  (records_requestWithin net _ _ _ _).bind_quiet records_readAnswer

/-- The fields that the call needs are there. -/
structure Given (env : String → Option String) (credentials : Json)
    (clusterIdentifier region dbUser : String) (awsCreds : AwsCredentials) : Prop where
  cluster : nonEmptyField credentials "cluster_identifier" = some clusterIdentifier
  region : nonEmptyField credentials "region" = some region
  user : nonEmptyField credentials "db_user" = some dbUser
  aws : awsCredentials env credentials = some awsCreds

/-- With all settings given, the credentials are asked for and nothing else is done. -/
theorem resolveIamCredentials_of_given
    (h : Given env credentials clusterIdentifier region dbUser awsCreds) :
    resolveIamCredentials d database now client connectSecs reason env credentials =
      (do
        let issued ← getClusterCredentials d awsCreds region clusterIdentifier dbUser database
          now client connectSecs reason
        return (issued.dbUser, issued.dbPassword)) := by
  simp only [resolveIamCredentials, h.cluster, h.region, h.user, h.aws]

/-- The code fails over a field that it needs and that is not there. -/
theorem resolveIamCredentials_cases :
    (∃ clusterIdentifier region dbUser awsCreds,
      Given env credentials clusterIdentifier region dbUser awsCreds) ∨
    (∀ clusterIdentifier region dbUser awsCreds,
      ¬ Given env credentials clusterIdentifier region dbUser awsCreds) ∧
      ∃ message, resolveIamCredentials d database now client connectSecs reason env credentials =
        Call.fail (.provider message) := by
  by_cases hgiven : ∃ clusterIdentifier region dbUser awsCreds,
      Given env credentials clusterIdentifier region dbUser awsCreds
  · exact .inl hgiven
  · simp only [not_exists] at hgiven
    refine .inr ⟨hgiven, ?_⟩
    -- the fields are read in the order of the source
    unfold resolveIamCredentials
    split
    · exact ⟨_, rfl⟩
    · split
      · exact ⟨_, rfl⟩
      · split
        · exact ⟨_, rfl⟩
        · split
          · exact ⟨_, rfl⟩
          · rename_i hcluster _ _ hregion _ _ huser _ _ haws
            exact absurd ⟨hcluster, hregion, huser, haws⟩ (hgiven _ _ _ _)

/-- Credentials with the name of a key whose secret is known, and the name of a region. -/
structure Usable (secretOf env : String → Option String) (credentials : Json) : Prop where
  key : ∀ awsCreds, awsCredentials env credentials = some awsCreds →
    isName awsCreds.accessKeyId = true ∧
      secretOf awsCreds.accessKeyId = some awsCreds.secretAccessKey
  region : ∀ region, nonEmptyField credentials "region" = some region → isName region = true

/-- The request that was sent is accepted by the service and read as the call that was meant. -/
def Delivered (d : Digests) (secretOf : String → Option String)
    (clusterIdentifier dbUser database : String) (now : Utc) (request : HttpRequest) : Prop :=
  ∃ r a lines read, receive request = some r ∧ r.Accepted d secretOf a now.datetime lines ∧
    queryParams r.query = some read ∧
      read.Perm (clusterParams clusterIdentifier dbUser database)

/-- The request that is sent is delivered, for what it asks. -/
theorem delivered_clusterCredentialsRequest {secretOf : String → Option String}
    (hhex : d.Documented) (hnow : now.Formatted) (hkey : isName awsCreds.accessKeyId = true)
    (hregion : isName region = true)
    (hsecret : secretOf awsCreds.accessKeyId = some awsCreds.secretAccessKey) :
    Delivered d secretOf clusterIdentifier dbUser database now
      (clusterCredentialsRequest d awsCreds region clusterIdentifier dbUser database now) := by
  obtain ⟨read, hread, hperm⟩ :=
    queryParams_canonical (clusterParams clusterIdentifier dbUser database)
  exact ⟨_, _, _, read, receive_clusterCredentialsRequest hregion,
    accepted_ownReceived hhex hnow hkey hregion hsecret, hread, hperm⟩

/-- What the call gives when the service answers with a success and its body can be read. -/
theorem runs_getClusterCredentials {s : σ} {response : HttpResponse}
    (hanswer : (net.sendWithin connectSecs (clusterCredentialsRequest d awsCreds region
      clusterIdentifier dbUser database now) s).1 = some (.ok response))
    (htext : response.textError = none) (hsuccess : response.isSuccess = true) :
    ((getClusterCredentials d awsCreds region clusterIdentifier dbUser database now (.ok net)
      connectSecs reason).runs s).1 = parseGetClusterCredentialsResponse response.text := by
  have hclient : (httpClient (.ok net) : Call σ (Net σ)).runs s = (.ok net, s) := rfl
  rw [getClusterCredentials, Call.runs_bind_ok hclient,
    Call.runs_bind_ok (Net.runs_requestWithin_ok (Prod.ext hanswer rfl)),
    runs_readAnswer htext hsuccess]

/-- Without a field that it needs, or without a client, the code sends nothing. Otherwise it sends
one request, which arrives at the service, is accepted there, and is read as the call that was
meant; and what a good answer says is what it returns. -/
theorem iam_request_accepted (hhex : d.Documented) (hnow : now.Formatted)
    {secretOf : String → Option String} (h : Usable secretOf env credentials) (s : σ)
    (log : List HttpRequest) :
    let outcome := (resolveIamCredentials d database now (client.map Net.recorded) connectSecs
      reason env credentials).runs (s, log)
    ((∀ clusterIdentifier region dbUser awsCreds,
        ¬ Given env credentials clusterIdentifier region dbUser awsCreds) ∧
      ∃ message, outcome = (.error (.provider message), s, log)) ∨
    ∃ clusterIdentifier region dbUser awsCreds,
      Given env credentials clusterIdentifier region dbUser awsCreds ∧
      ((∃ e, client = .error e ∧
          outcome = (.error (.internal ("Failed to build HTTP client: " ++ e)), s, log)) ∨
        ∃ net request, client = .ok net ∧ outcome.2.2 = log ++ [request] ∧
          Delivered d secretOf clusterIdentifier dbUser database now request ∧
          ∀ response, (net.sendWithin connectSecs request s).1 = some (.ok response) →
            response.textError = none → response.isSuccess = true →
            outcome.1 = (parseGetClusterCredentialsResponse response.text).map
              fun issued => (issued.dbUser, issued.dbPassword)) := by
  intro outcome
  have hcases := @resolveIamCredentials_cases d database now _ (client.map Net.recorded)
    connectSecs reason env credentials
  rcases hcases with ⟨clusterIdentifier, region, dbUser, awsCreds, hgiven⟩ |
    ⟨hmissing, message, hfail⟩
  · refine .inr ⟨clusterIdentifier, region, dbUser, awsCreds, hgiven, ?_⟩
    obtain ⟨hkey, hsecret⟩ := h.key awsCreds hgiven.aws
    have hname := h.region region hgiven.region
    have houtcome : outcome = (do
        let issued ← getClusterCredentials d awsCreds region clusterIdentifier dbUser database
          now (client.map Net.recorded) connectSecs reason
        return (issued.dbUser, issued.dbPassword) : Call _ (String × String)).runs (s, log) :=
      congrArg (Call.runs · (s, log)) (resolveIamCredentials_of_given hgiven)
    cases client with
    | error e =>
        -- the client is needed before anything is sent
        refine .inl ⟨e, rfl, ?_⟩
        rw [houtcome]
        rfl
    | ok net =>
        have hrecords := (@records_getClusterCredentials d awsCreds region clusterIdentifier dbUser
          database now σ net connectSecs reason).bind_quiet
            fun issued => records_pure (issued.dbUser, issued.dbPassword)
        have hrun := hrecords s log
        refine .inr ⟨net, _, rfl, ?_,
          delivered_clusterCredentialsRequest hhex hnow hkey hname hsecret, ?_⟩
        · rw [houtcome]
          exact congrArg (·.2.2) hrun
        · intro response hanswer htext hsuccess
          have hissued := @runs_getClusterCredentials d awsCreds region clusterIdentifier dbUser
            database now σ net connectSecs reason s response hanswer htext hsuccess
          rw [houtcome]
          refine (congrArg Prod.fst hrun).trans ?_
          rw [Call.runs_bind, ← hissued]
          rcases (getClusterCredentials d awsCreds region clusterIdentifier dbUser database now
            (.ok net) connectSecs reason).runs s with ⟨e | issued, s'⟩
          · rfl
          · rfl
  · -- a field is missing: the failure comes before any request
    refine .inl ⟨hmissing, message, ?_⟩
    show (resolveIamCredentials d database now (client.map Net.recorded) connectSecs reason env
      credentials).runs (s, log) = _
    rw [hfail, Call.runs_fail]

end Sent

end Call

/-! A call for a cluster in one region. -/

/-- Two digits for each byte. -/
def hexDigits (data : List UInt8) : String :=
  .ofList (data.flatMap fun b => [Nat.digitChar (b.toNat / 16), Nat.digitChar (b.toNat % 16)])

/-- Different bytes have different digits, by induction on them. -/
theorem hexDigits_injective : Function.Injective hexDigits := by
  have hdigit : ∀ m n : Fin 16, Nat.digitChar m = Nat.digitChar n → m = n := by decide
  intro data data' h
  have hchars := String.ofList_injective h
  clear h
  -- byte by byte, two digits each
  induction data generalizing data' with
  | nil =>
      cases data' with
      | nil => rfl
      | cons b data' => cases hchars
  | cons b data ih =>
      cases data' with
      | nil => cases hchars
      | cons b' data' =>
          simp only [List.flatMap_cons, List.cons_append, List.nil_append, List.cons.injEq]
            at hchars
          obtain ⟨hhigh, hlow, hrest⟩ := hchars
          have hb := b.toNat_lt
          have hb' := b'.toNat_lt
          have hhigh := hdigit ⟨b.toNat / 16, by omega⟩ ⟨b'.toNat / 16, by omega⟩ hhigh
          have hlow := hdigit ⟨b.toNat % 16, by omega⟩ ⟨b'.toNat % 16, by omega⟩ hlow
          -- a byte is its two digits
          have hsame : b.toNat = b'.toNat := by
            have := congrArg Fin.val hhigh
            have := congrArg Fin.val hlow
            dsimp only at *
            omega
          rw [UInt8.toNat_inj.1 hsame, ih hrest]

/-- Stand-ins for the hash and the code that lose nothing. -/
def plainDigests : Digests where
  sha256 := id
  hmacSha256 key data := key ++ data
  hexEncode := hexDigits

/-- The digests of the example are as documented. -/
theorem documented_plainDigests : plainDigests.Documented where
  digits data c hc := by
    have hdigit : ∀ n : Fin 16, Nat.digitChar n ∈ "0123456789abcdef".toList := by decide
    change c ∈ (hexDigits data).toList at hc
    rw [hexDigits, String.toList_ofList, List.mem_flatMap] at hc
    obtain ⟨b, -, hmem⟩ := hc
    have hlt := b.toNat_lt
    simp only [List.mem_cons, List.not_mem_nil, or_false] at hmem
    rcases hmem with rfl | rfl
    · exact hdigit ⟨b.toNat / 16, by omega⟩
    · exact hdigit ⟨b.toNat % 16, by omega⟩
  injective := hexDigits_injective

def exampleCredentials : AwsCredentials := ⟨"AKID", "secret"⟩

def exampleNow : Utc := ⟨"20190825T160000Z", "20190825"⟩

/-- The example's time is written as documented. -/
theorem formatted_exampleNow : exampleNow.Formatted where
  datestamp := by
    have hdate : "20190825".toList.all Char.isDigit = true := by decide
    exact List.all_eq_true.1 hdate
  datetime := by
    have htime : "160000".toList.all Char.isDigit = true := by decide
    exact ⟨"160000".toList, by decide, List.all_eq_true.1 htime⟩

def knownSecret (accessKeyId : String) : Option String :=
  if accessKeyId = "AKID" then some "secret" else none

def exampleSettings : Json :=
  .object [
    ("access_key_id", .string "AKID"), ("cluster_identifier", .string "mycluster"),
    ("db_user", .string "admin"), ("region", .string "us-east-1"),
    ("secret_access_key", .string "secret")]

/-- The example's settings can be used. -/
theorem usable_exampleSettings : Usable knownSecret (fun _ => none) exampleSettings where
  key awsCreds h := by
    cases h
    exact ⟨by decide, rfl⟩
  region region h := by
    cases h
    decide

/-- A user and a password are issued. -/
def exampleAnswer : HttpResponse where
  status := 200
  headers := []
  text := "<DbUser>IAM:admin</DbUser><DbPassword>pw</DbPassword>"
  body := .error "no JSON"

/-- A cluster that answers gives its credentials. -/
theorem iam_request_accepted_example :
    ∃ request, (resolveIamCredentials plainDigests "dev" exampleNow
        (.ok (Net.stateless fun _ => exampleAnswer).recorded) 10 toString (fun _ => none)
        exampleSettings).runs ((), []) = (.ok ("IAM:admin", "pw"), (), [request]) ∧
      Delivered plainDigests knownSecret "mycluster" "admin" "dev" exampleNow request := by
  have hsent := @iam_request_accepted plainDigests "dev" exampleNow Unit
    (.ok (.stateless fun _ => exampleAnswer)) 10 toString (fun _ => none) exampleSettings
    documented_plainDigests formatted_exampleNow knownSecret usable_exampleSettings () []
  rcases hsent with ⟨hmissing, -⟩ | ⟨clusterIdentifier, region, dbUser, awsCreds, hgiven, hsent⟩
  · exact absurd ⟨rfl, rfl, rfl, rfl⟩
      (hmissing "mycluster" "us-east-1" "admin" exampleCredentials)
  · cases hgiven.cluster
    cases hgiven.user
    rcases hsent with ⟨e, hclient, -⟩ | ⟨net, request, hclient, hlog, hdelivered, hanswer⟩
    · cases hclient
    · cases hclient
      refine ⟨request, ?_, hdelivered⟩
      have hissued := hanswer exampleAnswer rfl rfl (by decide)
      exact Prod.ext hissued (Prod.ext rfl hlog)

/-! ## Moving the header -/

section Call

variable {d : Digests} {awsCreds : AwsCredentials}
  {region clusterIdentifier dbUser database : String} {now : Utc}

/-- Two different texts with one value. -/
def Collision (f : List UInt8 → List UInt8) (x y : List UInt8) : Prop := x ≠ y ∧ f x = f y

/-- Two inputs with one digest are the same, or a collision. -/
theorem collision_or_eq {f : List UInt8 → List UInt8} {x y : List UInt8} (h : f x = f y) :
    x = y ∨ Collision f x y := by
  by_cases heq : x = y
  · exact .inl heq
  · exact .inr ⟨heq, h⟩

/-- Where no line of a request is broken, no value of a header is. -/
theorem not_mem_of_header {r : ReceivedRequest} (hr : r.Unbroken) {name value : String}
    (h : r.header name = some value) : '\n' ∉ value.toList := by
  obtain ⟨entry, hentry, rfl⟩ := Option.map_eq_some_iff.1 h
  exact hr.headers entry (List.mem_of_find?_eq_some hentry)

/-- What lines the service makes of a request whose header is the call's. -/
theorem lines_of_canonicalLines {r : ReceivedRequest} {lines : List String}
    (h : r.canonicalLines d ["host", "x-amz-date"] = some lines) :
    ∃ read host datetime, queryParams r.query = some read ∧ r.header "host" = some host ∧
      r.header "x-amz-date" = some datetime ∧
      lines = [r.method, r.path, buildCanonicalQueryString read, "host" ++ ":" ++ host,
        "x-amz-date" ++ ":" ++ datetime, "", "host;x-amz-date", hexSha256 d r.body] := by
  unfold ReceivedRequest.canonicalLines at h
  cases hread : queryParams r.query with
  | none =>
      rw [hread] at h
      cases h
  | some read =>
      cases hhost : r.header "host" with
      | none =>
          simp only [hread, hhost, List.mapM_cons, Option.bind_eq_bind, Option.bind_some,
            Option.map_none, Option.bind_none] at h
          cases h
      | some host =>
          cases hdate : r.header "x-amz-date" with
          | none =>
              simp only [hread, hhost, hdate, List.mapM_cons, Option.bind_eq_bind,
                Option.bind_some, Option.map_some, Option.map_none, Option.bind_none] at h
              cases h
          | some datetime =>
              simp only [hread, hhost, hdate, List.mapM_cons, List.mapM_nil, Option.bind_eq_bind,
                Option.bind_some, Option.map_some] at h
              refine ⟨read, host, datetime, rfl, rfl, rfl, ?_⟩
              cases h
              rfl

/-- No line of the call is broken. -/
theorem not_mem_ownLines (hhex : d.Documented) (hnow : now.Formatted)
    (hregion : isName region = true) :
    ∀ s ∈ ownLines d region clusterIdentifier dbUser database now, '\n' ∉ s.toList := by
  intro s hs
  simp only [ownLines, signedLines, List.mem_cons, List.not_mem_nil, or_false] at hs
  rcases hs with rfl | rfl | rfl | rfl | rfl | rfl | rfl | rfl
  · decide
  · decide
  · exact not_mem_canonicalQuery _
  · exact not_mem_append (by decide) (not_mem_serviceHost hregion rfl (by decide))
  · exact not_mem_append (by decide) (not_mem_datetime hnow rfl (by decide))
  · decide
  · decide
  · exact not_mem_hexEncode hhex (by decide) _

/-- One text for signing comes from one date and one hash. -/
theorem stringToSign_injective (hhex : d.Documented) {scope datetime datetime' : String}
    {lines lines' : List String} (hscope : '\n' ∉ scope.toList) (hdatetime : '\n' ∉ datetime.toList)
    (hdatetime' : '\n' ∉ datetime'.toList)
    (h : stringToSign d scope datetime lines = stringToSign d scope datetime' lines') :
    datetime = datetime' ∧
      d.sha256 (bytes ("\n".intercalate lines)) = d.sha256 (bytes ("\n".intercalate lines')) := by
  -- four lines, and no line break in any: the text splits in one way only
  have hclean : ∀ datetime hash : String, '\n' ∉ datetime.toList → '\n' ∉ hash.toList →
      ∀ s ∈ ["AWS4-HMAC-SHA256", datetime, scope, hash], '\n' ∉ s.toList := by
    intro datetime hash hdatetime hhash s hs
    simp only [List.mem_cons, List.not_mem_nil, or_false] at hs
    rcases hs with rfl | rfl | rfl | rfl
    · decide
    · exact hdatetime
    · exact hscope
    · exact hhash
  have hparts := @join_injective '\n' "\n" rfl _ _ (List.cons_ne_nil _ _) (List.cons_ne_nil _ _)
    (hclean datetime _ hdatetime (not_mem_hexEncode hhex (by decide) _))
    (hclean datetime' _ hdatetime' (not_mem_hexEncode hhex (by decide) _)) h
  simp only [List.cons.injEq, and_true, true_and] at hparts
  exact ⟨hparts.1, hhex.injective hparts.2⟩

/-- Requests that are written in the lines of the call are the call. -/
theorem same_of_lines (hhex : d.Documented) (hnow : now.Formatted) {r : ReceivedRequest}
    (hr : r.Unbroken) (hregion : isName region = true) {lines : List String}
    (h : r.canonicalLines d ["host", "x-amz-date"] = some lines)
    (heq : "\n".intercalate lines =
      "\n".intercalate (ownLines d region clusterIdentifier dbUser database now)) :
    r.method = "GET" ∧ r.path = "/" ∧ r.header "host" = some (serviceHost region) ∧
      (∃ read, queryParams r.query = some read ∧
        read.Perm (clusterParams clusterIdentifier dbUser database)) ∧
      d.sha256 r.body = d.sha256 [] := by
  obtain ⟨read, host, datetime, hread, hhost, hdate, rfl⟩ := lines_of_canonicalLines h
  have hclean : ∀ s ∈ [r.method, r.path, buildCanonicalQueryString read, "host" ++ ":" ++ host,
      "x-amz-date" ++ ":" ++ datetime, "", "host;x-amz-date", hexSha256 d r.body],
      '\n' ∉ s.toList := by
    intro s hs
    simp only [List.mem_cons, List.not_mem_nil, or_false] at hs
    rcases hs with rfl | rfl | rfl | rfl | rfl | rfl | rfl | rfl
    · exact hr.method
    · exact hr.path
    · exact not_mem_canonicalQuery _
    · exact not_mem_append (by decide) (not_mem_of_header hr hhost)
    · exact not_mem_append (by decide) (not_mem_of_header hr hdate)
    · decide
    · decide
    · exact not_mem_hexEncode hhex (by decide) _
  -- the texts are equal, and so are their lines one by one
  have hlines := @join_injective '\n' "\n" rfl _ _ (List.cons_ne_nil _ _) (List.cons_ne_nil _ _)
    hclean (not_mem_ownLines hhex hnow hregion) heq
  simp only [List.cons.injEq, and_true, true_and] at hlines
  obtain ⟨hmethod, hpath, hquery, hhost', -, hbody⟩ := hlines
  refine ⟨hmethod, hpath, ?_, ⟨read, hread, perm_of_canonical hquery⟩, hhex.injective hbody⟩
  -- the host stands in its line after the name of the header
  have htexts : "host:".toList ++ host.toList = "host:".toList ++ (serviceHost region).toList := by
    have hboth := congrArg String.toList hhost'
    rw [String.toList_append, String.toList_append, String.toList_append] at hboth
    exact hboth
  rw [hhost, String.toList_inj.1 (List.append_cancel_left htexts)]

/-- No line of the code's own request is broken. -/
theorem unbroken_ownReceived (hhex : d.Documented) (hnow : now.Formatted)
    (hkey : isName awsCreds.accessKeyId = true) (hregion : isName region = true) :
    (ownReceived d awsCreds region clusterIdentifier dbUser database now).Unbroken := by
  constructor
  · show '\n' ∉ "GET".toList
    decide
  · show '\n' ∉ "/".toList
    decide
  · intro h hmem
    simp only [ownReceived, clusterCredentialsRequest, List.mem_cons, List.not_mem_nil,
      or_false] at hmem
    rcases hmem with rfl | rfl | rfl
    · exact not_mem_serviceHost hregion rfl (by decide)
    · exact not_mem_datetime hnow rfl (by decide)
    · show '\n' ∉ (signRequest _ _ _ _ _ _ _ _ _ _).toList
      rw [signRequest_eq]
      refine @not_mem_join ',' "," rfl '\n' (by decide) _ fun s hs => ?_
      simp only [signedBy, List.mem_cons, List.not_mem_nil, or_false] at hs
      rcases hs with rfl | rfl | rfl
      · refine not_mem_append (by decide) (@not_mem_join '/' "/" rfl '\n' (by decide) _ ?_)
        intro s hs
        rcases List.mem_cons.1 hs with rfl | hs
        · exact not_mem_of_isName hkey rfl
        · exact not_mem_scope hnow hregion s hs
      · decide
      · exact not_mem_append (by decide) (not_mem_hexEncode hhex (by decide) _)

/-- Another request that the service accepts with the header of the call is the call, but for
the order of the parameters and for headers that are not signed, or there is a collision: of
the hash or of the authentication code, in the texts of the two. -/
theorem authorization_binds (hhex : d.Documented) (hnow : now.Formatted)
    (hkey : isName awsCreds.accessKeyId = true) (hregion : isName region = true)
    {secretOf : String → Option String}
    (hsecret : secretOf awsCreds.accessKeyId = some awsCreds.secretAccessKey)
    {r : ReceivedRequest} (hr : r.Unbroken) {header : String}
    (hheader : r.header "authorization" = some header ∧ ("Authorization", header) ∈
      (clusterCredentialsRequest d awsCreds region clusterIdentifier dbUser database now).headers)
    {a : Authorization} {datetime : String} {lines : List String}
    (haccepted : r.Accepted d secretOf a datetime lines) :
    (r.method = "GET" ∧ r.path = "/" ∧ r.header "host" = some (serviceHost region) ∧
        datetime = now.datetime ∧
        (∃ read, queryParams r.query = some read ∧
          read.Perm (clusterParams clusterIdentifier dbUser database)) ∧
        (r.body = [] ∨ Collision d.sha256 r.body [])) ∨
      Collision d.sha256 (bytes ("\n".intercalate lines)) (bytes ("\n".intercalate
        (ownLines d region clusterIdentifier dbUser database now))) ∨
      Collision
        (d.hmacSha256 (deriveSigningKey d awsCreds.secretAccessKey now.datestamp region "redshift"))
        (bytes (stringToSign d a.scope datetime lines))
        (bytes (stringToSign d a.scope now.datetime
          (ownLines d region clusterIdentifier dbUser database now))) := by
  obtain ⟨hget, hmem⟩ := hheader
  obtain rfl : header = signRequest d "GET" (serviceHost region) "/"
      (buildCanonicalQueryString (clusterParams clusterIdentifier dbUser database)) region
      "redshift" awsCreds now.datetime now.datestamp := by
    simpa [clusterCredentialsRequest, serviceHost] using hmem
  -- the header is read as the one that the code wrote
  have hparse := haccepted.authorization
  rw [hget, Option.bind_some, parse_ownAuthorization hhex hnow hkey hregion,
    Option.some.injEq] at hparse
  subst hparse
  obtain ⟨secret, hsecret', hsignature⟩ := haccepted.signature
  have hsame : some secret = some awsCreds.secretAccessKey := hsecret'.symm.trans hsecret
  cases hsame
  have hscope : '\n' ∉ (ownAuthorization d awsCreds region clusterIdentifier dbUser database
      now).scope.toList :=
    @not_mem_join '/' "/" rfl '\n' (by decide) _ (not_mem_scope hnow hregion)
  -- one code: of one text, or of two
  rcases collision_or_eq (hhex.injective hsignature) with htext | hcollision
  · obtain ⟨hdate, hhash⟩ := stringToSign_injective hhex hscope
      (not_mem_of_header hr haccepted.dated.1) (not_mem_datetime hnow rfl (by decide))
      (bytes_injective htext)
    rcases collision_or_eq hhash with hlines | hcollision
    · left
      obtain ⟨hmethod, hpath, hhost, hread, hbody⟩ :=
        same_of_lines hhex hnow hr hregion haccepted.written (bytes_injective hlines)
      exact ⟨hmethod, hpath, hhost, hdate, hread, collision_or_eq hbody⟩
    · exact .inr (.inl hcollision)
  · exact .inr (.inr hcollision)

end Call

/-- The call with a header of a proxy, and its parameters the other way around. -/
def forwardedReceived : ReceivedRequest where
  method := "GET"
  path := "/"
  query := "Version=2012-12-01&DbUser=admin&DbName=dev&ClusterIdentifier=mycluster&" ++
    "AutoCreate=false&Action=GetClusterCredentials"
  headers := ("Via", "1.1 proxy") ::
    (clusterCredentialsRequest plainDigests exampleCredentials "us-east-1" "mycluster" "admin"
      "dev" exampleNow).headers
  body := []

/-- The parameters of the request that was forwarded, in another order. -/
theorem queryParams_forwardedReceived : queryParams forwardedReceived.query =
    some (clusterParams "mycluster" "admin" "dev").reverse := by
  have hpairs : queryPairs forwardedReceived.query =
      some ((clusterParams "mycluster" "admin" "dev").reverse.map
        fun pair => (awsUrlEncode pair.1, awsUrlEncode pair.2)) := by
    decide +kernel
  rw [queryParams, hpairs]
  -- whatever the parameters are
  generalize (clusterParams "mycluster" "admin" "dev").reverse = params
  exact mapM_map_eq_some fun pair _ => decodePair_encoded pair.1 pair.2

/-- Nothing collides there, so another request with the header makes the same call. -/
theorem authorization_binds_forwarded :
    forwardedReceived.header "host" = some (serviceHost "us-east-1") ∧
      ∃ read, queryParams forwardedReceived.query = some read ∧
        read.Perm (clusterParams "mycluster" "admin" "dev") := by
  obtain ⟨hhost, hdate, hheader⟩ := @header_ownReceived plainDigests exampleCredentials
    "us-east-1" "mycluster" "admin" "dev" exampleNow
  -- the header of the proxy is none of those that are signed
  have hvia (name : String) (hname : Text.toLowercase "Via" ≠ name) :
      forwardedReceived.header name = (ownReceived plainDigests exampleCredentials "us-east-1"
        "mycluster" "admin" "dev" exampleNow).header name := by
    show Option.map _ (List.find? _ (_ :: _)) = _
    rw [List.find?_cons_of_neg (by simpa using hname)]
    rfl
  rw [← hvia "host" (by decide)] at hhost
  rw [← hvia "x-amz-date" (by decide)] at hdate
  rw [← hvia "authorization" (by decide)] at hheader
  have hown := @unbroken_ownReceived plainDigests exampleCredentials "us-east-1" "mycluster"
    "admin" "dev" exampleNow documented_plainDigests formatted_exampleNow (by decide) (by decide)
  have hunbroken : forwardedReceived.Unbroken := by
    refine ⟨by decide, by decide, ?_⟩
    intro h hmem
    rcases List.mem_cons.1 hmem with rfl | hmem
    · decide
    · exact hown.headers h hmem
  have haccepted := @accepted_of_parts plainDigests exampleCredentials "us-east-1" "mycluster"
    "admin" "dev" exampleNow knownSecret documented_plainDigests formatted_exampleNow (by decide)
    (by decide) rfl _ ⟨rfl, rfl, rfl⟩ ⟨hhost, hdate, hheader⟩ _ queryParams_forwardedReceived
    (List.reverse_perm _)
  have hmem : ("Authorization", signRequest plainDigests "GET" (serviceHost "us-east-1") "/"
      (buildCanonicalQueryString (clusterParams "mycluster" "admin" "dev")) "us-east-1" "redshift"
      exampleCredentials exampleNow.datetime exampleNow.datestamp) ∈
      (clusterCredentialsRequest plainDigests exampleCredentials "us-east-1" "mycluster" "admin"
        "dev" exampleNow).headers := .tail _ (.tail _ (.head _))
  rcases authorization_binds documented_plainDigests formatted_exampleNow
      (show isName exampleCredentials.accessKeyId = true by decide)
      (show isName "us-east-1" = true by decide) rfl hunbroken ⟨hheader, hmem⟩ haccepted with
    ⟨-, -, hhost, -, hread, -⟩ | hcollision | hcollision
  · exact ⟨hhost, hread⟩
  · exact absurd hcollision.2 hcollision.1
  · exact absurd (List.append_cancel_left hcollision.2) hcollision.1

end Redshift

end KyomiConnect
