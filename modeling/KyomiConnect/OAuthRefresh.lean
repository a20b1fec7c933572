import KyomiConnect.Http
import KyomiConnect.JsonRows

/-! # OAuth token refresh

`ensure_valid_oauth_credentials`: the credentials of a datasource with OAuth of
its own are refreshed when their access token has expired, or is about to. Two
flows ask for a token: the refresh flow, with a refresh token, and Databricks'
M2M flow, with a client id and secret.

An instant is a number of nanoseconds since 1970-01-01T00:00:00Z. chrono's
arithmetic panics outside its range of dates; a function whose panic can be
reached is `none` there.
-/

namespace KyomiConnect

/-! ## Instants -/

def NaiveDateTime.instant (dt : NaiveDateTime) : ℤ :=
  (dt.date.days * 86400 + dt.time.secs) * 1000000000 + dt.time.nanos

def NaiveDateTime.ofInstant (t : ℤ) : NaiveDateTime where
  date := ⟨t / 86400000000000⟩
  time := { secs := (t % 86400000000000 / 1000000000).toNat, nanos := (t % 1000000000).toNat }

/-- `DateTime::<Utc>::MIN_UTC` to `MAX_UTC`, the years -262143 to 262142. -/
def inDateRange (t : ℤ) : Bool :=
  -8334601228800000000000 ≤ t && t ≤ 8210266876799999999999

/-- `dt + Duration::seconds(n)`; `none` if the duration or the date is out of
range, which is a panic. -/
def plusSeconds (t n : ℤ) : Option ℤ :=
  if n.natAbs ≤ 9223372036854775 && inDateRange (t + n * 1000000000) then
    some (t + n * 1000000000)
  else none

/-- `DateTime::from_timestamp` -/
def fromTimestamp (ts : Int64) : Option ℤ :=
  if inDateRange (ts.toInt * 1000000000) then some (ts.toInt * 1000000000) else none

/-- `f as i64`: towards zero, saturating, and zero for a NaN. -/
def F64.toI64 (f : F64) : Int64 :=
  let exponent := f.bits.toNat / 4503599627370496 % 2048
  let fraction := f.bits.toNat % 4503599627370496
  let significand := 4503599627370496 + fraction
  let magnitude :=
    if exponent < 1023 then 0
    else if exponent < 1075 then significand >>> (1075 - exponent)
    else significand <<< (exponent - 1075)
  if exponent = 2047 ∧ fraction ≠ 0 then 0
  else if f.bits.toNat < Json.i64Bound then .ofNat (min magnitude (Json.i64Bound - 1))
  else .ofInt (-min magnitude Json.i64Bound)

-- 3600.5 and -1.0
example : F64.toI64 ⟨0x40AC210000000000⟩ = 3600 := by decide
example : F64.toI64 ⟨0xBFF0000000000000⟩ = -1 := by decide

/-! ## Token expiry -/

section Expiry

variable (fmt : Formats)

/-- Parse a token expiry value from credentials JSON. -/
def parseTokenExpiry : Json → Option ℤ
  | .string s =>
      let s := Text.trim s
      if s = "" then none
      else
        match fmt.parseRfc3339 s with
        -- with a time zone
        | some dt => some dt.instant
        | none =>
            match fmt.parseDateTime "%Y-%m-%dT%H:%M:%S" s with
            -- without one, it is taken for UTC
            | some naive => some naive.instant
            | none =>
                match fmt.parseDateTime "%Y-%m-%dT%H:%M:%S%.f" s with
                | some naive => some naive.instant
                | none =>
                    match parseI64 s with
                    -- a number of seconds, written as a text
                    | some ts => fromTimestamp ts
                    | none => (fmt.parseF64 s).bind fun ts => fromTimestamp ts.toI64
  | .number n =>
      -- a number of seconds
      match (Json.number n).asI64 with
      | some ts => fromTimestamp ts
      | none => ((Json.number n).asF64 fmt).bind fun ts => fromTimestamp ts.toI64
  | _ => none

/-- Buffer in seconds before actual expiry when we consider the token expired. -/
def TOKEN_EXPIRY_BUFFER_SECS : ℤ := 300

/-- Check whether the access token has expired at `now`, or will within the buffer.
Without an expiry, or with one that cannot be parsed, it has. -/
def isTokenExpired (now : ℤ) (credentials : Json) (bufferSecs : ℤ) : Option Bool :=
  match credentials.get "oauth_token_expiry" with
  -- never stored
  | none => some true
  | some expiryValue =>
      match parseTokenExpiry fmt expiryValue with
      | none => some true
      -- the subtraction panics outside of chrono's range
      | some expiry => (plusSeconds expiry (-bufferSecs)).map fun limit => decide (limit ≤ now)

end Expiry

/-! ## Token requests -/

def OAUTH_REFRESH_TIMEOUT_SECS : ℕ := 30

/-- A form-encoded POST. -/
def formRequest (url : String) (params : List (String × String)) : HttpRequest where
  method := .post
  url
  headers := []
  body := none
  form := params

variable {σ : Type} (net : Net σ)

/-- The text for a token response that is not a success. -/
def tokenErrorText (context : String) (body : Json) : String :=
  let error := (body.getStr "error").getD "unknown_error"
  let description := (body.getStr "error_description").getD "No description"
  s!"{context} ({error}): {description}"

/-- POST a form-encoded token refresh request and return the parsed JSON body. -/
def postTokenRequest (url : String) (params : List (String × String)) : Call σ Json := do
  let response ← net.requestWithin OAUTH_REFRESH_TIMEOUT_SECS
    s!"OAuth token refresh timed out after {OAUTH_REFRESH_TIMEOUT_SECS}s"
    "OAuth token refresh HTTP request failed" (formRequest url params)
  let body ← response.json "Failed to parse OAuth token refresh response"
  if response.isSuccess then return body
  else Call.fail (.internal (tokenErrorText "OAuth refresh failed" body))

/-- A text of the connection config that a flow cannot do without. -/
def requireStr (connectionConfig : Json) (key message : String) : Call σ String :=
  match connectionConfig.getStr key with
  | some s => pure s
  | none => Call.fail (.provider message)

/-- The form of a refresh request. -/
def refreshParams (refreshToken clientId clientSecret : String) : List (String × String) :=
  [("grant_type", "refresh_token"), ("refresh_token", refreshToken), ("client_id", clientId),
    ("client_secret", clientSecret)]

/-! ## The refresh flow -/

/-- Refresh a BigQuery enterprise OAuth token. -/
def refreshBigqueryEnterprise (refreshToken : String) (connectionConfig : Json) :
    Call σ Json := do
  let clientId ← requireStr connectionConfig "oauth_client_id"
    "BigQuery enterprise OAuth requires oauth_client_id in connection config"
  let clientSecret ← requireStr connectionConfig "oauth_client_secret"
    "BigQuery enterprise OAuth requires oauth_client_secret in connection config"
  postTokenRequest net "https://oauth2.googleapis.com/token"
    (refreshParams refreshToken clientId clientSecret)

/-- Refresh a Snowflake OAuth token. -/
def refreshSnowflake (refreshToken : String) (connectionConfig : Json) : Call σ Json := do
  let account ← requireStr connectionConfig "account"
    "Snowflake OAuth refresh requires account in connection config"
  let clientId := (connectionConfig.getStr "oauth_client_id").getD ""
  let clientSecret := (connectionConfig.getStr "oauth_client_secret").getD ""
  postTokenRequest net s!"https://{account}.snowflakecomputing.com/oauth/token-request"
    (refreshParams refreshToken clientId clientSecret)

/-- Refresh a Databricks OAuth token. -/
def refreshDatabricks (refreshToken : String) (connectionConfig : Json) : Call σ Json := do
  let serverHostname ← requireStr connectionConfig "server_hostname"
    "Databricks OAuth refresh requires server_hostname in connection config"
  let clientId := (connectionConfig.getStr "oauth_client_id").getD ""
  let clientSecret := (connectionConfig.getStr "oauth_client_secret").getD ""
  postTokenRequest net s!"https://{serverHostname}/oidc/v1/token"
    (refreshParams refreshToken clientId clientSecret)

/-- Refresh a Synapse (Azure AD) OAuth token. -/
def refreshSynapse (refreshToken : String) (connectionConfig : Json) : Call σ Json := do
  let tenantId ← requireStr connectionConfig "tenant_id"
    "Synapse OAuth refresh requires tenant_id in connection config"
  let clientId ← requireStr connectionConfig "oauth_client_id"
    "Synapse OAuth refresh requires oauth_client_id in connection config"
  let clientSecret := (connectionConfig.getStr "oauth_client_secret").getD ""
  postTokenRequest net s!"https://login.microsoftonline.com/{tenantId}/oauth2/v2.0/token"
    (refreshParams refreshToken clientId clientSecret)

/-- `expires_in` of a token response. -/
def expiresIn (tokenResponse : Json) : Option Int64 :=
  (tokenResponse.get "expires_in").bind Json.asI64

section Flows

variable (fmt : Formats) (now : ℤ)

/-- The expiry of a token that lives `n` more seconds, as it is stored; `none` is
the panic. -/
def expiryText (n : Int64) : Option String :=
  (plusSeconds now n.toInt).map fun t => fmt.toRfc3339 (.ofInstant t)

/-- Put the expiry into credentials, if there is one. -/
def insertExpiry (expires : Option Int64) (obj : List (String × Json)) :
    Option (List (String × Json)) :=
  match expires with
  | none => some obj
  | some n => (expiryText fmt now n).map fun text =>
      insertKey "oauth_token_expiry" (.string text) obj

/-- Put a field of the response into credentials, if it is there. -/
def insertField (key field : String) (tokenResponse : Json) (obj : List (String × Json)) :
    List (String × Json) :=
  match tokenResponse.get field with
  | some v => insertKey key v obj
  | none => obj

/-- Apply refresh response fields to the credentials JSON; `none` is the panic. -/
def applyRefreshResponse (credentials tokenResponse : Json) : Option Json :=
  match credentials with
  | .object obj =>
      let obj := insertField "oauth_access_token" "access_token" tokenResponse obj
      (insertExpiry fmt now (expiresIn tokenResponse) obj).map fun obj =>
        .object (insertField "oauth_refresh_token" "refresh_token" tokenResponse obj)
  -- credentials that are no object stay as they are
  | _ => some credentials

/-- Check if the error indicates that the refresh token itself is invalid. -/
def isIrrecoverableGrantError (errorMsg : String) : Bool :=
  let lower := Text.toLowercase errorMsg
  Text.contains lower "invalid_grant" || Text.contains lower "invalid_token" ||
    Text.contains lower "token has been expired or revoked"

/-- The error for a refresh that failed. -/
def refreshFailure (errMsg : String) : Error :=
  if isIrrecoverableGrantError errMsg then
    .internal s!"OAuth refresh failed (re-authorization required): {errMsg}"
  else .internal s!"OAuth token refresh failed: {errMsg}"

/-- The credentials after a refresh; `none` is a panic. -/
def refreshed (credentials : Json) (refreshResult : Call σ Json) : Call σ (Option Json) := fun s =>
  match refreshResult.runs s with
  | (.ok tokenResponse, s) => (.ok (applyRefreshResponse fmt now credentials tokenResponse), s)
  | (.error e, s) => (.error (refreshFailure e.toString), s)

/-! ## The M2M flow -/

/-- A text under a key that is not empty. -/
def nonEmptyStr (key : String) (v : Json) : Option String := (v.getStr key).filter (· ≠ "")

/-- Exchange M2M credentials for an access token and its lifetime. -/
def exchangeM2mToken (tokenUrl clientId clientSecret : String) :
    Call σ (String × Option Int64) := do
  let response ← net.requestWithin OAUTH_REFRESH_TIMEOUT_SECS
    s!"Databricks M2M token exchange timed out after {OAUTH_REFRESH_TIMEOUT_SECS}s"
    "Databricks M2M token exchange HTTP request failed"
    (formRequest tokenUrl [("grant_type", "client_credentials"), ("client_id", clientId),
      ("client_secret", clientSecret), ("scope", "all-apis")])
  let body ← response.json "Failed to parse Databricks M2M token response"
  if response.isSuccess then
    match nonEmptyStr "access_token" body with
    | some accessToken => return (accessToken, expiresIn body)
    | none => Call.fail (.internal "Databricks M2M token response missing access_token")
  else Call.fail (.internal (tokenErrorText "Databricks M2M token exchange failed" body))

/-- Store an exchanged token in the credentials; `none` is the panic. -/
def storeM2mToken (credentials : Json) (accessToken : String) (expires : Option Int64) :
    Option Json :=
  match credentials with
  | .object obj =>
      (insertExpiry fmt now expires
        (insertKey "oauth_access_token" (.string accessToken) obj)).map .object
  | _ => some credentials

/-- The client id and secret of M2M credentials. -/
def m2mClient (credentials : Json) : Option (String × String) :=
  match nonEmptyStr "client_id" credentials, nonEmptyStr "client_secret" credentials with
  | some clientId, some clientSecret => some (clientId, clientSecret)
  | _, _ => none

def hasCachedToken (credentials : Json) : Bool :=
  (nonEmptyStr "oauth_access_token" credentials).isSome

/-- Whether the cached token can be reused. The expiry is looked at only if there
is a token; `none` is its panic. -/
def reusesToken (credentials : Json) : Option Bool :=
  if hasCachedToken credentials then
    (isTokenExpired fmt now credentials TOKEN_EXPIRY_BUFFER_SECS).map (!·)
  else some false

/-- Exchange the client id and secret, and store the token. -/
def exchanged (credentials connectionConfig : Json) (clientId clientSecret : String) :
    Call σ (Option Json) := do
  let serverHostname ← requireStr connectionConfig "server_hostname"
    "Databricks M2M OAuth requires server_hostname in connection config"
  let (accessToken, expires) ← exchangeM2mToken net s!"https://{serverHostname}/oidc/v1/token"
    clientId clientSecret
  return storeM2mToken fmt now credentials accessToken expires

/-- Handle Databricks M2M (service principal) credentials; `none` is a panic. -/
def handleDatabricksM2m (credentials connectionConfig : Json) : Call σ (Option Json) :=
  match m2mClient credentials with
  -- no service principal
  | none => pure (some credentials)
  | some (clientId, clientSecret) =>
      match reusesToken fmt now credentials with
      -- looking at the expiry panics
      | none => pure none
      | some true => pure (some credentials)
      | some false => exchanged net fmt now credentials connectionConfig clientId clientSecret

/-! ## The entry point -/

/-- The datasource types with per-datasource OAuth tokens. -/
def usesPerDatasourceOauth : DatasourceType → Bool
  | .bigQuery | .snowflake | .databricks | .synapse => true
  | _ => false

/-- The refresh token of the credentials. -/
def storedRefreshToken (credentials : Json) : Option String :=
  nonEmptyStr "oauth_refresh_token" credentials

/-- Check if OAuth credentials need refreshing, and refresh if expired; `none` is a
panic. -/
def ensureValidOauthCredentials (credentials connectionConfig : Json) (dsType : DatasourceType) :
    Call σ (Option Json) :=
  if usesPerDatasourceOauth dsType then
    match storedRefreshToken credentials with
    | none =>
        if dsType = .databricks then handleDatabricksM2m net fmt now credentials connectionConfig
        else pure (some credentials)
    | some refreshToken =>
        match isTokenExpired fmt now credentials TOKEN_EXPIRY_BUFFER_SECS with
        | none => pure none
        -- still valid
        | some false => pure (some credentials)
        | some true =>
            match dsType with
            | .bigQuery => refreshed fmt now credentials
                (refreshBigqueryEnterprise net refreshToken connectionConfig)
            | .snowflake => refreshed fmt now credentials
                (refreshSnowflake net refreshToken connectionConfig)
            | .databricks => refreshed fmt now credentials
                (refreshDatabricks net refreshToken connectionConfig)
            | .synapse => refreshed fmt now credentials
                (refreshSynapse net refreshToken connectionConfig)
            | _ => pure (some credentials)
  else pure (some credentials)

end Flows

end KyomiConnect
