import KyomiConnect.OAuthRefresh

/-! # What a token response does to the credentials

A call of `ensure_valid_oauth_credentials` asks for a token or it does not
(`asksForToken`). If it does not, it returns the credentials as they are; if it
does and the response is a success, it returns what the response makes of them.
`refresh_sound_iff` says for which responses the credentials stay sound: the M2M
flow checks the access token it is given, the refresh flow does not, and both
read the lifetime as an integer only, and write an expiry that chrono reads back
up to the year 9999.
-/

namespace KyomiConnect

section Answered

variable {r : HttpResponse}

/-- The network of a token endpoint that gives one response to every request. The
state is the number of requests. -/
def tokenEndpoint (r : HttpResponse) : Net ℕ := Net.answering fun _ _ => r

/-- The endpoint gives its answer to every request. -/
theorem runs_requestWithin_tokenEndpoint (secs : ℕ) (timedOut context : String)
    (req : HttpRequest) (k : ℕ) :
    ((tokenEndpoint r).requestWithin secs timedOut context req).runs k = (.ok r, k + 1) :=
  Net.runs_requestWithin_ok rfl

/-- A refresh request is answered with the response's body, if that is JSON. -/
theorem runs_postTokenRequest (hstatus : r.isSuccess = true) (url : String)
    (params : List (String × String)) (k : ℕ) :
    (∃ e, (postTokenRequest (tokenEndpoint r) url params).runs k = (.error e, k + 1)) ∨
    ∃ body, r.body = .ok body ∧
      (postTokenRequest (tokenEndpoint r) url params).runs k = (.ok body, k + 1) := by
  unfold postTokenRequest
  rw [Call.runs_bind_ok (runs_requestWithin_tokenEndpoint _ _ _ _ k)]
  cases hbody : r.body with
  | error e =>
      left
      rw [Call.runs_bind_error (HttpResponse.runs_json_error hbody _ _)]
      exact ⟨_, rfl⟩
  | ok body =>
      right
      rw [Call.runs_bind_ok (HttpResponse.runs_json_ok hbody _ _), if_pos hstatus]
      exact ⟨body, rfl, rfl⟩

/-- An exchange succeeds if the response has an access token. -/
theorem runs_exchangeM2mToken (hstatus : r.isSuccess = true) (url clientId clientSecret : String)
    (k : ℕ) :
    (∃ e, (exchangeM2mToken (tokenEndpoint r) url clientId clientSecret).runs k =
      (.error e, k + 1)) ∨
    ∃ body token, r.body = .ok body ∧ nonEmptyStr "access_token" body = some token ∧
      (exchangeM2mToken (tokenEndpoint r) url clientId clientSecret).runs k =
        (.ok (token, expiresIn body), k + 1) := by
  unfold exchangeM2mToken
  rw [Call.runs_bind_ok (runs_requestWithin_tokenEndpoint _ _ _ _ k)]
  cases hbody : r.body with
  | error e =>
      left
      rw [Call.runs_bind_error (HttpResponse.runs_json_error hbody _ _)]
      exact ⟨_, rfl⟩
  | ok body =>
      rw [Call.runs_bind_ok (HttpResponse.runs_json_ok hbody _ _), if_pos hstatus]
      cases htoken : nonEmptyStr "access_token" body with
      | none => exact .inl ⟨_, rfl⟩
      | some token => exact .inr ⟨body, token, rfl, htoken, rfl⟩

end Answered

/-! ## The two flows -/

section Flows

variable {σ : Type} (net : Net σ)

/-- A setting that is there is handed on. -/
theorem requireStr_some {config : Json} {key text : String} (h : config.getStr key = some text)
    (message : String) {α : Type} (f : String → Call σ α) :
    requireStr config key message >>= f = f text := by
  rw [requireStr, h]
  rfl

/-- A setting that is missing fails with its message. -/
theorem requireStr_none {config : Json} {key : String} (h : config.getStr key = none)
    (message : String) {α : Type} (f : String → Call σ α) :
    requireStr config key message >>= f = Call.fail (.provider message) := by
  rw [requireStr, h]
  rfl

/-- The refresh of a datasource type. -/
def refreshOf (dsType : DatasourceType) (refreshToken : String) (config : Json) : Call σ Json :=
  match dsType with
  | .bigQuery => refreshBigqueryEnterprise net refreshToken config
  | .snowflake => refreshSnowflake net refreshToken config
  | .databricks => refreshDatabricks net refreshToken config
  | _ => refreshSynapse net refreshToken config

/-- A refresh fails for want of a configured text, whatever the refresh token, or
it is one request. -/
inductive RefreshShape (refresh : String → Call σ Json) : Prop where
  | unconfigured (e : Error) (h : ∀ refreshToken, refresh refreshToken = Call.fail e)
  | request (url : String) (params : String → List (String × String))
      (h : ∀ refreshToken, refresh refreshToken = postTokenRequest net url (params refreshToken))

/-- Every type of datasource refreshes in one request, or fails before it. -/
theorem refreshOf_shape (dsType : DatasourceType) (config : Json) :
    RefreshShape net fun refreshToken => refreshOf net dsType refreshToken config := by
  -- needs the client of the configuration, id and secret
  have hbigQuery : RefreshShape net fun rt => refreshBigqueryEnterprise net rt config := by
    cases hid : config.getStr "oauth_client_id" with
    | none => exact .unconfigured _ fun _ => requireStr_none hid _ _
    | some clientId =>
        cases hsecret : config.getStr "oauth_client_secret" with
        | none =>
            exact .unconfigured _ fun _ =>
              (requireStr_some hid _ _).trans (requireStr_none hsecret _ _)
        | some clientSecret =>
            exact .request _ _ fun _ =>
              (requireStr_some hid _ _).trans (requireStr_some hsecret _ _)
  -- needs the account, for the endpoint
  have hsnowflake : RefreshShape net fun rt => refreshSnowflake net rt config := by
    cases haccount : config.getStr "account" with
    | none => exact .unconfigured _ fun _ => requireStr_none haccount _ _
    | some account => exact .request _ _ fun _ => requireStr_some haccount _ _
  -- needs the host, for the endpoint
  have hdatabricks : RefreshShape net fun rt => refreshDatabricks net rt config := by
    cases hhost : config.getStr "server_hostname" with
    | none => exact .unconfigured _ fun _ => requireStr_none hhost _ _
    | some serverHostname => exact .request _ _ fun _ => requireStr_some hhost _ _
  -- needs the tenant and the client id
  have hsynapse : RefreshShape net fun rt => refreshSynapse net rt config := by
    cases htenant : config.getStr "tenant_id" with
    | none => exact .unconfigured _ fun _ => requireStr_none htenant _ _
    | some tenantId =>
        cases hid : config.getStr "oauth_client_id" with
        | none =>
            exact .unconfigured _ fun _ =>
              (requireStr_some htenant _ _).trans (requireStr_none hid _ _)
        | some clientId =>
            exact .request _ _ fun _ =>
              (requireStr_some htenant _ _).trans (requireStr_some hid _ _)
  unfold refreshOf
  cases dsType
  case bigQuery => exact hbigQuery
  case snowflake => exact hsnowflake
  case databricks => exact hdatabricks
  all_goals exact hsynapse

variable (fmt : Formats) (now : ℤ)

/-- Whether a call asks for a token; `none` is a panic before it could. -/
def asksForToken (credentials : Json) (dsType : DatasourceType) : Option Bool :=
  if usesPerDatasourceOauth dsType then
    match storedRefreshToken credentials with
    | some _ => isTokenExpired fmt now credentials TOKEN_EXPIRY_BUFFER_SECS
    | none =>
        if dsType = .databricks ∧ (m2mClient credentials).isSome then
          (reusesToken fmt now credentials).map (!·)
        else some false
  else some false

/-- What a call makes of the response's body. -/
def answeredWith (credentials body : Json) : Option Json :=
  match storedRefreshToken credentials with
  | some _ => applyRefreshResponse fmt now credentials body
  | none =>
      storeM2mToken fmt now credentials ((nonEmptyStr "access_token" body).getD "")
        (expiresIn body)

end Flows

/-- What a call does in the face of a token endpoint is decided by whether it asks. -/
def CallSpec (fmt : Formats) (now : ℤ) (r : HttpResponse) (credentials : Json)
    (dsType : DatasourceType) (k : ℕ) (run : Except Error (Option Json) × ℕ) : Prop :=
  match asksForToken fmt now credentials dsType with
  | none => run = (.ok none, k)
  | some false => run = (.ok (some credentials), k)
  | some true =>
      (∃ e t, run = (.error e, t)) ∨
      ∃ body, r.body = .ok body ∧ run = (.ok (answeredWith fmt now credentials body), k + 1) ∧
        (storedRefreshToken credentials = none → (nonEmptyStr "access_token" body).isSome)

/-- An answer is written into the credentials. -/
theorem runs_refreshed_ok {σ : Type} {fmt : Formats} {now : ℤ} {credentials response : Json}
    {x : Call σ Json} {s s' : σ} (h : x.runs s = (.ok response, s')) :
    (refreshed fmt now credentials x).runs s =
      (.ok (applyRefreshResponse fmt now credentials response), s') := by
  unfold refreshed
  simp only [Call.runs] at h ⊢
  rw [h]

/-- A failure is reported as one of the refresh. -/
theorem runs_refreshed_error {σ : Type} {fmt : Formats} {now : ℤ} {credentials : Json}
    {x : Call σ Json} {e : Error} {s s' : σ} (h : x.runs s = (.error e, s')) :
    (refreshed fmt now credentials x).runs s = (.error (refreshFailure e.toString), s') := by
  unfold refreshed
  simp only [Call.runs] at h ⊢
  rw [h]

section Spec

variable {r : HttpResponse} (hstatus : r.isSuccess = true) (fmt : Formats) (now : ℤ)
  (credentials config : Json)
include hstatus

/-- The refresh flow: an error, or what the response makes of the credentials. -/
theorem refreshed_spec (dsType : DatasourceType) (refreshToken : String) (k : ℕ) :
    (∃ e t, (refreshed fmt now credentials
      (refreshOf (tokenEndpoint r) dsType refreshToken config)).runs k = (.error e, t)) ∨
    ∃ body, r.body = .ok body ∧
      (refreshed fmt now credentials
        (refreshOf (tokenEndpoint r) dsType refreshToken config)).runs k =
          (.ok (applyRefreshResponse fmt now credentials body), k + 1) := by
  cases refreshOf_shape (tokenEndpoint r) dsType config with
  | unconfigured e h =>
      left
      rw [h refreshToken]
      exact ⟨_, k, rfl⟩
  | request url params h =>
      rw [h refreshToken]
      rcases runs_postTokenRequest hstatus url (params refreshToken) k with
        ⟨e, hrun⟩ | ⟨body, hbody, hrun⟩
      · exact .inl ⟨_, _, runs_refreshed_error hrun⟩
      · exact .inr ⟨body, hbody, runs_refreshed_ok hrun⟩

/-- The M2M flow: an error, or credentials with the token of the response. -/
theorem exchanged_spec (clientId clientSecret : String) (k : ℕ) :
    (∃ e t, (exchanged (tokenEndpoint r) fmt now credentials config clientId clientSecret).runs k =
      (.error e, t)) ∨
    ∃ body token, r.body = .ok body ∧ nonEmptyStr "access_token" body = some token ∧
      (exchanged (tokenEndpoint r) fmt now credentials config clientId clientSecret).runs k =
        (.ok (storeM2mToken fmt now credentials token (expiresIn body)), k + 1) := by
  unfold exchanged
  cases hhost : config.getStr "server_hostname" with
  | none =>
      left
      rw [requireStr_none hhost]
      exact ⟨_, k, rfl⟩
  | some serverHostname =>
      rw [requireStr_some hhost]
      rcases runs_exchangeM2mToken hstatus s!"https://{serverHostname}/oidc/v1/token" clientId
        clientSecret k with ⟨e, hrun⟩ | ⟨body, token, hbody, htoken, hrun⟩
      · left
        rw [Call.runs_bind_error hrun]
        exact ⟨_, _, rfl⟩
      · right
        rw [Call.runs_bind_ok hrun]
        exact ⟨body, token, hbody, htoken, rfl⟩

/-- Without a refresh token a call returns the credentials, or it is the M2M flow. -/
theorem callSpec_without_refresh_token {dsType : DatasourceType}
    (huses : usesPerDatasourceOauth dsType = true)
    (hnone : storedRefreshToken credentials = none) (k : ℕ) :
    CallSpec fmt now r credentials dsType k
      ((ensureValidOauthCredentials (tokenEndpoint r) fmt now credentials config
        dsType).runs k) := by
  unfold ensureValidOauthCredentials CallSpec asksForToken
  rw [if_pos huses, if_pos huses, hnone]
  -- only Databricks can ask for a token without a refresh token
  by_cases hdatabricks : dsType = .databricks
  · subst hdatabricks
    simp only [if_true, true_and]
    unfold handleDatabricksM2m
    rcases hclient : m2mClient credentials with _ | ⟨clientId, clientSecret⟩
    · simp only [Option.isSome_none, Bool.false_eq_true, if_false]
      rfl
    · simp only [Option.isSome_some, if_true]
      rcases reusesToken fmt now credentials with _ | _ | _
      · rfl
      · simp only [Option.map_some, Bool.not_false]
        rcases exchanged_spec hstatus fmt now credentials config clientId clientSecret k with
          herror | ⟨body, token, hbody, htoken, hrun⟩
        · exact .inl herror
        · right
          refine ⟨body, hbody, ?_⟩
          unfold answeredWith
          rw [hnone, htoken]
          exact ⟨hrun, fun _ => rfl⟩
      · rfl
  · simp only [hdatabricks, false_and, if_false]
    rfl

/-- A call asks or it does not, as `asksForToken` says. -/
theorem callSpec (dsType : DatasourceType) (k : ℕ) :
    CallSpec fmt now r credentials dsType k
      ((ensureValidOauthCredentials (tokenEndpoint r) fmt now credentials config
        dsType).runs k) := by
  by_cases huses : usesPerDatasourceOauth dsType = true
  · cases htoken : storedRefreshToken credentials with
    | none =>
        exact callSpec_without_refresh_token hstatus fmt now credentials config huses htoken k
    | some refreshToken =>
        have hspec := refreshed_spec hstatus fmt now credentials config dsType refreshToken k
        unfold CallSpec asksForToken ensureValidOauthCredentials answeredWith
        rw [if_pos huses, if_pos huses, htoken]
        rcases isTokenExpired fmt now credentials TOKEN_EXPIRY_BUFFER_SECS with _ | _ | _
        · rfl
        · rfl
        · have hanswered := hspec.imp_right fun ⟨body, hbody, hrun⟩ =>
            Exists.intro body (And.intro hbody (And.intro hrun fun h : some refreshToken = none =>
              (nomatch h : (nonEmptyStr "access_token" body).isSome = true)))
          -- the four datasource types with a refresh of their own
          cases dsType
          case bigQuery => exact hanswered
          case snowflake => exact hanswered
          case databricks => exact hanswered
          case synapse => exact hanswered
          all_goals cases huses
  · unfold CallSpec asksForToken ensureValidOauthCredentials
    rw [if_neg huses, if_neg huses]
    rfl

/-- A call leaves the credentials and the endpoint alone exactly if it does not ask. -/
theorem runs_eq_self_iff (dsType : DatasourceType) (k : ℕ) :
    (ensureValidOauthCredentials (tokenEndpoint r) fmt now credentials config dsType).runs k =
        (.ok (some credentials), k) ↔
      asksForToken fmt now credentials dsType = some false := by
  have hspec := callSpec hstatus fmt now credentials config dsType k
  unfold CallSpec at hspec
  rcases hasks : asksForToken fmt now credentials dsType with _ | _ | _
  · rw [hasks] at hspec
    simp only at hspec
    rw [hspec]
    simp
  · rw [hasks] at hspec
    simp only at hspec
    rw [hspec]
    simp
  · rw [hasks] at hspec
    rcases hspec with ⟨e, t, hrun⟩ | ⟨body, _, hrun, _⟩
    · rw [hrun]
      simp
    · rw [hrun]
      simp

end Spec

/-! ## What a response writes -/

/-- The keys a token response may write. -/
def tokenKeys : List String :=
  ["oauth_access_token", "oauth_token_expiry", "oauth_refresh_token"]

/-- Credentials written over: what stands under the three keys, and nothing else has
changed. -/
structure Rewritten (credentials updated : Json) (token expiry refreshToken : Option Json) :
    Prop where
  token : updated.get "oauth_access_token" = token
  expiry : updated.get "oauth_token_expiry" = expiry
  refreshToken : updated.get "oauth_refresh_token" = refreshToken
  others : ∀ key, key ∉ tokenKeys → updated.get key = credentials.get key

section Written

variable {fmt : Formats} {now : ℤ}

/-- A field of the answer replaces the one in the credentials, if the answer has it. -/
theorem get_insertField (key field key' : String) (response : Json)
    (obj : List (String × Json)) :
    (Json.object (insertField key field response obj)).get key' =
      if key' = key then (response.get field).or ((Json.object obj).get key)
      else (Json.object obj).get key' := by
  unfold insertField
  by_cases hkey : key' = key
  · subst hkey
    rw [if_pos rfl]
    cases hfield : response.get field with
    | none => rfl
    | some v => exact get_insertKey_self _ v obj
  · rw [if_neg hkey]
    cases response.get field with
    | none => rfl
    | some v => exact get_insertKey_of_ne hkey v obj

/-- The expiry that stands after a token with this lifetime was stored. -/
def standingExpiry (fmt : Formats) (now : ℤ) (credentials : Json) (expires : Option Int64) :
    Option Json :=
  match expires with
  | some n => (expiryText fmt now n).map Json.string
  | none => credentials.get "oauth_token_expiry"

/-- The expiry is replaced if the answer has one; nothing else is. -/
theorem get_insertExpiry {expires : Option Int64} {obj obj' : List (String × Json)}
    (h : insertExpiry fmt now expires obj = some obj') (key : String) :
    (Json.object obj').get key =
      if key = "oauth_token_expiry" then standingExpiry fmt now (.object obj) expires
      else (Json.object obj).get key := by
  unfold insertExpiry at h
  unfold standingExpiry
  cases expires with
  | none =>
      cases h
      by_cases hkey : key = "oauth_token_expiry"
      · rw [if_pos hkey, hkey]
      · rw [if_neg hkey]
  | some n =>
      simp only [Option.map_eq_some_iff] at h
      rcases h with ⟨text, htext, rfl⟩
      simp only [htext, Option.map_some]
      by_cases hkey : key = "oauth_token_expiry"
      · rw [if_pos hkey, hkey]
        exact get_insertKey_self _ _ obj
      · rw [if_neg hkey]
        exact get_insertKey_of_ne hkey _ obj

/-- What a refresh writes: each of the three keys by itself. -/
theorem rewritten_applyRefreshResponse {obj : List (String × Json)} {body updated : Json}
    (h : applyRefreshResponse fmt now (.object obj) body = some updated) :
    Rewritten (.object obj) updated
      ((body.get "access_token").or ((Json.object obj).get "oauth_access_token"))
      (standingExpiry fmt now (.object obj) (expiresIn body))
      ((body.get "refresh_token").or ((Json.object obj).get "oauth_refresh_token")) := by
  unfold applyRefreshResponse at h
  simp only [Option.map_eq_some_iff] at h
  rcases h with ⟨obj', hexpiry, rfl⟩
  have hget := get_insertExpiry hexpiry
  -- without a lifetime in the answer the old expiry stays
  have hold : standingExpiry fmt now
      (.object (insertField "oauth_access_token" "access_token" body obj)) (expiresIn body) =
      standingExpiry fmt now (.object obj) (expiresIn body) := by
    unfold standingExpiry
    cases expiresIn body with
    | none => rw [get_insertField, if_neg (by decide)]
    | some n => rfl
  constructor
  · rw [get_insertField, if_neg (by decide), hget, if_neg (by decide), get_insertField,
      if_pos rfl]
  · rw [get_insertField, if_neg (by decide), hget, if_pos rfl, hold]
  · rw [get_insertField, if_pos rfl, hget, if_neg (by decide), get_insertField,
      if_neg (by decide)]
  · intro key hkey
    simp only [tokenKeys, List.mem_cons, List.not_mem_nil, or_false, not_or] at hkey
    rcases hkey with ⟨hne, hne', hne''⟩
    rw [get_insertField, if_neg hne'', hget, if_neg hne', get_insertField, if_neg hne]

/-- What the M2M flow writes: the token, and the expiry if there is a lifetime. -/
theorem rewritten_storeM2mToken {obj : List (String × Json)} {token : String}
    {expires : Option Int64} {updated : Json}
    (h : storeM2mToken fmt now (.object obj) token expires = some updated) :
    Rewritten (.object obj) updated (some (.string token))
      (standingExpiry fmt now (.object obj) expires)
      ((Json.object obj).get "oauth_refresh_token") := by
  unfold storeM2mToken at h
  simp only [Option.map_eq_some_iff] at h
  rcases h with ⟨obj', hexpiry, rfl⟩
  have hget := get_insertExpiry hexpiry
  -- without a lifetime in the answer the old expiry stays
  have hold : standingExpiry fmt now
      (.object (insertKey "oauth_access_token" (.string token) obj)) expires =
      standingExpiry fmt now (.object obj) expires := by
    unfold standingExpiry
    cases expires with
    | none => exact get_insertKey_of_ne (by decide) _ obj
    | some n => rfl
  constructor
  · rw [hget, if_neg (by decide), get_insertKey_self]
  · rw [hget, if_pos rfl, hold]
  · rw [hget, if_neg (by decide), get_insertKey_of_ne (by decide)]
  · intro key hkey
    simp only [tokenKeys, List.mem_cons, List.not_mem_nil, or_false, not_or] at hkey
    rcases hkey with ⟨hne, hne', _⟩
    rw [hget, if_neg hne', get_insertKey_of_ne hne]

end Written

/-! ## When the credentials stay sound -/

section Sound

variable (fmt : Formats) (now : ℤ)

/-- A JSON text that is not empty. -/
def isText (v : Option Json) : Bool := ((v.bind Json.asStr).filter (· ≠ "")).isSome

theorem nonEmptyStr_isSome (key : String) (v : Json) :
    (nonEmptyStr key v).isSome = isText (v.get key) := rfl

/-- An expiry that has not passed, with the buffer. -/
def unexpired (expiry : Option Json) : Prop :=
  isTokenExpired fmt now (.object (expiry.toList.map fun v => ("oauth_token_expiry", v)))
    TOKEN_EXPIRY_BUFFER_SECS = some false

/-- The token is not expired by the code's own reading of the credentials. -/
theorem unexpired_get_iff (credentials : Json) :
    unexpired fmt now (credentials.get "oauth_token_expiry") ↔
      isTokenExpired fmt now credentials TOKEN_EXPIRY_BUFFER_SECS = some false := by
  unfold unexpired isTokenExpired
  cases credentials.get "oauth_token_expiry" with
  | none => rfl
  | some v => rfl

/-- Credentials that give no occasion to ask: the token is good, or there is nothing
to ask with. -/
theorem asksForToken_eq_false_iff (credentials : Json) {dsType : DatasourceType}
    (huses : usesPerDatasourceOauth dsType = true) :
    asksForToken fmt now credentials dsType = some false ↔
      if isText (credentials.get "oauth_refresh_token") then
        unexpired fmt now (credentials.get "oauth_token_expiry")
      else dsType = .databricks ∧ (m2mClient credentials).isSome →
        isText (credentials.get "oauth_access_token") = true ∧
          unexpired fmt now (credentials.get "oauth_token_expiry") := by
  rw [unexpired_get_iff, ← nonEmptyStr_isSome, ← nonEmptyStr_isSome]
  unfold asksForToken storedRefreshToken
  rw [if_pos huses]
  cases nonEmptyStr "oauth_refresh_token" credentials with
  | some refreshToken => simp
  | none =>
      by_cases hclient : dsType = .databricks ∧ (m2mClient credentials).isSome
      · simp only [if_pos hclient, Option.isSome_none, Bool.false_eq_true, if_false]
        unfold reusesToken hasCachedToken
        cases (nonEmptyStr "oauth_access_token" credentials).isSome
        · simp [hclient]
        · rcases isTokenExpired fmt now credentials TOKEN_EXPIRY_BUFFER_SECS with _ | _ | _
          · simp [hclient]
          · simp
          · simp [hclient]
      · simp [hclient]

/-- The response's `expires_in` is a number above the buffer. A float is compared by
its bits with 300.0. -/
def lifetimeExceedsBuffer (body : Json) : Bool :=
  match body.get "expires_in" with
  | some (.number (.posInt n)) => 300 < n
  | some (.number (.float f)) => 0x4072C00000000000 < f.bits && f.bits < 0x7FF0000000000000
  | _ => false

/-- The credentials a call returned are sound: a new expiry comes with an access
token of the response, a token that outlives the buffer is reused at once, and
other keys are untouched. -/
structure SoundRefresh (r : HttpResponse) (credentials config : Json) (dsType : DatasourceType)
    (updated : Json) (asked : ℕ) : Prop where
  with_token : updated.get "oauth_token_expiry" ≠ credentials.get "oauth_token_expiry" →
    ∃ body token, r.body = .ok body ∧ token ≠ "" ∧ body.getStr "access_token" = some token ∧
      updated.get "oauth_access_token" = some (.string token)
  reused : ∀ body, r.body = .ok body → lifetimeExceedsBuffer body = true →
    (ensureValidOauthCredentials (tokenEndpoint r) fmt now updated config dsType).runs asked =
      (.ok (some updated), asked)
  untouched : ∀ key, key ∉ tokenKeys → updated.get key = credentials.get key

/-- The years 0 to 9999. -/
def inFourDigitYears (t : ℤ) : Bool :=
  -62167219200000000000 ≤ t && t < 253402300800000000000

/-- What chrono makes of the RFC 3339 text that it writes for an instant. It reads the text of
an instant in the years 0 to 9999 as this instant; a year with a sign is read by none of the
readers of an expiry. -/
def ReadsExpiry (fmt : Formats) (t : ℤ) : Prop :=
  let text := fmt.toRfc3339 (.ofInstant t)
  Text.trim text = text ∧ text ≠ "" ∧
    if inFourDigitYears t then fmt.parseRfc3339 text = some (.ofInstant t)
    else fmt.parseRfc3339 text = none ∧ fmt.parseDateTime "%Y-%m-%dT%H:%M:%S" text = none ∧
      fmt.parseDateTime "%Y-%m-%dT%H:%M:%S%.f" text = none ∧ parseI64 text = none ∧
      fmt.parseF64 text = none

/-- The response's lifetime is an integer, and ends by the year 9999. -/
def Lasting (body : Json) : Prop :=
  ∃ n, expiresIn body = some n ∧ inFourDigitYears (now + n.toInt * 1000000000) = true

/-- The expiry in the credentials is ahead of the present by more than 300 seconds. -/
def StoredAhead (credentials : Json) : Prop :=
  ∃ expiry limit, (credentials.get "oauth_token_expiry").bind (parseTokenExpiry fmt) = some expiry ∧
    plusSeconds expiry (-300) = some limit ∧ now < limit

/-- When a response leaves the credentials sound.

In the refresh flow: a lifetime that is read comes with an access token (or its
expiry is the one that is there already), and a lifetime above the buffer is an
integer that ends by the year 9999; where the response took the refresh token away
from M2M credentials, there is an access token too. If the refresh token is gone and
there is nothing else to ask with, nothing is needed.

In the M2M flow: a lifetime above the buffer is an integer that ends by the year 9999,
or it is not read, and the expiry that is there already is ahead. -/
def SoundWhen (credentials : Json) (dsType : DatasourceType) (body : Json) : Prop :=
  match storedRefreshToken credentials with
  | some _ =>
      (isText (body.get "access_token") = true ∨ ∀ n, expiresIn body = some n →
        (expiryText fmt now n).map Json.string = credentials.get "oauth_token_expiry") ∧
      (lifetimeExceedsBuffer body = true →
        if isText ((body.get "refresh_token").or (credentials.get "oauth_refresh_token")) then
          Lasting now body
        else dsType = .databricks ∧ (m2mClient credentials).isSome →
          isText ((body.get "access_token").or (credentials.get "oauth_access_token")) = true ∧
            Lasting now body)
  | none => lifetimeExceedsBuffer body = true →
      Lasting now body ∨ expiresIn body = none ∧ StoredAhead fmt now credentials

variable {fmt now}

/-- The client of M2M credentials is under other keys. -/
theorem Rewritten.m2mClient_eq {credentials updated : Json}
    {token expiry refreshToken : Option Json}
    (h : Rewritten credentials updated token expiry refreshToken) :
    m2mClient updated = m2mClient credentials := by
  unfold m2mClient nonEmptyStr Json.getStr
  rw [h.others "client_id" (by decide), h.others "client_secret" (by decide)]

/-- A text that is not empty. -/
theorem isText_iff {v : Option Json} :
    isText v = true ↔ ∃ token, token ≠ "" ∧ v = some (.string token) := by
  unfold isText
  constructor
  · intro h
    rcases v with _ | ⟨_ | _ | _ | token | _ | _⟩
    all_goals simp [Json.asStr] at h
    exact ⟨token, by simpa [Option.filter] using h, rfl⟩
  · rintro ⟨token, hne, rfl⟩
    simp [Json.asStr, Option.filter, hne]

variable (fmt now) in
/-- Whether a call on credentials that were written over reuses the token. -/
theorem Rewritten.runs_eq_self_iff {r : HttpResponse} (hstatus : r.isSuccess = true)
    {credentials updated : Json} {token expiry refreshToken : Option Json}
    (h : Rewritten credentials updated token expiry refreshToken) (config : Json)
    {dsType : DatasourceType} (huses : usesPerDatasourceOauth dsType = true) (k : ℕ) :
    (ensureValidOauthCredentials (tokenEndpoint r) fmt now updated config dsType).runs k =
        (.ok (some updated), k) ↔
      if isText refreshToken then unexpired fmt now expiry
      else dsType = .databricks ∧ (m2mClient credentials).isSome →
        isText token = true ∧ unexpired fmt now expiry := by
  rw [KyomiConnect.runs_eq_self_iff hstatus fmt now updated config dsType k,
    asksForToken_eq_false_iff fmt now updated huses, h.token, h.expiry, h.refreshToken,
    h.m2mClient_eq]

/-- What is sound about credentials that were written over. -/
theorem Rewritten.sound_iff {r : HttpResponse} (hstatus : r.isSuccess = true) {body : Json}
    (hbody : r.body = .ok body) {credentials updated : Json}
    {token expiry refreshToken : Option Json}
    (h : Rewritten credentials updated token expiry refreshToken)
    (htoken : isText (body.get "access_token") = true → token = body.get "access_token")
    (config : Json) {dsType : DatasourceType} (huses : usesPerDatasourceOauth dsType = true)
    (k : ℕ) :
    SoundRefresh fmt now r credentials config dsType updated k ↔
      (isText (body.get "access_token") = true ∨
        expiry = credentials.get "oauth_token_expiry") ∧
      (lifetimeExceedsBuffer body = true →
        if isText refreshToken then unexpired fmt now expiry
        else dsType = .databricks ∧ (m2mClient credentials).isSome →
          isText token = true ∧ unexpired fmt now expiry) := by
  have hreused := h.runs_eq_self_iff fmt now hstatus config huses k
  constructor
  · -- from the sound call: the token is new where the expiry is
    intro hsound
    constructor
    · by_cases hsame : expiry = credentials.get "oauth_token_expiry"
      · exact .inr hsame
      · left
        rcases hsound.with_token (by rw [h.expiry]; exact hsame) with
          ⟨body', text, hbody', hne, hget, _⟩
        rw [hbody] at hbody'
        cases hbody'
        refine isText_iff.2 ⟨text, hne, ?_⟩
        unfold Json.getStr at hget
        rcases Option.bind_eq_some_iff.1 hget with ⟨v, hv, hstr⟩
        rw [hv]
        cases v with
        | string text' =>
            cases hstr
            rfl
        | _ => cases hstr
    · intro hexceeds
      exact hreused.1 (hsound.reused body hbody hexceeds)
  · -- the text of the token and the lifetime are all that soundness needs
    rintro ⟨hnew, hlater⟩
    constructor
    · intro hne
      rw [h.expiry] at hne
      have htext := hnew.resolve_right hne
      rcases isText_iff.1 htext with ⟨text, hne', hget⟩
      refine ⟨body, text, hbody, hne', ?_, ?_⟩
      · unfold Json.getStr
        rw [hget]
        rfl
      · rw [h.token, htoken htext, hget]
    · intro body' hbody' hexceeds
      rw [hbody] at hbody'
      cases hbody'
      exact hreused.2 (hlater hexceeds)
    · exact h.others

/-! ## Lifetimes that are read -/

/-- An instant is read off its own date and time. -/
theorem instant_ofInstant (t : ℤ) : (NaiveDateTime.ofInstant t).instant = t := by
  unfold NaiveDateTime.ofInstant NaiveDateTime.instant
  have hsecs : 0 ≤ t % 86400000000000 / 1000000000 := by omega
  have hnanos : 0 ≤ t % 1000000000 := by omega
  simp only [Int.toNat_of_nonneg hsecs, Int.toNat_of_nonneg hnanos]
  omega

/-- The text of an expiry is read as the instant it was written for, or not at all. -/
theorem ReadsExpiry.parseTokenExpiry_eq {t : ℤ} (h : ReadsExpiry fmt t) :
    parseTokenExpiry fmt (.string (fmt.toRfc3339 (.ofInstant t))) =
      if inFourDigitYears t then some t else none := by
  obtain ⟨htrim, hne, hread⟩ := h
  unfold parseTokenExpiry
  simp only [htrim, hne, if_false]
  -- a year that four digits do not write is not read back
  cases hyears : inFourDigitYears t with
  | true =>
      rw [hyears, if_pos rfl] at hread
      simp only [hread, instant_ofInstant, if_true]
  | false =>
      rw [hyears, if_neg Bool.false_ne_true] at hread
      obtain ⟨hrfc, hnaive, hfraction, hint, hfloat⟩ := hread
      simp only [hrfc, hnaive, hfraction, hint, hfloat, Option.bind_none, Bool.false_eq_true,
        if_false]

/-- An integer lifetime above the buffer is the number that is read. -/
theorem lt_of_lifetimeExceedsBuffer {body : Json} {n : Int64} (hn : expiresIn body = some n)
    (h : lifetimeExceedsBuffer body = true) : 300 < n.toInt := by
  unfold lifetimeExceedsBuffer at h
  unfold expiresIn at hn
  split at h
  · rename_i k hget
    rw [hget, Option.bind_some, Json.asI64] at hn
    split at hn
    · rename_i hlt
      cases hn
      have hk : 300 < k.toNat := by
        simpa [UInt64.lt_iff_toNat_lt] using h
      rw [Int64.toInt_ofNat_of_lt (by unfold Json.i64Bound at hlt; omega)]
      omega
    · cases hn
  · -- a lifetime that is no whole number is ignored
    rename_i f hget
    rw [hget] at hn
    cases hn
  · cases h

/-- The expiry of a lifetime above the buffer is ahead if and only if it is by the year 9999. -/
theorem unexpired_standing_iff {credentials : Json} {n : Int64} (hn : 300 < n.toInt) {t : ℤ}
    (hmoved : plusSeconds now n.toInt = some t) (hread : ReadsExpiry fmt t) :
    unexpired fmt now (standingExpiry fmt now credentials (some n)) ↔
      inFourDigitYears t = true := by
  have ht : t = now + n.toInt * 1000000000 := by
    unfold plusSeconds at hmoved
    split at hmoved
    · exact (Option.some.inj hmoved).symm
    · cases hmoved
  have hstanding : standingExpiry fmt now credentials (some n) =
      some (.string (fmt.toRfc3339 (.ofInstant t))) := by
    simp only [standingExpiry, expiryText, hmoved, Option.map_some]
  rw [hstanding]
  simp only [unexpired, isTokenExpired, Option.toList_some, List.map_cons, List.map_nil, Json.get,
    List.find?_cons, BEq.rfl, Option.map_some]
  rw [hread.parseTokenExpiry_eq]
  cases hyears : inFourDigitYears t with
  | false => simp
  | true =>
      simp only [inFourDigitYears, Bool.and_eq_true, decide_eq_true_eq] at hyears
      have hlimit : plusSeconds t (-TOKEN_EXPIRY_BUFFER_SECS) =
          some (t + -TOKEN_EXPIRY_BUFFER_SECS * 1000000000) := by
        unfold plusSeconds TOKEN_EXPIRY_BUFFER_SECS
        apply if_pos
        simp only [inDateRange, Bool.and_eq_true, decide_eq_true_eq]
        omega
      have hahead : ¬ t + -TOKEN_EXPIRY_BUFFER_SECS * 1000000000 ≤ now := by
        unfold TOKEN_EXPIRY_BUFFER_SECS
        omega
      simp only [if_true, hlimit, Option.map_some, hahead, decide_false]

/-- The expiry in the credentials is ahead if and only if the code takes the token for valid. -/
theorem storedAhead_iff (credentials : Json) :
    StoredAhead fmt now credentials ↔
      isTokenExpired fmt now credentials TOKEN_EXPIRY_BUFFER_SECS = some false := by
  unfold StoredAhead isTokenExpired
  -- without an expiry, or with one that is not read, nothing is ahead
  cases credentials.get "oauth_token_expiry" with
  | none => simp
  | some v =>
      simp only [Option.bind_some]
      cases parseTokenExpiry fmt v with
      | none => simp
      | some expiry =>
          constructor
          · rintro ⟨expiry', limit, hexpiry, hlimit, hlt⟩
            cases hexpiry
            dsimp only
            rw [show plusSeconds expiry (-TOKEN_EXPIRY_BUFFER_SECS) = some limit from hlimit]
            simp [hlt]
          · intro h
            obtain ⟨limit, hlimit, hlt⟩ := Option.map_eq_some_iff.1 h
            exact ⟨expiry, limit, rfl, hlimit, by simpa using hlt⟩

/-- The expiry that stands after a lifetime above the buffer is ahead if the lifetime was read and
lasts, or if it was not read and the old expiry is ahead. -/
theorem standing_ahead_iff {credentials body : Json} (hexceeds : lifetimeExceedsBuffer body = true)
    (hmoves : ∀ n, expiresIn body = some n → ∃ t, plusSeconds now n.toInt = some t)
    (hread : ∀ n, expiresIn body = some n → ReadsExpiry fmt (now + n.toInt * 1000000000)) :
    unexpired fmt now (standingExpiry fmt now credentials (expiresIn body)) ↔
      Lasting now body ∨ expiresIn body = none ∧ StoredAhead fmt now credentials := by
  unfold Lasting
  cases hn : expiresIn body with
  | none =>
      rw [storedAhead_iff, ← unexpired_get_iff]
      simp [standingExpiry]
  | some n =>
      obtain ⟨t, hmoved⟩ := hmoves n hn
      have ht : t = now + n.toInt * 1000000000 := by
        unfold plusSeconds at hmoved
        split at hmoved
        · exact (Option.some.inj hmoved).symm
        · cases hmoved
      rw [unexpired_standing_iff (lt_of_lifetimeExceedsBuffer hn hexceeds) hmoved
        (ht ▸ hread n hn), ht]
      simp

/-- A lifetime that was stored could be added to the present. -/
theorem plusSeconds_of_insertExpiry {expires : Option Int64} {obj obj' : List (String × Json)}
    (h : insertExpiry fmt now expires obj = some obj') {n : Int64} (hn : expires = some n) :
    ∃ t, plusSeconds now n.toInt = some t := by
  subst hn
  unfold insertExpiry expiryText at h
  simp only [Option.map_eq_some_iff] at h
  obtain ⟨_, ⟨t, ht, _⟩, _⟩ := h
  exact ⟨t, ht⟩

/-- Only a datasource type with an OAuth flow of its own asks for a token. -/
theorem usesOauth_of_asks {credentials : Json} {dsType : DatasourceType}
    (hasks : asksForToken fmt now credentials dsType = some true) :
    usesPerDatasourceOauth dsType = true := by
  by_contra huses
  unfold asksForToken at hasks
  rw [if_neg huses] at hasks
  cases hasks

section Response

variable {r : HttpResponse} (hstatus : r.isSuccess = true) {obj : List (String × Json)}
  (config : Json) {dsType : DatasourceType} {updated body : Json}
  (hasks : asksForToken fmt now (.object obj) dsType = some true) (hbody : r.body = .ok body)
  (hread : ∀ n, expiresIn body = some n → ReadsExpiry fmt (now + n.toInt * 1000000000))

include hstatus hasks hbody hread

/-- In the refresh flow a response leaves the credentials sound if and only if `SoundWhen` holds
of it. -/
theorem refreshed_sound_iff {refreshToken : String}
    (hstored : storedRefreshToken (.object obj) = some refreshToken)
    (hupdated : applyRefreshResponse fmt now (.object obj) body = some updated) :
    SoundRefresh fmt now r (.object obj) config dsType updated 1 ↔
      SoundWhen fmt now (.object obj) dsType body := by
  have huses := usesOauth_of_asks hasks
  have htoken : isText (body.get "access_token") = true →
      (body.get "access_token").or ((Json.object obj).get "oauth_access_token") =
        body.get "access_token" := by
    intro htext
    rcases isText_iff.1 htext with ⟨text, _, hget⟩
    rw [hget]
    rfl
  -- the call asked because the old expiry is not ahead
  have hpast : ¬ StoredAhead fmt now (.object obj) := by
    unfold asksForToken at hasks
    rw [if_pos huses, hstored] at hasks
    rw [storedAhead_iff, show isTokenExpired fmt now (.object obj)
      TOKEN_EXPIRY_BUFFER_SECS = some true from hasks]
    simp
  -- the call returned, so the expiry could be computed
  have hmoves : ∀ n, expiresIn body = some n → ∃ t, plusSeconds now n.toInt = some t := by
    intro n hn
    have happlied := hupdated
    unfold applyRefreshResponse at happlied
    simp only [Option.map_eq_some_iff] at happlied
    obtain ⟨obj', hinsert, _⟩ := happlied
    exact plusSeconds_of_insertExpiry hinsert hn
  have hexpiry : standingExpiry fmt now (.object obj) (expiresIn body) =
      (Json.object obj).get "oauth_token_expiry" ↔ ∀ n, expiresIn body = some n →
        (expiryText fmt now n).map Json.string =
          (Json.object obj).get "oauth_token_expiry" := by
    cases expiresIn body with
    | none => simp [standingExpiry]
    | some n => simp [standingExpiry]
  -- the second call runs at the same time, so the new expiry is ahead by the lifetime
  have hlater : lifetimeExceedsBuffer body = true →
      (unexpired fmt now (standingExpiry fmt now (.object obj) (expiresIn body)) ↔
        Lasting now body) := by
    intro hexceeds
    rw [standing_ahead_iff hexceeds hmoves hread]
    simp [hpast]
  unfold SoundWhen
  rw [(rewritten_applyRefreshResponse hupdated).sound_iff hstatus hbody htoken config huses 1,
    hexpiry, hstored]
  refine and_congr_right fun _ => ?_
  refine forall_congr' fun hexceeds => ?_
  rw [hlater hexceeds]

/-- In the M2M flow too, where the response has a token that is a text. -/
theorem exchanged_sound_iff (hstored : storedRefreshToken (.object obj) = none)
    (hfound : isText (body.get "access_token") = true)
    (hupdated : storeM2mToken fmt now (.object obj) ((nonEmptyStr "access_token" body).getD "")
      (expiresIn body) = some updated) :
    SoundRefresh fmt now r (.object obj) config dsType updated 1 ↔
      SoundWhen fmt now (.object obj) dsType body := by
  have huses := usesOauth_of_asks hasks
  rcases isText_iff.1 hfound with ⟨token, hne, hget⟩
  have htoken : (nonEmptyStr "access_token" body).getD "" = token := by
    simp [nonEmptyStr, Json.getStr, hget, Json.asStr, Option.filter, hne]
  rw [htoken] at hupdated
  have hnone : isText ((Json.object obj).get "oauth_refresh_token") = false := by
    rw [← nonEmptyStr_isSome]
    exact congrArg Option.isSome hstored
  -- without a refresh token the call asks with the client of the credentials
  have hclient : dsType = .databricks ∧ (m2mClient (.object obj)).isSome = true := by
    by_contra hclient
    unfold asksForToken at hasks
    rw [if_pos huses, hstored] at hasks
    simp only [if_neg hclient] at hasks
    cases hasks
  have hwritten : isText (some (.string token)) = true := isText_iff.2 ⟨token, hne, rfl⟩
  have hmoves : ∀ n, expiresIn body = some n → ∃ t, plusSeconds now n.toInt = some t := by
    intro n hn
    have hwrote := hupdated
    unfold storeM2mToken at hwrote
    simp only [Option.map_eq_some_iff] at hwrote
    obtain ⟨obj', hinsert, _⟩ := hwrote
    exact plusSeconds_of_insertExpiry hinsert hn
  unfold SoundWhen
  rw [(rewritten_storeM2mToken hupdated).sound_iff hstatus hbody (fun _ => hget.symm) config
    huses 1, hstored]
  simp only [hfound, hnone, hclient, hwritten, true_or, true_and, Bool.false_eq_true,
    if_false, and_self, forall_const]
  refine forall_congr' fun hexceeds => ?_
  exact standing_ahead_iff hexceeds hmoves hread

end Response

/-- A token response leaves the credentials of an object sound if and only if the
call did not ask for it, or `SoundWhen` holds of it. -/
theorem refresh_sound_iff {r : HttpResponse} (hstatus : r.isSuccess = true)
    (obj : List (String × Json)) (config : Json) (dsType : DatasourceType) {updated : Json}
    {asked : ℕ}
    (hrun : (ensureValidOauthCredentials (tokenEndpoint r) fmt now (.object obj) config dsType).runs
      0 = (.ok (some updated), asked))
    (hread : ∀ body n, r.body = .ok body → expiresIn body = some n →
      ReadsExpiry fmt (now + n.toInt * 1000000000)) :
    SoundRefresh fmt now r (.object obj) config dsType updated asked ↔
      (asksForToken fmt now (.object obj) dsType = some true →
        ∀ body, r.body = .ok body → SoundWhen fmt now (.object obj) dsType body) := by
  have hspec := callSpec hstatus fmt now (.object obj) config dsType 0
  rw [hrun] at hspec
  unfold CallSpec at hspec
  rcases hasks : asksForToken fmt now (.object obj) dsType with _ | _ | _
  · rw [hasks] at hspec
    cases hspec
  · -- no token was asked for, and a second call is the first one
    rw [hasks] at hspec
    cases hspec
    refine iff_of_true ?_ nofun
    constructor
    · intro hne
      exact absurd rfl hne
    · intro body _ _
      exact (runs_eq_self_iff hstatus fmt now (.object obj) config dsType 0).2 hasks
    · intro key _
      rfl
  · rw [hasks] at hspec
    rcases hspec with ⟨e, t, hrun'⟩ | ⟨body, hbody, hrun', hm2m⟩
    · cases hrun'
    · simp only [Prod.mk.injEq, Except.ok.injEq] at hrun'
      rcases hrun' with ⟨hupdated, rfl⟩
      have hbodies : (some true = some true → ∀ body', r.body = .ok body' →
          SoundWhen fmt now (.object obj) dsType body') ↔
          SoundWhen fmt now (.object obj) dsType body := by
        simp [hbody]
      refine Iff.trans ?_ hbodies.symm
      unfold answeredWith at hupdated
      have hreads := fun n => hread body n hbody
      cases hstored : storedRefreshToken (.object obj) with
      | some refreshToken =>
          rw [hstored] at hupdated
          exact refreshed_sound_iff hstatus config hasks hbody hreads hstored hupdated.symm
      | none =>
          rw [hstored] at hupdated
          exact exchanged_sound_iff hstatus config hasks hbody hreads hstored (hm2m hstored)
            hupdated.symm

end Sound

/-! ## Two responses -/

/-- The text of 2025-06-16T13:00:00Z, and its reader. -/
def thirteenHours : Formats :=
  { Formats.blank with
    toRfc3339 := fun dt =>
      if dt = .ofInstant 1750078800000000000 then "2025-06-16T13:00:00+00:00" else ""
    parseRfc3339 := fun s =>
      if s = "2025-06-16T13:00:00+00:00" then some (.ofInstant 1750078800000000000) else none }

/-- 2025-06-16T12:00:00Z -/
def twelveHours : ℤ := 1750075200000000000

def storedGrant : List (String × Json) := [("oauth_refresh_token", .string "grant")]

def oauthClient : Json :=
  .object [("oauth_client_id", .string "id"), ("oauth_client_secret", .string "secret")]

/-- A token that lives an hour. -/
def hourToken : HttpResponse :=
  .ofJson 200 (.object [("access_token", .string "token"), ("expires_in", .ofU32 3600)])

/-- The same response without its token. -/
def missingToken : HttpResponse := .ofJson 200 (.object [("expires_in", .ofU32 3600)])

/-- A token of an hour is refreshed once. -/
theorem refresh_sound_hour_token :
    ∃ updated, (ensureValidOauthCredentials (tokenEndpoint hourToken) thirteenHours twelveHours
        (.object storedGrant) oauthClient .bigQuery).runs 0 = (.ok (some updated), 1) ∧
      SoundRefresh thirteenHours twelveHours hourToken (.object storedGrant) oauthClient .bigQuery
        updated 1 := by
  refine ⟨_, rfl, (refresh_sound_iff rfl storedGrant oauthClient .bigQuery rfl ?_).2 ?_⟩
  · intro body n hbody hn
    cases hbody
    cases hn
    exact ⟨by decide, by decide, by decide⟩
  · intro _ body hbody
    cases hbody
    exact ⟨.inl (by decide), fun _ => ⟨3600, rfl, by decide⟩⟩

/-- A response without a token: the expiry is recorded, and no token. -/
theorem missing_token_not_sound :
    ∃ updated, (ensureValidOauthCredentials (tokenEndpoint missingToken) thirteenHours twelveHours
        (.object storedGrant) oauthClient .bigQuery).runs 0 = (.ok (some updated), 1) ∧
      ¬ SoundRefresh thirteenHours twelveHours missingToken (.object storedGrant) oauthClient
        .bigQuery updated 1 := by
  refine ⟨_, rfl, fun h => ?_⟩
  rcases h.with_token nofun with ⟨body, token, hbody, _, hget, _⟩
  cases hbody
  cases hget

end KyomiConnect
