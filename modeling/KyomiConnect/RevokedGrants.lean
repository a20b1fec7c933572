import KyomiConnect.RefreshSoundness

/-! # What a caller is given when a refresh fails

When the token endpoint refuses a refresh token for good, the refresh token is removed from
a copy of the credentials, and the copy is dropped: the call returns an error, and an error
carries no credentials. A caller that stores what it is given stores nothing then, and its
next call tries the same refresh token again (`again_after_failure`).
-/

namespace KyomiConnect

/-! ## The caller -/

/-- The credentials that an outcome gives the caller. -/
def givenCredentials : Except Error (Option Json) → Option Json
  | .ok credentials => credentials
  | .error _ => none

/-- What is stored by a caller that persists what it is given. -/
def persisted (stored : Json) (outcome : Except Error (Option Json)) : Json :=
  (givenCredentials outcome).getD stored

/-- The credentials without their refresh token, and otherwise as they are. -/
def withoutRefreshToken : Json → Json
  | .object entries => .object (entries.filter (·.1 ≠ "oauth_refresh_token"))
  | v => v

variable {σ : Type} (net : Net σ) (fmt : Formats)

/-- The refresh token that a call tries to refresh with. -/
def tokenTried (now : ℤ) (credentials : Json) (dsType : DatasourceType) : Option String :=
  if usesPerDatasourceOauth dsType && isTokenExpired fmt now credentials TOKEN_EXPIRY_BUFFER_SECS ==
      some true then
    storedRefreshToken credentials
  else none

/-- The refresh tokens tried in a series of calls, at these instants, by a caller that
persists what it is given. -/
def tokensTried (config : Json) (dsType : DatasourceType) : List ℤ → Json → σ → List String
  | [], _, _ => []
  | now :: later, stored, s =>
      let (outcome, s') := (ensureValidOauthCredentials net fmt now stored config dsType).runs s
      (tokenTried fmt now stored dsType).toList ++
        tokensTried config dsType later (persisted stored outcome) s'

/-- A call tries the stored refresh token, and the refresh fails with an error. -/
structure RefreshFails (now : ℤ) (credentials config : Json) (dsType : DatasourceType)
    (token : String) (e : Error) (s s' : σ) : Prop where
  perDatasource : usesPerDatasourceOauth dsType = true
  stored : storedRefreshToken credentials = some token
  expired : isTokenExpired fmt now credentials TOKEN_EXPIRY_BUFFER_SECS = some true
  failed : (refreshOf net dsType token config).runs s = (.error e, s')

/-- The refresh fails because the grant is refused for good. -/
def GrantRefused (now : ℤ) (credentials config : Json) (dsType : DatasourceType)
    (token : String) (s s' : σ) : Prop :=
  ∃ e, RefreshFails net fmt now credentials config dsType token e s s' ∧
    isIrrecoverableGrantError e.toString = true

/-- What a call that fails should come to: after a grant that is refused for good the caller
is given the credentials without it, and never tries it again; after any other failure the
credentials stay. -/
structure FailureHandled (now : ℤ) (credentials config : Json) (dsType : DatasourceType)
    (s : σ) (outcome : Except Error (Option Json)) (s' : σ) : Prop where
  cleared : ∀ token, GrantRefused net fmt now credentials config dsType token s s' →
    givenCredentials outcome = some (withoutRefreshToken credentials)
  silent : ∀ token, GrantRefused net fmt now credentials config dsType token s s' →
    ∀ later, token ∉ tokensTried net fmt config dsType later (persisted credentials outcome) s'
  kept : (¬ ∃ token, GrantRefused net fmt now credentials config dsType token s s') →
    persisted credentials outcome = credentials

/-! ## Failures -/

section Failure

variable {net fmt} {now : ℤ} {credentials config : Json} {dsType : DatasourceType}
  {token : String} {e : Error} {s s' : σ}

theorem RefreshFails.tokenTried_eq
    (h : RefreshFails net fmt now credentials config dsType token e s s') :
    tokenTried fmt now credentials dsType = some token := by
  unfold tokenTried
  rw [h.perDatasource, h.expired, h.stored]
  rfl

/-- The caller is given nothing with an error, and keeps what it has. -/
theorem persisted_error (stored : Json) (e : Error) : persisted stored (.error e) = stored := rfl

/-- The call is an error, whichever kind of failure it is. -/
theorem RefreshFails.outcome
    (h : RefreshFails net fmt now credentials config dsType token e s s') :
    (ensureValidOauthCredentials net fmt now credentials config dsType).runs s =
      (.error (refreshFailure e.toString), s') := by
  have hcall : ensureValidOauthCredentials net fmt now credentials config dsType =
      refreshed fmt now credentials (refreshOf net dsType token config) := by
    have hper := h.perDatasource
    unfold ensureValidOauthCredentials
    rw [if_pos hper, h.stored]
    simp only [h.expired]
    cases dsType <;> first | rfl | cases hper
  rw [hcall]
  exact runs_refreshed_error h.failed

/-- As long as every refresh fails, each call of a series tries the same refresh token. -/
theorem tokensTried_while_failing (hper : usesPerDatasourceOauth dsType = true)
    (hstored : storedRefreshToken credentials = some token)
    (hfails : ∀ s, ∃ e s', (refreshOf net dsType token config).runs s = (.error e, s')) :
    ∀ (times : List ℤ) (s : σ),
      (∀ now ∈ times, isTokenExpired fmt now credentials TOKEN_EXPIRY_BUFFER_SECS = some true) →
      tokensTried net fmt config dsType times credentials s =
        List.replicate times.length token := by
  intro times
  -- call by call: the credentials are the same each time
  induction times with
  | nil =>
      intro s _
      rfl
  | cons now later ih =>
      intro s hexpired
      obtain ⟨e, s', hfailed⟩ := hfails s
      have hrefresh : RefreshFails net fmt now credentials config dsType token e s s' :=
        ⟨hper, hstored, hexpired now List.mem_cons_self, hfailed⟩
      have hlater := ih s' fun t ht => hexpired t (List.mem_cons_of_mem now ht)
      simp only [tokensTried, hrefresh.outcome, hrefresh.tokenTried_eq, persisted_error, hlater,
        Option.toList_some, List.singleton_append, List.length_cons, List.replicate_succ]

/-- A caller that calls again at the same instant tries the same refresh token again. -/
theorem RefreshFails.again_after_failure
    (h : RefreshFails net fmt now credentials config dsType token e s s') (failure : Error)
    (t : σ) :
    tokensTried net fmt config dsType [now] (persisted credentials (.error failure)) t =
      [token] := by
  rw [persisted_error]
  simp only [tokensTried, h.tokenTried_eq]
  rfl

/-- A call that fails is handled as it should be if and only if no grant was refused for
good. -/
theorem failure_handled_iff {failure : Error}
    (hfails : (ensureValidOauthCredentials net fmt now credentials config dsType).runs s =
      (.error failure, s')) :
    FailureHandled net fmt now credentials config dsType s
        ((ensureValidOauthCredentials net fmt now credentials config dsType).runs s).1 s' ↔
      ∀ token e, RefreshFails net fmt now credentials config dsType token e s s' →
        isIrrecoverableGrantError e.toString = false := by
  rw [hfails]
  constructor
  · intro hhandled token e hrefresh
    by_contra hirrecoverable
    rw [Bool.not_eq_false] at hirrecoverable
    have hsilent := hhandled.silent token ⟨e, hrefresh, hirrecoverable⟩ [now]
    apply hsilent
    rw [hrefresh.again_after_failure]
    exact List.mem_singleton_self token
  · intro hrecoverable
    have hnot : ¬ ∃ token, GrantRefused net fmt now credentials config dsType token s s' := by
      rintro ⟨token, e, hrefresh, hirrecoverable⟩
      rw [hrecoverable token e hrefresh] at hirrecoverable
      cases hirrecoverable
    constructor
    · intro token hrefused
      exact absurd ⟨token, hrefused⟩ hnot
    · intro token hrefused
      exact absurd ⟨token, hrefused⟩ hnot
    · intro _
      exact persisted_error credentials failure

end Failure

/-! ## Two refusals -/

/-- The token endpoint cannot answer now. -/
def unavailable : HttpResponse :=
  .ofJson 503 (.object [("error", .string "temporarily_unavailable")])

/-- The token endpoint refuses the grant. -/
def refusedGrant : HttpResponse := .ofJson 400 (.object [("error", .string "invalid_grant")])

theorem failure_handled_unavailable :
    ∃ failure, (ensureValidOauthCredentials (tokenEndpoint unavailable) thirteenHours twelveHours
        (.object storedGrant) oauthClient .bigQuery).runs 0 = (.error failure, 1) ∧
      FailureHandled (tokenEndpoint unavailable) thirteenHours twelveHours (.object storedGrant)
        oauthClient .bigQuery 0
        ((ensureValidOauthCredentials (tokenEndpoint unavailable) thirteenHours twelveHours
          (.object storedGrant) oauthClient .bigQuery).runs 0).1 1 := by
  refine ⟨_, rfl, (failure_handled_iff rfl).2 ?_⟩
  intro token e hrefresh
  cases hrefresh.stored
  cases hrefresh.failed
  decide

/-- The caller of a refused grant is given an error, and would try the grant again. -/
theorem refused_grant_not_cleared :
    ¬ ∀ (credentials config : Json) (r : HttpResponse) (failure : Error) (s s' : ℕ),
      (ensureValidOauthCredentials (tokenEndpoint r) thirteenHours twelveHours credentials config
        .bigQuery).runs s = (.error failure, s') →
      FailureHandled (tokenEndpoint r) thirteenHours twelveHours credentials config .bigQuery s
        ((ensureValidOauthCredentials (tokenEndpoint r) thirteenHours twelveHours credentials
          config .bigQuery).runs s).1 s' := by
  intro h
  have hhandled := h (.object storedGrant) oauthClient refusedGrant _ 0 1 rfl
  have hcleared := hhandled.cleared "grant" ⟨_, ⟨rfl, rfl, rfl, rfl⟩, by decide⟩
  cases hcleared

end KyomiConnect
