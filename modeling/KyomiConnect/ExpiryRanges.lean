import KyomiConnect.OAuthRefresh

/-! # The range of expiries

An expiry is moved three times: back by the buffer when it is checked, and, for a new token,
from the present by its lifetime, once in each of the two flows. The parser admits what
chrono's dates can hold; the three moves panic beyond that.
-/

namespace KyomiConnect

/-- An instant that some seconds can be added to: neither the duration nor the date that comes
out is beyond chrono's range. -/
def Moves (t n : ℤ) : Prop := n.natAbs ≤ 9223372036854775 ∧ inDateRange (t + n * 1000000000) = true

theorem plusSeconds_isSome_iff (t n : ℤ) : (plusSeconds t n).isSome = true ↔ Moves t n := by
  unfold plusSeconds Moves
  split
  · rename_i h
    rw [Bool.and_eq_true, decide_eq_true_eq] at h
    exact iff_of_true rfl h
  · rename_i h
    rw [Bool.and_eq_true, decide_eq_true_eq] at h
    exact iff_of_false Bool.false_ne_true h

/-- From an instant that chrono can hold, only the date that comes out matters. -/
theorem moves_iff_of_inDateRange {t : ℤ} (ht : inDateRange t = true) (n : ℤ) :
    Moves t n ↔ inDateRange (t + n * 1000000000) = true := by
  unfold Moves
  refine and_iff_right_of_imp ?_
  intro hdate
  unfold inDateRange at ht hdate
  rw [Bool.and_eq_true, decide_eq_true_eq, decide_eq_true_eq] at ht hdate
  omega

section Expiry

variable (fmt : Formats) (now : ℤ)

/-- What the expiry in the credentials is read as, if it is. -/
def storedExpiry (credentials : Json) : Option ℤ :=
  (credentials.get "oauth_token_expiry").bind (parseTokenExpiry fmt)

theorem isTokenExpired_eq (credentials : Json) (bufferSecs : ℤ) :
    isTokenExpired fmt now credentials bufferSecs =
      match storedExpiry fmt credentials with
      | none => some true
      | some expiry => (plusSeconds expiry (-bufferSecs)).map fun limit =>
          decide (limit ≤ now) := by
  unfold isTokenExpired storedExpiry
  cases credentials.get "oauth_token_expiry" with
  | none => rfl
  | some v => rfl

/-- The check completes unless the expiry is closer to the first instant than the buffer. -/
theorem isTokenExpired_isSome_iff (credentials : Json) (bufferSecs : ℤ) :
    (isTokenExpired fmt now credentials bufferSecs).isSome = true ↔
      ∀ expiry, storedExpiry fmt credentials = some expiry → Moves expiry (-bufferSecs) := by
  rw [isTokenExpired_eq]
  cases storedExpiry fmt credentials with
  | none =>
      refine iff_of_true rfl ?_
      intro expiry h
      cases h
  | some expiry =>
      rw [Option.isSome_map, plusSeconds_isSome_iff]
      constructor
      · intro hmoves expiry' h
        rw [← Option.some_inj.1 h]
        exact hmoves
      · intro h
        exact h expiry rfl

/-- A lifetime is stored if the present can be moved by it. -/
theorem insertExpiry_isSome_iff (expires : Option Int64) (obj : List (String × Json)) :
    (insertExpiry fmt now expires obj).isSome = true ↔
      ∀ n, expires = some n → Moves now n.toInt := by
  cases expires with
  | none =>
      refine iff_of_true rfl ?_
      intro n h
      cases h
  | some n =>
      unfold insertExpiry expiryText
      rw [Option.isSome_map, Option.isSome_map, plusSeconds_isSome_iff]
      constructor
      · intro hmoves n' h
        rw [← Option.some_inj.1 h]
        exact hmoves
      · intro h
        exact h n rfl

/-- Both flows complete if they have nothing to store, or the present can be moved by the
lifetime. -/
theorem applyRefreshResponse_isSome_iff (credentials tokenResponse : Json) :
    (applyRefreshResponse fmt now credentials tokenResponse).isSome = true ↔
      ∀ obj n, credentials = .object obj → expiresIn tokenResponse = some n →
        Moves now n.toInt := by
  unfold applyRefreshResponse
  cases credentials with
  | object obj =>
      dsimp only
      rw [Option.isSome_map, insertExpiry_isSome_iff]
      constructor
      · intro hmoves _ n _ hn
        exact hmoves n hn
      · intro h n hn
        exact h obj n rfl hn
  | _ =>
      refine iff_of_true rfl ?_
      intro obj n h
      cases h

theorem storeM2mToken_isSome_iff (credentials : Json) (accessToken : String)
    (expires : Option Int64) :
    (storeM2mToken fmt now credentials accessToken expires).isSome = true ↔
      ∀ obj n, credentials = .object obj → expires = some n → Moves now n.toInt := by
  unfold storeM2mToken
  cases credentials with
  | object obj =>
      dsimp only
      rw [Option.isSome_map, insertExpiry_isSome_iff]
      constructor
      · intro hmoves _ n _ hn
        exact hmoves n hn
      · intro h n hn
        exact h obj n rfl hn
  | _ =>
      refine iff_of_true rfl ?_
      intro obj n h
      cases h

/-- The seconds that an expiry is read as, if it is a timestamp: a number, or a text of one
that is no date. -/
def timestamp : Json → Option Int64
  | .string s =>
      let s := Text.trim s
      if s = "" ∨ (fmt.parseRfc3339 s).isSome ∨
          (fmt.parseDateTime "%Y-%m-%dT%H:%M:%S" s).isSome ∨
          (fmt.parseDateTime "%Y-%m-%dT%H:%M:%S%.f" s).isSome then none
      else
        match parseI64 s with
        | some ts => some ts
        | none => (fmt.parseF64 s).map (·.toI64)
  | .number n =>
      match (Json.number n).asI64 with
      | some ts => some ts
      | none => ((Json.number n).asF64 fmt).map (·.toI64)
  | _ => none

theorem parseTokenExpiry_timestamp {v : Json} {ts : Int64} (h : timestamp fmt v = some ts) :
    parseTokenExpiry fmt v = fromTimestamp ts := by
  cases v with
  | string s =>
      unfold timestamp at h
      unfold parseTokenExpiry
      dsimp only at h ⊢
      split at h
      · cases h
      · rename_i hno
        simp only [not_or, Option.isSome_iff_ne_none, ne_eq, not_not] at hno
        obtain ⟨hempty, hrfc, hnaive, hfraction⟩ := hno
        rw [if_neg hempty, hrfc, hnaive, hfraction]
        dsimp only
        cases hparse : parseI64 (Text.trim s) with
        | some ts' =>
            rw [hparse] at h
            rw [← Option.some_inj.1 h]
        | none =>
            rw [hparse] at h
            obtain ⟨f, hf, rfl⟩ := Option.map_eq_some_iff.1 h
            rw [hf]
            rfl
  | number n =>
      unfold timestamp at h
      unfold parseTokenExpiry
      dsimp only at h ⊢
      cases hparse : (Json.number n).asI64 with
      | some ts' =>
          rw [hparse] at h
          rw [← Option.some_inj.1 h]
      | none =>
          rw [hparse] at h
          obtain ⟨f, hf, rfl⟩ := Option.map_eq_some_iff.1 h
          rw [hf]
          rfl
  | _ => cases h

/-- A timestamp beyond chrono's range counts as expired. -/
theorem expired_of_out_of_range {credentials v : Json} {ts : Int64}
    (hv : credentials.get "oauth_token_expiry" = some v) (hts : timestamp fmt v = some ts)
    (hrange : inDateRange (ts.toInt * 1000000000) = false) (bufferSecs : ℤ) :
    isTokenExpired fmt now credentials bufferSecs = some true := by
  have hnone : storedExpiry fmt credentials = none := by
    unfold storedExpiry
    rw [hv, Option.bind_some, parseTokenExpiry_timestamp fmt hts, fromTimestamp, hrange]
    rfl
  rw [isTokenExpired_eq, hnone]

/-- The check completes if and only if the expiry can be moved back by the buffer, and the two
flows if and only if there is no lifetime to store or the present can be moved by it. A
timestamp out of range counts as expired. -/
theorem expiry_arithmetic_iff (credentials tokenResponse : Json) (accessToken : String)
    (expires : Option Int64) :
    ((isTokenExpired fmt now credentials TOKEN_EXPIRY_BUFFER_SECS).isSome = true ↔
        ∀ expiry, storedExpiry fmt credentials = some expiry →
          Moves expiry (-TOKEN_EXPIRY_BUFFER_SECS)) ∧
      ((applyRefreshResponse fmt now credentials tokenResponse).isSome = true ↔
        ∀ obj n, credentials = .object obj → expiresIn tokenResponse = some n →
          Moves now n.toInt) ∧
      ((storeM2mToken fmt now credentials accessToken expires).isSome = true ↔
        ∀ obj n, credentials = .object obj → expires = some n → Moves now n.toInt) ∧
      ∀ v ts, credentials.get "oauth_token_expiry" = some v → timestamp fmt v = some ts →
        inDateRange (ts.toInt * 1000000000) = false →
          isTokenExpired fmt now credentials TOKEN_EXPIRY_BUFFER_SECS = some true :=
  ⟨isTokenExpired_isSome_iff fmt now credentials _,
    applyRefreshResponse_isSome_iff fmt now credentials tokenResponse,
    storeM2mToken_isSome_iff fmt now credentials accessToken expires,
    fun _ _ hv hts hrange => expired_of_out_of_range fmt now hv hts hrange _⟩

end Expiry

-- the first instant of chrono's dates, as an expiry
example :
    isTokenExpired .blank 0 (.object [("oauth_token_expiry", .number (.negInt (-8334601228800)))])
      TOKEN_EXPIRY_BUFFER_SECS = none := by
  decide

/-- A lifetime that chrono has no duration for. -/
theorem expiry_arithmetic_panics :
    ¬ ((∀ fmt now credentials tokenResponse,
          (applyRefreshResponse fmt now credentials tokenResponse).isSome = true) ∧
        ∀ fmt now credentials,
          (isTokenExpired fmt now credentials TOKEN_EXPIRY_BUFFER_SECS).isSome = true) := by
  rintro ⟨happly, -⟩
  have hlifetime := happly .blank 0 (.object [])
    (.object [("expires_in", .number (.posInt 9223372036854775807))])
  revert hlifetime
  decide

end KyomiConnect
