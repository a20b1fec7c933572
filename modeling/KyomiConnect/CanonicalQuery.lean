import KyomiConnect.Lib.Percent
import Mathlib.Data.List.Sort
import Mathlib.Data.Prod.Lex
import Mathlib.Data.List.Lex

/-! # The canonical query of a signed request

AWS Signature V4 signs a text of the query's parameters: keys and values are
percent-encoded, the encoded pairs are sorted, and joined by `=` and `&`. The text does not
depend on the order of the parameters, and says what they are.
-/

namespace KyomiConnect.AwsSigv4

/-! ## The code -/

/-- `str::bytes` -/
def bytes (s : String) : List UInt8 := s.toByteArray.data.toList

/-- The bytes that are kept: letters, digits, `-`, `.`, `_` and `~`. -/
def isUnreserved (byte : UInt8) : Bool :=
  let c := Char.ofNat byte.toNat
  ('A' ≤ c && c ≤ 'Z') || ('a' ≤ c && c ≤ 'z') || ('0' ≤ c && c ≤ '9') ||
    c == '-' || c == '.' || c == '_' || c == '~'

/-- `aws_url_encode` -/
def awsUrlEncode (input : String) : String := .ofList (Percent.encode isUnreserved (bytes input))

example : awsUrlEncode "a/é" = "a%2F%C3%A9" := by decide

/-- How strings, and pairs of them, compare: byte by byte. -/
def byteOrder (pair : String × String) : List ℕ ×ₗ List ℕ :=
  toLex ((bytes pair.1).map UInt8.toNat, (bytes pair.2).map UInt8.toNat)

/-- The encoded pairs in their order. -/
def sortedParams (params : List (String × String)) : List (String × String) :=
  (params.map fun (k, v) => (awsUrlEncode k, awsUrlEncode v)).mergeSort
    fun p q => byteOrder p ≤ byteOrder q

def pairText (pair : String × String) : String := s!"{pair.1}={pair.2}"

/-- `build_canonical_query_string` -/
def buildCanonicalQueryString (params : List (String × String)) : String :=
  "&".intercalate ((sortedParams params).map pairText)

/-! ## Reading a query -/

/-- A key and its value, with one `=` between them. -/
def readPair (piece : List Char) : Option (String × String) :=
  match piece.splitOn '=' with
  | [k, v] => some (.ofList k, .ofList v)
  | _ => none

/-- The encoded pairs of a query: its pieces between the `&`, if there is any. -/
def queryPairs (query : String) : Option (List (String × String)) :=
  ((query.toList.splitOn '&').filter (· ≠ [])).mapM readPair

/-- Percent-decode a text to a string. -/
def percentDecode (s : String) : Option String :=
  (Percent.decode s.toList).bind fun bs => String.fromUTF8? ⟨bs.toArray⟩

/-- Decode a key and its value. -/
def decodePair (pair : String × String) : Option (String × String) := do
  return (← percentDecode pair.1, ← percentDecode pair.2)

/-- The parameters of a query. -/
def queryParams (query : String) : Option (List (String × String)) := do
  let pairs ← queryPairs query
  pairs.mapM decodePair

/-- Characters that stand for themselves in a query. -/
def isQueryChar (c : Char) : Bool :=
  (c.toNat < 128 && isUnreserved (UInt8.ofNat c.toNat)) || c == '=' || c == '&'

/-! ## Encoded texts -/

theorem keeps_unreserved : Percent.Keeps isUnreserved := by
  have hall : ∀ n : Fin 256, isUnreserved (UInt8.ofNat n) = true → n.1 < 128 ∧ n.1 ≠ 37 := by
    decide +kernel
  intro b hb
  have hbyte := hall ⟨b.toNat, b.toNat_lt⟩
  rw [UInt8.ofNat_toNat] at hbyte
  exact hbyte hb

theorem toList_awsUrlEncode (s : String) :
    (awsUrlEncode s).toList = Percent.encode isUnreserved (bytes s) := String.toList_ofList

/-- No separator is left in an encoded text. -/
theorem not_mem_awsUrlEncode (s : String) {c : Char} (hc : c = '=' ∨ c = '&') :
    c ∉ (awsUrlEncode s).toList := by
  have hkept : ∀ n : Fin 256, isUnreserved (UInt8.ofNat n) = true →
      Char.ofNat n ≠ '=' ∧ Char.ofNat n ≠ '&' := by decide +kernel
  rw [toList_awsUrlEncode]
  intro hmem
  rcases Percent.mem_encode hmem with hpercent | hdigit | ⟨b, hb, heq⟩
  · rcases hc with rfl | rfl
    · cases hpercent
    · cases hpercent
  · rcases hc with rfl | rfl
    · exact absurd hdigit (by decide)
    · exact absurd hdigit (by decide)
  · have hbyte := hkept ⟨b.toNat, b.toNat_lt⟩
    rw [UInt8.ofNat_toNat] at hbyte
    rcases hc with rfl | rfl
    · exact (hbyte hb).1 heq.symm
    · exact (hbyte hb).2 heq.symm

/-- An encoded text is decoded. -/
theorem percentDecode_awsUrlEncode (s : String) : percentDecode (awsUrlEncode s) = some s := by
  have harray : (⟨(bytes s).toArray⟩ : ByteArray) = s.toByteArray := by
    rw [bytes, Array.toArray_toList]
  rw [percentDecode, toList_awsUrlEncode, Percent.decode_encode keeps_unreserved, Option.bind_some,
    harray, String.fromUTF8?, dif_pos s.isValidUTF8]
  rfl

/-! ## Pairs -/

/-- Both texts of a pair are free of separators. -/
def Separable (pair : String × String) : Prop :=
  ∀ c, c = '=' ∨ c = '&' → c ∉ pair.1.toList ∧ c ∉ pair.2.toList

theorem toList_pairText (pair : String × String) :
    (pairText pair).toList = pair.1.toList ++ '=' :: pair.2.toList := by
  change (pair.1 ++ "=" ++ pair.2).toList = _
  rw [String.toList_append, String.toList_append, List.append_assoc]
  rfl

theorem readPair_pairText {pair : String × String} (h : Separable pair) :
    readPair (pairText pair).toList = some pair := by
  have hsplit : (pairText pair).toList.splitOn '=' = [pair.1.toList, pair.2.toList] := by
    rw [toList_pairText, List.splitOn_append_cons_self_of_not_mem (h '=' (.inl rfl)).1,
      List.splitOn_eq_singleton (h '=' (.inl rfl)).2]
  simp only [readPair, hsplit, String.ofList_toList]

/-- Reading a list of texts that each says what it is. -/
theorem mapM_map_eq_some {α β : Type} {f : α → β} {g : β → Option α} {xs : List α}
    (h : ∀ x ∈ xs, g (f x) = some x) : (xs.map f).mapM g = some xs := by
  induction xs with
  | nil => rfl
  | cons x xs ih =>
      rw [List.map_cons, List.mapM_cons, h x (by simp), ih fun y hy => h y (by simp [hy])]
      rfl

/-- The pairs of a query are those it was joined of. -/
theorem queryPairs_intercalate {pairs : List (String × String)}
    (h : ∀ pair ∈ pairs, Separable pair) :
    queryPairs ("&".intercalate (pairs.map pairText)) = some pairs := by
  have htexts : (pairs.map pairText).map String.toList =
      pairs.map fun pair => (pairText pair).toList := List.map_map
  rw [queryPairs, String.toList_intercalate, htexts]
  by_cases hnil : pairs = []
  · subst hnil
    rfl
  · have hclean : ∀ piece ∈ pairs.map fun pair => (pairText pair).toList, '&' ∉ piece := by
      intro piece hpiece
      obtain ⟨pair, hpair, rfl⟩ := List.mem_map.1 hpiece
      have hsep := h pair hpair '&' (.inr rfl)
      rw [toList_pairText, List.mem_append, List.mem_cons, not_or, not_or]
      exact ⟨hsep.1, by decide, hsep.2⟩
    have hne : ∀ piece ∈ pairs.map fun pair => (pairText pair).toList,
        decide (piece ≠ []) = true := by
      intro piece hpiece
      obtain ⟨pair, -, rfl⟩ := List.mem_map.1 hpiece
      rw [toList_pairText]
      simp
    change ((List.splitOn '&' (['&'].intercalate _)).filter _).mapM readPair = _
    rw [List.splitOn_intercalate _ hclean (by simpa using hnil), List.filter_eq_self.2 hne]
    exact mapM_map_eq_some fun pair hpair => readPair_pairText (h pair hpair)

/-! ## The query -/

theorem perm_sortedParams (params : List (String × String)) :
    (sortedParams params).Perm (params.map fun (k, v) => (awsUrlEncode k, awsUrlEncode v)) :=
  List.mergeSort_perm _ _

theorem pairwise_sortedParams (params : List (String × String)) :
    (sortedParams params).Pairwise fun p q => byteOrder p ≤ byteOrder q := by
  have hsorted := @List.pairwise_mergeSort _
    (fun p q : String × String => decide (byteOrder p ≤ byteOrder q)) ?_ ?_
    (params.map fun (k, v) => (awsUrlEncode k, awsUrlEncode v))
  · exact hsorted.imp fun h => of_decide_eq_true h
  · intro p q r hpq hqr
    rw [decide_eq_true_iff] at hpq hqr ⊢
    exact hpq.trans hqr
  · intro p q
    rw [Bool.or_eq_true, decide_eq_true_iff, decide_eq_true_iff]
    exact le_total _ _

/-- Strings with the same bytes are the same. -/
theorem byteOrder_injective : Function.Injective byteOrder := by
  have hbytes : ∀ s t : String, (bytes s).map UInt8.toNat = (bytes t).map UInt8.toNat → s = t := by
    intro s t h
    have hlist := List.map_injective_iff.2 (fun _ _ => UInt8.toNat_inj.1) h
    have harray := Array.toList_inj.1 hlist
    exact String.toByteArray_inj.1 (ByteArray.ext harray)
  rintro ⟨k, v⟩ ⟨k', v'⟩ h
  have hpair := Prod.mk.inj (toLex.injective h)
  rw [hbytes k k' hpair.1, hbytes v v' hpair.2]

/-- The encoded pairs have no separators. -/
theorem separable_of_mem {params : List (String × String)} {pair : String × String}
    (h : pair ∈ sortedParams params) : Separable pair := by
  obtain ⟨⟨k, v⟩, -, rfl⟩ := List.mem_map.1 ((perm_sortedParams params).mem_iff.1 h)
  exact fun c hc => ⟨not_mem_awsUrlEncode k hc, not_mem_awsUrlEncode v hc⟩

/-- The order of the parameters does not matter: two sorted lists of the same pairs are one. -/
theorem sortedParams_congr {params params' : List (String × String)} (h : params'.Perm params) :
    sortedParams params' = sortedParams params := by
  refine List.Perm.eq_of_pairwise (fun p q _ _ hpq hqp => byteOrder_injective (le_antisymm hpq hqp))
    (pairwise_sortedParams params') (pairwise_sortedParams params) ?_
  exact (perm_sortedParams params').trans ((h.map _).trans (perm_sortedParams params).symm)

/-- Decoding every pair, none of which fails. -/
theorem mapM_eq_some_filterMap {α β : Type} {f : α → Option β} {xs : List α}
    (h : ∀ x ∈ xs, (f x).isSome) : xs.mapM f = some (xs.filterMap f) := by
  -- over the list: nothing is dropped
  induction xs with
  | nil => rfl
  | cons x xs ih =>
      obtain ⟨y, hy⟩ := Option.isSome_iff_exists.1 (h x (by simp))
      rw [List.mapM_cons, hy, ih fun z hz => h z (by simp [hz]), List.filterMap_cons_some hy]
      rfl

theorem decodePair_encoded (k v : String) :
    decodePair (awsUrlEncode k, awsUrlEncode v) = some (k, v) := by
  simp only [decodePair, percentDecode_awsUrlEncode]
  rfl

/-- The decoded pairs are the parameters, in another order. -/
theorem perm_decoded (params : List (String × String)) :
    ((sortedParams params).filterMap decodePair).Perm params := by
  have hperm := (perm_sortedParams params).filterMap decodePair
  have hdecoded : (params.map fun (k, v) => (awsUrlEncode k, awsUrlEncode v)).filterMap decodePair =
      params := by
    rw [List.filterMap_map]
    exact (List.filterMap_congr fun pair _ => decodePair_encoded pair.1 pair.2).trans
      List.filterMap_some
  rwa [hdecoded] at hperm

/-- A query of encoded pairs is well formed, by induction on them. -/
theorem wellFormed_intercalate {pairs : List (String × String)}
    (h : ∀ pair ∈ pairs, ∃ k v, pair = (awsUrlEncode k, awsUrlEncode v)) :
    Percent.wellFormed isQueryChar ("&".intercalate (pairs.map pairText)).toList = true := by
  have hkept : ∀ b, isUnreserved b = true → isQueryChar (Char.ofNat b.toNat) = true := by
    intro b hb
    have hascii := (keeps_unreserved b hb).1
    rw [isQueryChar, Percent.toNat_ofNat hascii, UInt8.ofNat_toNat, hb, decide_eq_true hascii]
    rfl
  have hpair : ∀ k v rest, Percent.wellFormed isQueryChar
      ((pairText (awsUrlEncode k, awsUrlEncode v)).toList ++ rest) =
      Percent.wellFormed isQueryChar rest := by
    intro k v rest
    rw [toList_pairText, List.append_assoc, toList_awsUrlEncode, List.cons_append,
      Percent.wellFormed_encode keeps_unreserved hkept, Percent.wellFormed_cons_of_ne (by decide),
      toList_awsUrlEncode, Percent.wellFormed_encode keeps_unreserved hkept]
    rfl
  -- pair by pair, with an ampersand between two of them
  induction pairs with
  | nil => rfl
  | cons pair pairs ih =>
      obtain ⟨k, v, rfl⟩ := h pair (by simp)
      have hrest := ih fun pair hpair => h pair (by simp [hpair])
      by_cases hnil : pairs = []
      · subst hnil
        rw [List.map_singleton, String.intercalate_singleton]
        have hlast := hpair k v []
        rwa [List.append_nil] at hlast
      · rw [List.map_cons, String.intercalate_cons_of_ne_nil (by simpa using hnil),
          String.toList_append, String.toList_append, List.append_assoc, hpair]
        change Percent.wellFormed isQueryChar
          ('&' :: ("&".intercalate (pairs.map pairText)).toList) = true
        rw [Percent.wellFormed_cons_of_ne (by decide), hrest]
        rfl

/-- The canonical query is one text for all orders of the parameters. Its pairs go up in the
order of their bytes, it has no characters but those of a query, and it is read as exactly these
parameters. -/
theorem canonical_query (params : List (String × String)) :
    (∀ params' : List (String × String), params'.Perm params →
      buildCanonicalQueryString params' = buildCanonicalQueryString params) ∧
    (∃ pairs, queryPairs (buildCanonicalQueryString params) = some pairs ∧
      pairs.Pairwise fun p q => byteOrder p ≤ byteOrder q) ∧
    Percent.wellFormed isQueryChar (buildCanonicalQueryString params).toList = true ∧
    ∃ decoded, queryParams (buildCanonicalQueryString params) = some decoded ∧
      decoded.Perm params := by
  have hpairs : queryPairs (buildCanonicalQueryString params) = some (sortedParams params) :=
    queryPairs_intercalate fun _ => separable_of_mem
  have hencoded : ∀ pair ∈ sortedParams params, ∃ k v, pair = (awsUrlEncode k, awsUrlEncode v) := by
    intro pair hpair
    obtain ⟨⟨k, v⟩, -, rfl⟩ := List.mem_map.1 ((perm_sortedParams params).mem_iff.1 hpair)
    exact ⟨k, v, rfl⟩
  refine ⟨fun params' h => ?_, ⟨_, hpairs, pairwise_sortedParams params⟩,
    wellFormed_intercalate hencoded, _, ?_, perm_decoded params⟩
  · rw [buildCanonicalQueryString, buildCanonicalQueryString, sortedParams_congr h]
  · rw [queryParams, hpairs]
    refine mapM_eq_some_filterMap fun pair hpair => ?_
    obtain ⟨k, v, rfl⟩ := hencoded pair hpair
    rw [decodePair_encoded]
    rfl

end KyomiConnect.AwsSigv4
