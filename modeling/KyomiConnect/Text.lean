import Mathlib.Algebra.Ring.Nat
import Mathlib.Data.List.DropRight
import Mathlib.Data.List.Infix
import Mathlib.Tactic.Common

/-! # Rust's string functions

The `str` methods the code uses, on the characters of a string. The case
mappings are Rust's (Unicode's full mappings) as far as ASCII letters occur in
their result: a character whose mapping has no ASCII letter in it is left as it
is, since the code only looks for ASCII words in a mapped text.
-/

namespace KyomiConnect.Text

/-- `char::is_whitespace`, Unicode's `White_Space` property. -/
def isWhitespace (c : Char) : Bool :=
  let n := c.toNat
  (0x9 ≤ n && n ≤ 0xD) || n == 0x20 || n == 0x85 || n == 0xA0 || n == 0x1680 ||
    (0x2000 ≤ n && n ≤ 0x200A) || n == 0x2028 || n == 0x2029 || n == 0x202F || n == 0x205F ||
    n == 0x3000

/-- Drop the characters at the end that satisfy `p`. -/
def dropEndWhile (p : Char → Bool) (cs : List Char) : List Char :=
  (cs.reverse.dropWhile p).reverse

/-- `str::trim`. -/
def trim (s : String) : String :=
  .ofList (dropEndWhile isWhitespace (s.toList.dropWhile isWhitespace))

/-- `str::trim_end_matches` with a character. -/
def trimEndMatches (c : Char) (s : String) : String :=
  .ofList (dropEndWhile (· == c) s.toList)

/-- Drop a text at the end as often as it is there. -/
def dropEndText (pat : List Char) : ℕ → List Char → List Char
  | 0, cs => cs
  | n + 1, cs =>
      if pat ≠ [] ∧ pat.isSuffixOf cs then dropEndText pat n (cs.take (cs.length - pat.length))
      else cs

/-- `str::trim_end_matches` with a text. -/
def trimEndText (pat : String) (s : String) : String :=
  .ofList (dropEndText pat.toList s.length s.toList)

/-- `char::to_uppercase`. -/
def upperChar (c : Char) : List Char :=
  if c.isLower then [c.toUpper]
  else match c.toNat with
    | 0xDF => ['S', 'S']
    | 0x131 => ['I']
    | 0x149 => [Char.ofNat 0x2BC, 'N']
    | 0x17F => ['S']
    | 0x1F0 => ['J', Char.ofNat 0x30C]
    | 0x1E96 => ['H', Char.ofNat 0x331]
    | 0x1E97 => ['T', Char.ofNat 0x308]
    | 0x1E98 => ['W', Char.ofNat 0x30A]
    | 0x1E99 => ['Y', Char.ofNat 0x30A]
    | 0x1E9A => ['A', Char.ofNat 0x2BE]
    | 0xFB00 => ['F', 'F']
    | 0xFB01 => ['F', 'I']
    | 0xFB02 => ['F', 'L']
    | 0xFB03 => ['F', 'F', 'I']
    | 0xFB04 => ['F', 'F', 'L']
    | 0xFB05 => ['S', 'T']
    | 0xFB06 => ['S', 'T']
    | _ => [c]

/-- `str::to_uppercase`. -/
def toUppercase (s : String) : String := .ofList (s.toList.flatMap upperChar)

/-- `char::to_lowercase`. -/
def lowerChar (c : Char) : List Char :=
  if c.isUpper then [c.toLower]
  else match c.toNat with
    | 0x130 => ['i', Char.ofNat 0x307]
    | 0x212A => ['k']
    | _ => [c]

/-- `str::to_lowercase`. -/
def toLowercase (s : String) : String := .ofList (s.toList.flatMap lowerChar)

/-- `str::eq_ignore_ascii_case`. -/
def eqIgnoreAsciiCase (s t : String) : Bool :=
  s.toList.map Char.toLower == t.toList.map Char.toLower

/-- `str::starts_with`. -/
def startsWith (s pat : String) : Bool := pat.toList.isPrefixOf s.toList

/-- `str::contains`. -/
def contains (s pat : String) : Bool := decide (pat.toList <:+: s.toList)

/-- `str::replace` of a character by a text. -/
def replaceChar (c : Char) (text : String) (s : String) : String :=
  .ofList (s.toList.flatMap fun d => if d == c then text.toList else [d])

/-- `str::len` -/
def byteLen (cs : List Char) : ℕ := (cs.map Char.utf8Size).sum

/-- The text before and from a byte index on; none if the index is not a character
boundary, where slicing panics. -/
def splitAtByte : List Char → ℕ → Option (List Char × List Char)
  | cs, 0 => some ([], cs)
  | [], _ + 1 => none
  | c :: cs, n + 1 =>
      if c.utf8Size ≤ n + 1 then
        (splitAtByte cs (n + 1 - c.utf8Size)).map fun (before, rest) => (c :: before, rest)
      else none

/-- A text without the blanks around it. -/
theorem toList_trim (s : String) :
    (trim s).toList = dropEndWhile isWhitespace (s.toList.dropWhile isWhitespace) :=
  String.toList_ofList

/-- Every letter by its capital, which may be several. -/
theorem toList_toUppercase (s : String) : (toUppercase s).toList = s.toList.flatMap upperChar :=
  String.toList_ofList

/-- Every letter by its small letter. -/
theorem toList_toLowercase (s : String) : (toLowercase s).toList = s.toList.flatMap lowerChar :=
  String.toList_ofList

/-- A character that is not dropped ends it. -/
theorem dropEndWhile_append_singleton {p : Char → Bool} {c : Char} (h : p c = false)
    (cs : List Char) : dropEndWhile p (cs ++ [c]) = cs ++ [c] := by
  unfold dropEndWhile
  rw [List.reverse_append, List.reverse_singleton, List.singleton_append,
    List.dropWhile_cons_of_neg (by simp [h]), List.reverse_cons, List.reverse_reverse]

/-- Dropping at the front ends at the first character that is not dropped. -/
theorem dropWhile_append_cons {p : Char → Bool} {c : Char} (h : p c = false)
    (cs ds : List Char) : (cs ++ c :: ds).dropWhile p = cs.dropWhile p ++ c :: ds := by
  rw [List.dropWhile_append]
  split
  · rename_i hempty
    rw [List.isEmpty_iff.1 hempty, List.nil_append, List.dropWhile_cons_of_neg (by simp [h])]
  · rfl

/-- Dropping at the end leaves a front. -/
theorem prefix_dropEndWhile (p : Char → Bool) (cs : List Char) : dropEndWhile p cs <+: cs :=
  List.rdropWhile_prefix p cs

/-- What is left at the front after dropping there is not dropped again. -/
theorem dropWhile_front {p : Char → Bool} {cs ds : List Char} (h : ds <+: cs.dropWhile p) :
    ds.dropWhile p = ds := by
  cases ds with
  | nil => rfl
  | cons d ds =>
      rcases h with ⟨rest, hrest⟩
      have hd := List.head?_dropWhile_not p cs
      rw [← hrest, List.cons_append, List.head?_cons] at hd
      exact List.dropWhile_cons_of_neg (by simp [hd])

/-- A trimmed text has nothing to trim. -/
theorem trim_trim (s : String) : trim (trim s) = trim s := by
  have hfront : (dropEndWhile isWhitespace (s.toList.dropWhile isWhitespace)).dropWhile
      isWhitespace = dropEndWhile isWhitespace (s.toList.dropWhile isWhitespace) :=
    dropWhile_front (prefix_dropEndWhile _ _)
  have hend (cs : List Char) : dropEndWhile isWhitespace (dropEndWhile isWhitespace cs) =
      dropEndWhile isWhitespace cs := by
    unfold dropEndWhile
    rw [List.reverse_reverse, List.dropWhile_idempotent]
  rw [trim, toList_trim, hfront, hend]
  rfl

@[simp] theorem byteLen_nil : byteLen [] = 0 := rfl

@[simp] theorem byteLen_cons (c : Char) (cs : List Char) :
    byteLen (c :: cs) = c.utf8Size + byteLen cs := rfl

@[simp] theorem byteLen_append (cs ds : List Char) :
    byteLen (cs ++ ds) = byteLen cs + byteLen ds := by
  simp [byteLen]

/-- Every character has a byte at least. -/
theorem length_le_byteLen (cs : List Char) : cs.length ≤ byteLen cs := by
  induction cs with
  | nil => exact Nat.le_refl 0
  | cons c cs ih =>
      have hsize := c.utf8Size_pos
      rw [byteLen_cons, List.length_cons]
      omega

/-- Splitting at a byte index cuts a text in two, the first part as long as the index. -/
theorem splitAtByte_eq_some_iff {cs before rest : List Char} {n : ℕ} :
    splitAtByte cs n = some (before, rest) ↔ cs = before ++ rest ∧ byteLen before = n := by
  -- character by character, with the bytes that are left
  induction cs generalizing before n with
  | nil =>
      cases n with
      | zero =>
          rw [splitAtByte]
          constructor
          · intro h
            cases h
            exact ⟨rfl, rfl⟩
          · rintro ⟨happend, -⟩
            obtain ⟨rfl, rfl⟩ := List.append_eq_nil_iff.1 happend.symm
            rfl
      | succ n =>
          rw [splitAtByte]
          constructor
          · intro h
            cases h
          · rintro ⟨happend, hlen⟩
            obtain ⟨rfl, rfl⟩ := List.append_eq_nil_iff.1 happend.symm
            cases hlen
  | cons c cs ih =>
      have hsize := c.utf8Size_pos
      cases n with
      | zero =>
          rw [splitAtByte]
          constructor
          · intro h
            cases h
            exact ⟨rfl, rfl⟩
          · rintro ⟨happend, hlen⟩
            cases before with
            | nil => rw [happend, List.nil_append]
            | cons d before =>
                have hd := d.utf8Size_pos
                rw [byteLen_cons] at hlen
                omega
      | succ n =>
          rw [splitAtByte]
          constructor
          · intro h
            split at h
            · obtain ⟨⟨before', rest'⟩, hsplit, heq⟩ := Option.map_eq_some_iff.1 h
              cases heq
              obtain ⟨rfl, hlen⟩ := ih.1 hsplit
              refine ⟨rfl, ?_⟩
              rw [byteLen_cons]
              omega
            · cases h
          · rintro ⟨happend, hlen⟩
            cases before with
            | nil => cases hlen
            | cons d before =>
                obtain ⟨rfl, rfl⟩ := List.cons_eq_cons.1 happend
                rw [byteLen_cons] at hlen
                have hle : c.utf8Size ≤ n + 1 := by omega
                rw [if_pos hle, ih.2 ⟨rfl, (by omega : byteLen before = n + 1 - c.utf8Size)⟩]
                rfl

/-- An index after which no text starts is none of a character boundary. -/
theorem splitAtByte_eq_none_iff {cs : List Char} {n : ℕ} :
    splitAtByte cs n = none ↔ ∀ before rest, cs = before ++ rest → byteLen before ≠ n := by
  constructor
  · intro hnone before rest happend hlen
    rw [splitAtByte_eq_some_iff.2 ⟨happend, hlen⟩] at hnone
    cases hnone
  · intro h
    cases hsplit : splitAtByte cs n with
    | none => rfl
    | some parts =>
        obtain ⟨happend, hlen⟩ := splitAtByte_eq_some_iff.1 hsplit
        exact absurd hlen (h parts.1 parts.2 happend)

/-! ## Bytes -/

/-- The ranges of the bytes that follow a leading byte in UTF-8; none for a byte
that leads nothing. -/
def utf8Tail (lead : ℕ) : Option (List (ℕ × ℕ)) :=
  if lead < 0x80 then some []
  else if 0xC2 ≤ lead ∧ lead ≤ 0xDF then some [(0x80, 0xBF)]
  else if lead = 0xE0 then some [(0xA0, 0xBF), (0x80, 0xBF)]
  else if lead = 0xED then some [(0x80, 0x9F), (0x80, 0xBF)]
  else if 0xE1 ≤ lead ∧ lead ≤ 0xEF then some [(0x80, 0xBF), (0x80, 0xBF)]
  else if lead = 0xF0 then some [(0x90, 0xBF), (0x80, 0xBF), (0x80, 0xBF)]
  else if 0xF1 ≤ lead ∧ lead ≤ 0xF3 then some [(0x80, 0xBF), (0x80, 0xBF), (0x80, 0xBF)]
  else if lead = 0xF4 then some [(0x80, 0x8F), (0x80, 0xBF), (0x80, 0xBF)]
  else none

/-- The leading bytes of a text that lie in the ranges, one in each. -/
def takeRanges : List (ℕ × ℕ) → List UInt8 → List UInt8
  | (lo, hi) :: ranges, b :: bytes =>
      if lo ≤ b.toNat ∧ b.toNat ≤ hi then b :: takeRanges ranges bytes else []
  | _, _ => []

/-- The number a leading byte and its tail encode. -/
def utf8Value (lead : ℕ) (tail : List UInt8) : ℕ :=
  let bits := if tail.length = 0 then lead else lead % 2 ^ (6 - tail.length)
  tail.foldl (fun n b => 64 * n + b.toNat % 64) bits

/-- The first character of some bytes, and how many of them it takes. A sequence
that breaks off is replaced as a whole. -/
def utf8Char (lead : UInt8) (rest : List UInt8) : Char × ℕ :=
  let replacement := Char.ofNat 0xFFFD
  match utf8Tail lead.toNat with
  | none => (replacement, 1)
  | some ranges =>
      let tail := takeRanges ranges rest
      (if tail.length = ranges.length then Char.ofNat (utf8Value lead.toNat tail) else replacement,
        tail.length + 1)

/-- The characters of some bytes; `n` bounds their number. -/
def utf8Chars : ℕ → List UInt8 → List Char
  | n + 1, lead :: rest =>
      let (c, taken) := utf8Char lead rest
      c :: utf8Chars n (rest.drop (taken - 1))
  | _, _ => []

/-- `String::from_utf8_lossy` -/
def fromUtf8Lossy (bytes : List UInt8) : String := .ofList (utf8Chars bytes.length bytes)

example : fromUtf8Lossy [0x61, 0xC3, 0xA9, 0xE2, 0x82, 0x21] =
    .ofList ['a', 'é', Char.ofNat 0xFFFD, '!'] := by decide

example : trim (trimEndMatches ';' (trim " SELECT 1 ;; ")) = "SELECT 1" := by decide
example : contains (toUppercase "select 1 limit 5") "LIMIT" = true := by decide

end KyomiConnect.Text
