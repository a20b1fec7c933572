import Mathlib.Data.List.Basic
import Mathlib.Tactic.Common

/-! # Percent-encoding

Bytes as text: a byte is the character of its number, or a percent sign and two
hexadecimal digits. Which bytes are kept is a parameter `keep`; `Keeps` says that these
are ASCII and not the percent sign. Then the text has no other characters
(`mem_encode`), is well formed (`wellFormed_encode`), and decodes to the bytes
(`decode_encode`).
-/

namespace Percent

/-! ## Digits -/

/-- The hexadecimal digit of a number below 16, in upper case. -/
def hexDigit (n : ℕ) : Char := Char.ofNat (if n < 10 then 48 + n else 55 + n)

/-- The value of a hexadecimal digit, in upper or lower case. -/
def hexValue (c : Char) : Option ℕ :=
  if '0' ≤ c ∧ c ≤ '9' then some (c.toNat - 48)
  else if 'A' ≤ c ∧ c ≤ 'F' then some (c.toNat - 55)
  else if 'a' ≤ c ∧ c ≤ 'f' then some (c.toNat - 87)
  else none

/-- A hexadecimal digit in upper case. -/
def isUpperHex (c : Char) : Bool := ('0' ≤ c && c ≤ '9') || ('A' ≤ c && c ≤ 'F')

theorem hexDigit_lt : ∀ n : Fin 16,
    hexValue (hexDigit n) = some n.1 ∧ isUpperHex (hexDigit n) = true := by
  decide

theorem hexValue_hexDigit {n : ℕ} (h : n < 16) : hexValue (hexDigit n) = some n :=
  (hexDigit_lt ⟨n, h⟩).1

theorem isUpperHex_hexDigit {n : ℕ} (h : n < 16) : isUpperHex (hexDigit n) = true :=
  (hexDigit_lt ⟨n, h⟩).2

/-! ## Encoding -/

variable (keep : UInt8 → Bool)

def encodeByte (b : UInt8) : List Char :=
  if keep b then [Char.ofNat b.toNat]
  else ['%', hexDigit (b.toNat / 16), hexDigit (b.toNat % 16)]

def encode (bytes : List UInt8) : List Char := bytes.flatMap (encodeByte keep)

/-- Read percent-encoded text; none if a percent sign has no two digits, or a character
is not ASCII. -/
def decode : List Char → Option (List UInt8)
  | [] => some []
  | '%' :: high :: low :: rest => do
      let high ← hexValue high
      let low ← hexValue low
      let bytes ← decode rest
      return UInt8.ofNat (high * 16 + low) :: bytes
  | c :: rest =>
      if c = '%' ∨ 128 ≤ c.toNat then none
      else (decode rest).map (UInt8.ofNat c.toNat :: ·)

/-- Every percent sign is followed by two digits in upper case, and every other character
is allowed. -/
def wellFormed (allowed : Char → Bool) : List Char → Bool
  | [] => true
  | '%' :: high :: low :: rest => isUpperHex high && isUpperHex low && wellFormed allowed rest
  | c :: rest => c != '%' && allowed c && wellFormed allowed rest

/-- The bytes that are kept are ASCII, and not the percent sign. -/
def Keeps : Prop := ∀ b, keep b = true → b.toNat < 128 ∧ b.toNat ≠ 37

variable {keep}

theorem toNat_ofNat {n : ℕ} (h : n < 128) : (Char.ofNat n).toNat = n := by
  have hvalid : n.isValidChar := .inl (by omega)
  rw [Char.ofNat, dif_pos hvalid]
  rfl

theorem ofNat_ne_percent {n : ℕ} (h : n < 128) (hne : n ≠ 37) : Char.ofNat n ≠ '%' := by
  intro heq
  have htoNat := congrArg Char.toNat heq
  rw [toNat_ofNat h] at htoNat
  exact hne htoNat

/-- A character that is not the percent sign is read by itself. -/
theorem decode_cons_of_ne {c : Char} (h : c ≠ '%') (hascii : c.toNat < 128) (rest : List Char) :
    decode (c :: rest) = (decode rest).map (UInt8.ofNat c.toNat :: ·) := by
  rw [decode.eq_def]
  split
  · rename_i heq
    cases heq
  · rename_i heq
    cases heq
    exact absurd rfl h
  · rename_i c' rest' _ heq
    cases heq
    rw [if_neg (not_or.2 ⟨h, Nat.not_le.2 hascii⟩)]

theorem wellFormed_cons_of_ne {allowed : Char → Bool} {c : Char} (h : c ≠ '%') (rest : List Char) :
    wellFormed allowed (c :: rest) = (allowed c && wellFormed allowed rest) := by
  rw [wellFormed.eq_def]
  split
  · rename_i heq
    cases heq
  · rename_i heq
    cases heq
    exact absurd rfl h
  · rename_i c' rest' _ heq
    cases heq
    rw [bne_iff_ne.2 h, Bool.true_and]

/-- A byte is read as it was written. -/
theorem decode_encodeByte (hkeep : Keeps keep) (b : UInt8) (rest : List Char) :
    decode (encodeByte keep b ++ rest) = (decode rest).map (b :: ·) := by
  unfold encodeByte
  split
  · rename_i hkept
    obtain ⟨hascii, hne⟩ := hkeep b hkept
    have htoNat := toNat_ofNat hascii
    rw [List.singleton_append, decode_cons_of_ne (ofNat_ne_percent hascii hne) (by omega), htoNat,
      UInt8.ofNat_toNat]
  · have hlt := b.toNat_lt
    have hvalue : b.toNat / 16 * 16 + b.toNat % 16 = b.toNat := by omega
    change decode ('%' :: hexDigit (b.toNat / 16) :: hexDigit (b.toNat % 16) :: rest) = _
    rw [decode, hexValue_hexDigit (by omega), hexValue_hexDigit (by omega)]
    simp only [Option.bind_eq_bind, Option.bind_some, hvalue, UInt8.ofNat_toNat]
    cases decode rest with
    | none => rfl
    | some bytes => rfl

/-- What was encoded is decoded, by induction on the bytes. -/
theorem decode_encode (hkeep : Keeps keep) (bytes : List UInt8) :
    decode (encode keep bytes) = some bytes := by
  -- byte by byte: a kept one is a character, any other three
  induction bytes with
  | nil => rfl
  | cons b bytes ih =>
      rw [encode, List.flatMap_cons, decode_encodeByte hkeep]
      unfold encode at ih
      rw [ih, Option.map_some]

/-- The characters of an encoded text. -/
theorem mem_encode {bytes : List UInt8} {c : Char} (h : c ∈ encode keep bytes) :
    c = '%' ∨ isUpperHex c = true ∨ ∃ b, keep b = true ∧ c = Char.ofNat b.toNat := by
  obtain ⟨b, -, hc⟩ := List.mem_flatMap.1 h
  have hlt := b.toNat_lt
  unfold encodeByte at hc
  split at hc
  · rename_i hkept
    exact .inr (.inr ⟨b, hkept, List.mem_singleton.1 hc⟩)
  · simp only [List.mem_cons, List.not_mem_nil, or_false] at hc
    rcases hc with rfl | rfl | rfl
    · exact .inl rfl
    · exact .inr (.inl (isUpperHex_hexDigit (by omega)))
    · exact .inr (.inl (isUpperHex_hexDigit (by omega)))

/-- A byte's text is well formed, whatever follows it. -/
theorem wellFormed_encodeByte (hkeep : Keeps keep) {allowed : Char → Bool}
    (hallowed : ∀ b, keep b = true → allowed (Char.ofNat b.toNat) = true) (b : UInt8)
    (rest : List Char) :
    wellFormed allowed (encodeByte keep b ++ rest) = wellFormed allowed rest := by
  unfold encodeByte
  split
  · rename_i hkept
    obtain ⟨hascii, hne⟩ := hkeep b hkept
    rw [List.singleton_append, wellFormed_cons_of_ne (ofNat_ne_percent hascii hne),
      hallowed b hkept, Bool.true_and]
  · have hlt := b.toNat_lt
    change wellFormed allowed
      ('%' :: hexDigit (b.toNat / 16) :: hexDigit (b.toNat % 16) :: rest) = _
    rw [wellFormed, isUpperHex_hexDigit (by omega), isUpperHex_hexDigit (by omega), Bool.true_and,
      Bool.true_and]

/-- An encoded text is well formed as far as it goes. -/
theorem wellFormed_encode (hkeep : Keeps keep) {allowed : Char → Bool}
    (hallowed : ∀ b, keep b = true → allowed (Char.ofNat b.toNat) = true) (bytes : List UInt8)
    (rest : List Char) :
    wellFormed allowed (encode keep bytes ++ rest) = wellFormed allowed rest := by
  -- byte by byte: a kept one is a character, any other three
  induction bytes with
  | nil => rfl
  | cons b bytes ih =>
      rw [encode, List.flatMap_cons, List.append_assoc, wellFormed_encodeByte hkeep hallowed]
      exact ih

end Percent
