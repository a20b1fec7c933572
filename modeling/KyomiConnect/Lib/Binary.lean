import Mathlib.Data.Int.Log
import Mathlib.Data.Rat.Floor
import Mathlib.Tactic.NormNum

/-! # Binary floating-point numbers

A format has a precision, a least exponent and a bound. A rational number is rounded to
the nearest number of the format, an even significand where two are equally near, and to
an infinity beyond the bound. `round_eq_finite_iff` is when rounding changes nothing: for
the numbers that are a significand times a power of two.
-/

namespace Binary

/-- A format: significands of `precision` bits, the exponent of whose last bit is
`leastExponent` or more, and magnitudes below `2 ^ limit`. -/
structure Format where
  precision : ℕ
  leastExponent : ℤ
  limit : ℤ

/-- IEEE 754's double precision. -/
def binary64 : Format where
  precision := 53
  leastExponent := -1074
  limit := 1024

/-- A floating-point value, up to the sign of a zero. -/
inductive Value where
  | finite (q : ℚ)
  | infinite (negative : Bool)
  | nan
deriving DecidableEq

/-! ## Rounding to an integer -/

/-- The nearest integer, the even one of two. -/
def roundEven (q : ℚ) : ℤ :=
  if q - ⌊q⌋ < 1 / 2 then ⌊q⌋
  else if 1 / 2 < q - ⌊q⌋ then ⌊q⌋ + 1
  else if ⌊q⌋ % 2 = 0 then ⌊q⌋ else ⌊q⌋ + 1

@[simp] theorem roundEven_intCast (z : ℤ) : roundEven z = z := by
  simp [roundEven]

/-- The integer between zero and the number that is nearest to it. -/
def truncate (q : ℚ) : ℤ := if 0 ≤ q then ⌊q⌋ else ⌈q⌉

@[simp] theorem truncate_intCast (z : ℤ) : truncate z = z := by
  simp [truncate]

/-- Conversion to an integer between two bounds: towards zero, and to the bound beyond it. -/
def toInteger (least greatest : ℤ) : Value → ℤ
  | .finite q => max least (min (truncate q) greatest)
  | .infinite true => least
  | .infinite false => greatest
  | .nan => 0

@[simp] theorem toInteger_finite (least greatest : ℤ) (q : ℚ) :
    toInteger least greatest (.finite q) = max least (min (truncate q) greatest) := rfl

/-! ## Rounding to a format -/

namespace Format

variable (F : Format) {q : ℚ}

/-- The exponent of the last place of a number. -/
def lastPlace (q : ℚ) : ℤ := max (Int.log 2 |q| + 1 - F.precision) F.leastExponent

/-- The nearest number, were there no bound. -/
def nearest (q : ℚ) : ℚ := roundEven (q / 2 ^ F.lastPlace q) * 2 ^ F.lastPlace q

def round (q : ℚ) : Value :=
  if |F.nearest q| < 2 ^ F.limit then .finite (F.nearest q) else .infinite (decide (q < 0))

/-- The numbers of the format. -/
def Representable (q : ℚ) : Prop :=
  |q| < 2 ^ F.limit ∧
    ∃ m e : ℤ, |m| < 2 ^ F.precision ∧ F.leastExponent ≤ e ∧ q = m * 2 ^ e

/-- A significand and an exponent within the bounds. -/
theorem representable_mul {m e : ℤ} (hm : |m| < 2 ^ F.precision) (hleast : F.leastExponent ≤ e)
    (hlimit : F.precision + e ≤ F.limit) : F.Representable (m * 2 ^ e) := by
  have hpos : (0 : ℚ) < 2 ^ e := zpow_pos two_pos _
  have hm' : |(m : ℚ)| < 2 ^ F.precision := by exact_mod_cast hm
  refine ⟨?_, m, e, hm, hleast, rfl⟩
  calc |(m : ℚ) * 2 ^ e| = |(m : ℚ)| * 2 ^ e := by rw [abs_mul, abs_of_pos hpos]
    _ < 2 ^ F.precision * 2 ^ e := mul_lt_mul_of_pos_right hm' hpos
    _ = 2 ^ (F.precision + e) := by rw [zpow_add₀ two_ne_zero, zpow_natCast]
    _ ≤ 2 ^ F.limit := zpow_le_zpow_right₀ one_le_two hlimit

/-- A number is the nearest one to itself exactly when it is a multiple of its last place. -/
theorem nearest_eq_self_iff : F.nearest q = q ↔ ∃ z : ℤ, q = z * 2 ^ F.lastPlace q := by
  have hplace : (2 : ℚ) ^ F.lastPlace q ≠ 0 := zpow_ne_zero _ two_ne_zero
  constructor
  · intro h
    exact ⟨_, h.symm⟩
  · rintro ⟨z, hz⟩
    have hquotient : q / 2 ^ F.lastPlace q = z := by
      rw [div_eq_iff hplace]
      exact hz
    unfold nearest
    rw [hquotient, roundEven_intCast]
    exact hz.symm

/-- A multiple of its last place has a significand of the format's precision. -/
theorem significand_lt {z : ℤ} (hz : q = z * 2 ^ F.lastPlace q) : |z| < 2 ^ F.precision := by
  have hlog : |q| < 2 ^ (Int.log 2 |q| + 1) := by
    exact_mod_cast Int.lt_zpow_succ_log_self one_lt_two |q|
  have hle : Int.log 2 |q| + 1 ≤ F.precision + F.lastPlace q := by
    have := le_max_left (Int.log 2 |q| + 1 - F.precision) F.leastExponent
    unfold lastPlace
    omega
  have hplace : (0 : ℚ) < 2 ^ F.lastPlace q := zpow_pos two_pos _
  have hq : |q| = |(z : ℚ)| * 2 ^ F.lastPlace q := by
    conv_lhs => rw [hz, abs_mul, abs_of_pos hplace]
  have hbound : |(z : ℚ)| * 2 ^ F.lastPlace q < 2 ^ F.precision * 2 ^ F.lastPlace q := by
    calc |(z : ℚ)| * 2 ^ F.lastPlace q = |q| := hq.symm
      _ < 2 ^ (Int.log 2 |q| + 1) := hlog
      _ ≤ 2 ^ ((F.precision : ℤ) + F.lastPlace q) := zpow_le_zpow_right₀ one_le_two hle
      _ = 2 ^ F.precision * 2 ^ F.lastPlace q := by
        rw [zpow_add₀ two_ne_zero, zpow_natCast]
  have hlt := lt_of_mul_lt_mul_right hbound hplace.le
  exact_mod_cast hlt

/-- A significand times a power of two is a multiple of its last place. -/
theorem exists_multiple {m e : ℤ} (hm : |m| < 2 ^ F.precision) (he : F.leastExponent ≤ e)
    (hq : q = m * 2 ^ e) : ∃ z : ℤ, q = z * 2 ^ F.lastPlace q := by
  by_cases hzero : q = 0
  · exact ⟨0, by simp [hzero]⟩
  have hlast : F.lastPlace q ≤ e := by
    have hlog : (2 : ℚ) ^ Int.log 2 |q| ≤ |q| := by
      exact_mod_cast Int.zpow_log_le_self one_lt_two (abs_pos.2 hzero)
    have hlt : |q| < 2 ^ ((F.precision : ℤ) + e) := by
      have hm' : |(m : ℚ)| < 2 ^ F.precision := by exact_mod_cast hm
      have hpos : (0 : ℚ) < 2 ^ e := zpow_pos two_pos _
      rw [hq, abs_mul, abs_of_pos hpos, zpow_add₀ two_ne_zero, zpow_natCast]
      exact mul_lt_mul_of_pos_right hm' hpos
    have hexp := (zpow_lt_zpow_iff_right₀ one_lt_two).1 (hlog.trans_lt hlt)
    unfold lastPlace
    exact max_le (by omega) he
  -- the lower places of the significand are zeros
  refine ⟨m * 2 ^ (e - F.lastPlace q).toNat, ?_⟩
  have hsplit : (2 : ℚ) ^ e = 2 ^ (e - F.lastPlace q).toNat * 2 ^ F.lastPlace q := by
    rw [← zpow_natCast, ← zpow_add₀ two_ne_zero, Int.toNat_of_nonneg (by omega)]
    congr 1
    omega
  push_cast
  rw [mul_assoc, ← hsplit]
  exact hq

theorem nearest_eq_self (h : F.Representable q) : F.nearest q = q := by
  obtain ⟨-, m, e, hm, he, hq⟩ := h
  exact F.nearest_eq_self_iff.2 (F.exists_multiple hm he hq)

/-- Rounding changes nothing exactly for the numbers of the format. -/
theorem round_eq_finite_iff : F.round q = .finite q ↔ F.Representable q := by
  constructor
  · intro h
    unfold round at h
    split at h
    case isTrue hlimit =>
      have hself : F.nearest q = q := Value.finite.inj h
      rw [hself] at hlimit
      obtain ⟨z, hz⟩ := F.nearest_eq_self_iff.1 hself
      exact ⟨hlimit, z, F.lastPlace q, F.significand_lt hz, le_max_right _ _, hz⟩
    case isFalse => cases h
  · intro h
    unfold round
    rw [F.nearest_eq_self h, if_pos h.1]

/-- The product of a value and a positive number of the format. -/
def mul (x : Value) (c : ℚ) : Value :=
  match x with
  | .finite q => F.round (q * c)
  | x => x

@[simp] theorem mul_finite (q c : ℚ) : F.mul (.finite q) c = F.round (q * c) := rfl

/-- A product that is an integer and that two roundings leave alone is converted as it is. -/
theorem toInteger_mul_round {least greatest z : ℤ} {c : ℚ} (hq : F.Representable q)
    (hz : F.Representable z) (hmul : q * c = z) (hleast : least ≤ z) (hgreatest : z ≤ greatest) :
    toInteger least greatest (F.mul (F.round q) c) = z := by
  rw [F.round_eq_finite_iff.2 hq, mul_finite, hmul, F.round_eq_finite_iff.2 hz]
  rw [toInteger_finite, truncate_intCast, min_eq_left hgreatest, max_eq_right hleast]

end Format

end Binary
