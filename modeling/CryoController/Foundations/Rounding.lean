import Mathlib.Data.Int.Log
import Mathlib.Data.Rat.Floor
import Mathlib.Tactic.Linarith

/-!
# Rounding to the nearest number of a binary format

A binary format has a number of digits for its significand and a least exponent, below which
numbers lose digits. Rounding goes to the nearest number of the format, and to the even one of
two that are as near. The C library reports a result as out of range when it rounds to
infinity, and when it is tiny after rounding and not exact.
-/

namespace Numeral

def roundEven (x : ℚ) : ℤ :=
  if x - ⌊x⌋ < 1 / 2 ∨ (x - ⌊x⌋ = 1 / 2 ∧ ⌊x⌋ % 2 = 0) then ⌊x⌋ else ⌊x⌋ + 1

theorem abs_roundEven_sub_le (x : ℚ) : |(roundEven x : ℚ) - x| ≤ 1 / 2 := by
  have hfloor := Int.floor_le x
  have hlt := Int.lt_floor_add_one x
  rw [roundEven, abs_le]
  split_ifs with h
  · have hle : x - ⌊x⌋ ≤ 1 / 2 := by
      rcases h with h | h
      · exact h.le
      · exact h.1.le
    constructor <;> linarith
  · rw [not_or, not_lt] at h
    push_cast
    constructor <;> linarith [h.1]

theorem le_roundEven {k : ℤ} {x : ℚ} (h : (k : ℚ) ≤ x) : k ≤ roundEven x := by
  have hfloor : k ≤ ⌊x⌋ := Int.le_floor.mpr h
  rw [roundEven]
  split_ifs <;> omega

theorem roundEven_le {k : ℤ} {x : ℚ} (h : x ≤ k) : roundEven x ≤ k := by
  have hfloor : ⌊x⌋ ≤ k := Int.floor_le_iff.mpr (h.trans_lt (lt_add_one _))
  rw [roundEven]
  split_ifs with hnear
  · exact hfloor
  · refine hfloor.lt_of_ne fun heq => hnear (Or.inl ?_)
    rw [heq]
    linarith

/-- The digits of a significand, and `n` for the smallest normal number `1 / 2 ^ n`. -/
structure Format where
  digits : ℕ
  least : ℕ

namespace Format

def float : Format := ⟨24, 126⟩

def double : Format := ⟨53, 1022⟩

variable (f : Format)

def spacing (x : ℚ) : ℚ := 2 ^ (max (Int.log 2 |x|) (-f.least) - (f.digits - 1))

def round (x : ℚ) : ℚ := roundEven (x / f.spacing x) * f.spacing x

def bound : ℚ := 2 ^ (f.least + 2) - 2 ^ (f.least + 1 - f.digits)

def underflows (x : ℚ) : Bool :=
  decide (|x| < 1 / 2 ^ f.least - 1 / 2 ^ (f.least + f.digits + 1)) && decide (f.round x ≠ x)

def holds (x : ℚ) : Bool := decide (|x| < f.bound) && !f.underflows x

variable {f}

theorem spacing_pos (x : ℚ) : 0 < f.spacing x := zpow_pos two_pos _

theorem abs_round_sub_le (x : ℚ) : |f.round x - x| ≤ f.spacing x / 2 := by
  have hpos := f.spacing_pos x
  have hx : x = x / f.spacing x * f.spacing x := (div_mul_cancel₀ x hpos.ne').symm
  have hround := abs_roundEven_sub_le (x / f.spacing x)
  have hscaled : f.round x - x = (roundEven (x / f.spacing x) - x / f.spacing x) * f.spacing x := by
    rw [sub_mul, ← hx]
    rfl
  rw [hscaled, abs_mul, abs_of_pos hpos]
  calc |(roundEven (x / f.spacing x) : ℚ) - x / f.spacing x| * f.spacing x
      ≤ 1 / 2 * f.spacing x := mul_le_mul_of_nonneg_right hround hpos.le
    _ = f.spacing x / 2 := by ring

theorem spacing_le {x : ℚ} {e : ℕ} (hx : |x| < 2 ^ e) (he : 0 < e) :
    f.spacing x ≤ 2 ^ ((e : ℤ) - f.digits) := by
  have hlog : Int.log 2 |x| < e := by
    by_cases hzero : x = 0
    · rw [hzero, abs_zero, Int.log_zero_right]
      exact_mod_cast he
    · refine (Int.lt_zpow_iff_log_lt Nat.one_lt_two (abs_pos.mpr hzero)).mp ?_
      exact_mod_cast hx
  refine zpow_le_zpow_right₀ one_le_two ?_
  have hmax : max (Int.log 2 |x|) (-f.least) ≤ e - 1 := max_le (by omega) (by omega)
  omega

theorem abs_round_sub_le_of_lt {x : ℚ} {e : ℕ} (hx : |x| < 2 ^ e) (he : 0 < e) :
    |f.round x - x| ≤ 2 ^ ((e : ℤ) - f.digits) / 2 :=
  (f.abs_round_sub_le x).trans (div_le_div_of_nonneg_right (f.spacing_le hx he) zero_le_two)

/-- Where neighbours are no further apart than whole numbers, none of these is passed over. -/
theorem round_mem {x : ℚ} {n e : ℕ} (hx : x ∈ Set.Icc 0 (n : ℚ)) (hn : n < 2 ^ e) (he : 0 < e)
    (hdigits : e ≤ f.digits) : f.round x ∈ Set.Icc 0 (n : ℚ) := by
  have hpos := f.spacing_pos x
  have hlt : |x| < 2 ^ e := by
    rw [abs_of_nonneg hx.1]
    exact hx.2.trans_lt (by exact_mod_cast hn)
  obtain ⟨k, hk⟩ : ∃ k : ℕ, f.spacing x * 2 ^ k = 1 := by
    have hle := f.spacing_le hlt he
    rw [spacing, zpow_le_zpow_iff_right₀ one_lt_two] at hle
    refine ⟨(-(max (Int.log 2 |x|) (-f.least) - (f.digits - 1))).toNat, ?_⟩
    rw [spacing, ← zpow_natCast, ← zpow_add₀ two_ne_zero, Int.toNat_of_nonneg (by omega),
      add_neg_cancel, zpow_zero]
  have hscale (y : ℚ) : y / f.spacing x = y * 2 ^ k := by
    rw [div_eq_iff hpos.ne', mul_assoc, mul_comm (2 ^ k), hk, mul_one]
  constructor
  · refine mul_nonneg ?_ hpos.le
    exact_mod_cast le_roundEven (by rw [Int.cast_zero]; exact div_nonneg hx.1 hpos.le)
  · have hle : roundEven (x / f.spacing x) ≤ n * 2 ^ k := by
      refine roundEven_le ?_
      rw [hscale]
      push_cast
      exact mul_le_mul_of_nonneg_right hx.2 (by positivity)
    rw [round, ← le_div_iff₀ hpos, hscale n]
    exact_mod_cast hle

end Format

end Numeral
