import Mathlib.Data.Rat.Defs
import Mathlib.Data.Rat.Cast.Defs
import Mathlib.Algebra.Order.Ring.Rat
import Mathlib.Data.Rat.Floor
import Mathlib.Tactic.NormNum
import Mathlib.Tactic.Linarith

/-!
# Floating point to integer conversion over exact numbers

A conversion to a 32 bit `int` truncates toward zero. Outside the range of
`int` the C++ standard leaves the result undefined; the argument `undef` says
what comes out there, so that nothing proved depends on it.
-/

namespace Conversion

def truncate (x : ℚ) : ℤ := x.num.tdiv x.den

def intOfDouble (undef : ℚ → ℤ) (x : ℚ) : ℤ :=
  if -2147483649 < x ∧ x < 2147483648 then truncate x else undef x

def InIntRange (n : ℤ) : Prop := -2147483648 ≤ n ∧ n ≤ 2147483647

theorem truncate_intCast (n : ℤ) : truncate n = n := by
  simp [truncate]

theorem intOfDouble_intCast {n : ℤ} (h : InIntRange n) (undef : ℚ → ℤ) :
    intOfDouble undef n = n := by
  have hlo : (-2147483649 : ℚ) < n := by exact_mod_cast (by linarith [h.1] : -2147483649 < n)
  have hhi : (n : ℚ) < 2147483648 := by exact_mod_cast (by linarith [h.2] : n < 2147483648)
  rw [intOfDouble, if_pos ⟨hlo, hhi⟩, truncate_intCast]

theorem truncate_of_nonneg {x : ℚ} (h : 0 ≤ x) : truncate x = ⌊x⌋ := by
  rw [truncate, Rat.floor_def', Int.tdiv_eq_ediv_of_nonneg (Rat.num_nonneg.mpr h)]

theorem intOfDouble_of_nonneg {x : ℚ} (h : 0 ≤ x) (hint : x ≤ 2147483647) (undef : ℚ → ℤ) :
    intOfDouble undef x = ⌊x⌋ := by
  have hrange : -2147483649 < x ∧ x < 2147483648 := ⟨by linarith, by linarith⟩
  rw [intOfDouble, if_pos hrange, truncate_of_nonneg h]

end Conversion
