import Mathlib.Data.Nat.Digits.Lemmas
import Mathlib.Data.Nat.Log
import CryoController.Foundations.Decimal

/-!
# The texts that `std::to_string` prints

An integer is printed with all its digits. A floating-point number is printed with six
digits after the point, rounded to the nearest, and to the even one of two that are as
near. What is read back is the integer, and the rounded number, which for a `float` has been
rounded twice.
-/

namespace Numeral

def lastDigits : ℕ → ℕ → List (Fin 10)
  | 0, _ => []
  | k + 1, n => lastDigits k (n / 10) ++ [Fin.ofNat 10 n]

def natDigits (n : ℕ) : List (Fin 10) := lastDigits (Nat.log 10 n + 1) n

theorem lastDigits_length (k n : ℕ) : (lastDigits k n).length = k := by
  induction k generalizing n with
  | zero => rfl
  | succ k ih => rw [lastDigits, List.length_append, ih, List.length_singleton]

theorem ofDigits_concat (base : ℕ) (ds : List ℕ) (d : ℕ) :
    ofDigits base (ds ++ [d]) = d + base * ofDigits base ds := by
  rw [ofDigits, List.reverse_append, List.reverse_singleton, List.singleton_append,
    Nat.ofDigits_cons]
  rfl

theorem ofDigits_append (base : ℕ) (ds es : List ℕ) :
    ofDigits base (ds ++ es) = ofDigits base ds * base ^ es.length + ofDigits base es := by
  rw [ofDigits, List.reverse_append, Nat.ofDigits_append, List.length_reverse, add_comm, mul_comm]
  rfl

theorem ofDigits_lastDigits (k n : ℕ) :
    ofDigits 10 ((lastDigits k n).map Fin.val) = n % 10 ^ k := by
  induction k generalizing n with
  | zero => rw [pow_zero, Nat.mod_one]; rfl
  | succ k ih =>
    rw [lastDigits, List.map_append, List.map_singleton, ofDigits_concat, ih, pow_succ', Nat.mod_mul]
    rfl

theorem ofDigits_natDigits (n : ℕ) : ofDigits 10 ((natDigits n).map Fin.val) = n := by
  rw [natDigits, ofDigits_lastDigits]
  exact Nat.mod_eq_of_lt (Nat.lt_pow_succ_log_self (by norm_num) n)

theorem natDigits_ne_nil (n : ℕ) : natDigits n ≠ [] := by
  rw [ne_eq, ← List.length_eq_zero_iff, natDigits, lastDigits_length]
  exact Nat.succ_ne_zero _

namespace Decimal

def ofInt (n : ℤ) : Decimal where
  sign := if n < 0 then .minus else .unsigned
  whole := natDigits n.natAbs
  part := none
  exponent := none
  digits_ne := fun h => natDigits_ne_nil _ (List.append_eq_nil_iff.mp h).1

def micros (x : ℚ) : ℕ := (roundEven (|x| * 10 ^ 6)).toNat

def fixed (x : ℚ) : Decimal where
  sign := if x < 0 then .minus else .unsigned
  whole := natDigits (micros x / 10 ^ 6)
  part := some (lastDigits 6 (micros x))
  exponent := none
  digits_ne := fun h => natDigits_ne_nil _ (List.append_eq_nil_iff.mp h).1

def ofFloat (x : ℚ) : Decimal := fixed (Format.float.round x)

theorem value_ofInt (n : ℤ) : (ofInt n).value = n := by
  have hdigits := ofDigits_natDigits n.natAbs
  simp only [value, ofInt, Option.getD_none, List.map_nil, List.append_nil, hdigits,
    List.length_nil, pow_zero, div_one, exponentValue, zpow_zero, mul_one]
  split_ifs with hneg
  · rw [Sign.factor, Nat.cast_natAbs, abs_of_neg hneg]
    push_cast
    ring
  · rw [Sign.factor, Nat.cast_natAbs, abs_of_nonneg (not_lt.mp hneg)]
    push_cast
    ring

theorem value_fixed (x : ℚ) :
    (fixed x).value = (if x < 0 then -1 else 1) * (micros x / 10 ^ 6) := by
  have hdigits : ofDigits 10 ((natDigits (micros x / 10 ^ 6)).map Fin.val ++
      (lastDigits 6 (micros x)).map Fin.val) = micros x := by
    rw [ofDigits_append, ofDigits_natDigits, ofDigits_lastDigits, List.length_map,
      lastDigits_length, mul_comm, Nat.div_add_mod]
  simp only [value, fixed, Option.getD_some, hdigits, lastDigits_length, exponentValue,
    zpow_zero, mul_one]
  split_ifs <;> simp [Sign.factor]

theorem cast_micros (x : ℚ) : ((micros x : ℕ) : ℚ) = roundEven (|x| * 10 ^ 6) := by
  have hnonneg : 0 ≤ roundEven (|x| * 10 ^ 6) :=
    le_roundEven (by rw [Int.cast_zero]; positivity)
  rw [micros]
  exact_mod_cast Int.toNat_of_nonneg hnonneg

theorem abs_value_fixed_sub_le (x : ℚ) : |(fixed x).value - x| ≤ 1 / 2 / 10 ^ 6 := by
  have hround := abs_roundEven_sub_le (|x| * 10 ^ 6)
  rw [← cast_micros, abs_le] at hround
  rw [value_fixed, abs_le]
  split_ifs with hneg
  · rw [abs_of_neg hneg] at hround
    constructor <;> linarith [hround.1, hround.2]
  · rw [abs_of_nonneg (not_lt.mp hneg)] at hround
    constructor <;> linarith [hround.1, hround.2]

/-- Rounding does not leave an interval whose ends are whole numbers. -/
theorem value_fixed_mem {x : ℚ} {n : ℕ} (h : x ∈ Set.Icc 0 (n : ℚ)) :
    (fixed x).value ∈ Set.Icc 0 (n : ℚ) := by
  have hle : roundEven (|x| * 10 ^ 6) ≤ n * 10 ^ 6 := by
    refine roundEven_le ?_
    rw [abs_of_nonneg h.1]
    push_cast
    linarith [h.2]
  have hmicros : ((micros x : ℕ) : ℚ) ≤ n * 10 ^ 6 := by
    rw [cast_micros]
    exact_mod_cast hle
  rw [value_fixed, if_neg (not_lt.mpr h.1), one_mul]
  exact ⟨by positivity, (div_le_iff₀ (by positivity)).mpr hmicros⟩

theorem abs_value_ofFloat_sub_le {x : ℚ} {e : ℕ} (hx : |x| < 2 ^ e) (he : 0 < e) :
    |(ofFloat x).value - x| ≤ 1 / 2 / 10 ^ 6 + 2 ^ ((e : ℤ) - 24) / 2 :=
  (abs_sub_le _ (Format.float.round x) _).trans
    (add_le_add (abs_value_fixed_sub_le _) (Format.abs_round_sub_le_of_lt hx he))

theorem value_ofFloat_mem {x : ℚ} {n e : ℕ} (hx : x ∈ Set.Icc 0 (n : ℚ)) (hn : n < 2 ^ e)
    (he : 0 < e) (hdigits : e ≤ 24) : (ofFloat x).value ∈ Set.Icc 0 (n : ℚ) :=
  value_fixed_mem (Format.round_mem hx hn he hdigits)

end Decimal

end Numeral
