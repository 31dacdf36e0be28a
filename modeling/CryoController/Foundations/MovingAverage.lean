import Mathlib.Algebra.BigOperators.Fin
import Mathlib.Algebra.Order.Field.Basic
import Mathlib.Tactic.Linarith
import Mathlib.Tactic.Ring
import CryoController.Foundations.Transition

/-!
# Exponential moving averages

`update n` moves an average by the `n`-th part of its distance from the reading,
so the new average lies between the two. While the readings stay at `θ` or
above, what the average lacks to `θ` shrinks by the factor `1 - n⁻¹` each time.
A run weighs each reading by `n⁻¹`, less by that factor for every later one.
-/

namespace MovingAverage
variable {K : Type*} [Field K] [LinearOrder K] [IsStrictOrderedRing K] {n θ avg x : K}

def update (n avg x : K) : K := avg + (x - avg) / n

theorem update_eq (n avg x : K) : update n avg x = (1 - n⁻¹) * avg + n⁻¹ * x := by
  rw [update, div_eq_mul_inv]
  ring

theorem weight_mem (hn : 1 ≤ n) : 0 ≤ n⁻¹ ∧ 0 ≤ 1 - n⁻¹ :=
  ⟨inv_nonneg.mpr (zero_le_one.trans hn), sub_nonneg.mpr (inv_le_one_of_one_le₀ hn)⟩

theorem update_le (hn : 1 ≤ n) (havg : avg ≤ θ) (hx : x ≤ θ) : update n avg x ≤ θ := by
  obtain ⟨hnew, hold⟩ := weight_mem hn
  calc update n avg x = (1 - n⁻¹) * avg + n⁻¹ * x := update_eq n avg x
    _ ≤ (1 - n⁻¹) * θ + n⁻¹ * θ :=
      add_le_add (mul_le_mul_of_nonneg_left havg hold) (mul_le_mul_of_nonneg_left hx hnew)
    _ = θ := by ring

theorem deficit_update (hn : 1 ≤ n) (hx : θ ≤ x) :
    θ - update n avg x ≤ (1 - n⁻¹) * (θ - avg) := by
  have hweight := mul_le_mul_of_nonneg_left hx (weight_mem hn).1
  calc θ - update n avg x = (1 - n⁻¹) * (θ - avg) + (n⁻¹ * θ - n⁻¹ * x) := by
        rw [update_eq]
        ring
    _ ≤ (1 - n⁻¹) * (θ - avg) := by linarith

theorem le_update (hn : 1 ≤ n) (havg : θ ≤ avg) (hx : θ ≤ x) : θ ≤ update n avg x := by
  have hdeficit : θ - update n avg x ≤ (1 - n⁻¹) * (θ - avg) := deficit_update hn hx
  have hold := mul_nonneg (weight_mem hn).2 (sub_nonneg.mpr havg)
  linarith

theorem deficit_run (hn : 1 ≤ n) {xs : List K} (hxs : ∀ x ∈ xs, θ ≤ x) (avg : K) :
    θ - Transition.run (update n) avg xs ≤ (1 - n⁻¹) ^ xs.length * (θ - avg) := by
  induction xs generalizing avg with
  | nil => simp
  | cons x xs ih =>
    rw [List.forall_mem_cons] at hxs
    have hpow := pow_nonneg (weight_mem hn).2 xs.length
    calc θ - Transition.run (update n) avg (x :: xs)
        ≤ (1 - n⁻¹) ^ xs.length * (θ - update n avg x) := ih hxs.2 _
      _ ≤ (1 - n⁻¹) ^ xs.length * ((1 - n⁻¹) * (θ - avg)) :=
        mul_le_mul_of_nonneg_left (deficit_update hn hxs.1) hpow
      _ = (1 - n⁻¹) ^ (x :: xs).length * (θ - avg) := by
        rw [List.length_cons, pow_succ]
        ring

/-- From a nonnegative average, `k` readings of at least `θ` are enough for this
much of it, and more readings do not take it away. -/
theorem le_run (hn : 1 ≤ n) (hθ : 0 ≤ θ) (havg : 0 ≤ avg) {xs : List K}
    (hxs : ∀ x ∈ xs, θ ≤ x) {k : ℕ} (hk : k ≤ xs.length) :
    θ * (1 - (1 - n⁻¹) ^ k) ≤ Transition.run (update n) avg xs := by
  obtain ⟨hnew, hold⟩ := weight_mem hn
  have hpow : (1 - n⁻¹) ^ xs.length ≤ (1 - n⁻¹) ^ k :=
    pow_le_pow_of_le_one hold (by linarith) hk
  have hdeficit : θ - Transition.run (update n) avg xs ≤ (1 - n⁻¹) ^ k * θ :=
    calc θ - Transition.run (update n) avg xs
        ≤ (1 - n⁻¹) ^ xs.length * (θ - avg) := deficit_run hn hxs avg
      _ ≤ (1 - n⁻¹) ^ xs.length * θ :=
        mul_le_mul_of_nonneg_left (by linarith) (pow_nonneg hold _)
      _ ≤ (1 - n⁻¹) ^ k * θ := mul_le_mul_of_nonneg_right hpow hθ
  linarith

theorem run_eq_sum (n avg : K) (xs : List K) :
    Transition.run (update n) avg xs = (1 - n⁻¹) ^ xs.length * avg +
      ∑ i : Fin xs.length, n⁻¹ * (1 - n⁻¹) ^ (xs.length - 1 - i) * xs[i] := by
  induction xs generalizing avg with
  | nil => simp
  | cons x xs ih =>
    have hsum : ∑ i : Fin (x :: xs).length,
        n⁻¹ * (1 - n⁻¹) ^ ((x :: xs).length - 1 - i) * (x :: xs)[i] =
          n⁻¹ * (1 - n⁻¹) ^ xs.length * x +
            ∑ i : Fin xs.length, n⁻¹ * (1 - n⁻¹) ^ (xs.length - 1 - i) * xs[i] := by
      refine (Fin.sum_univ_succ _).trans (congrArg _ (Finset.sum_congr rfl fun i _ => ?_))
      have hexp : (x :: xs).length - 1 - i.succ = xs.length - 1 - i := by
        rw [List.length_cons, Fin.val_succ]
        omega
      rw [hexp]
      rfl
    calc Transition.run (update n) avg (x :: xs)
        = (1 - n⁻¹) ^ xs.length * ((1 - n⁻¹) * avg + n⁻¹ * x) +
            ∑ i : Fin xs.length, n⁻¹ * (1 - n⁻¹) ^ (xs.length - 1 - i) * xs[i] := by
          rw [Transition.run_cons, ih, update_eq]
      _ = _ := by
          rw [hsum, List.length_cons, pow_succ]
          ring

theorem sub_run_const {c : K} {xs : List K} (hxs : ∀ x ∈ xs, x = c) (avg : K) :
    c - Transition.run (update n) avg xs = (1 - n⁻¹) ^ xs.length * (c - avg) := by
  induction xs generalizing avg with
  | nil => simp
  | cons x xs ih =>
    rw [List.forall_mem_cons] at hxs
    rw [Transition.run_cons, ih hxs.2, update_eq, hxs.1, List.length_cons, pow_succ]
    ring

theorem run_mem (hn : 1 ≤ n) {a b : K} (havg : a ≤ avg ∧ avg ≤ b) {xs : List K}
    (hxs : ∀ x ∈ xs, a ≤ x ∧ x ≤ b) :
    a ≤ Transition.run (update n) avg xs ∧ Transition.run (update n) avg xs ≤ b := by
  have hstep : ∀ x ∈ xs, ∀ avg, a ≤ avg ∧ avg ≤ b → a ≤ update n avg x ∧ update n avg x ≤ b := by
    intro x hx avg havg
    exact ⟨le_update hn havg.1 (hxs x hx).1, update_le hn havg.2 (hxs x hx).2⟩
  exact Transition.run_keeps hstep havg

theorem run_mem_min_max (hn : 1 ≤ n) (avg : K) (xs : List K) :
    (avg :: xs).min (List.cons_ne_nil _ _) ≤ Transition.run (update n) avg xs ∧
      Transition.run (update n) avg xs ≤ (avg :: xs).max (List.cons_ne_nil _ _) := by
  have hmem : ∀ x ∈ avg :: xs, (avg :: xs).min (List.cons_ne_nil _ _) ≤ x ∧
      x ≤ (avg :: xs).max (List.cons_ne_nil _ _) :=
    fun x hx => ⟨List.min_le_of_mem hx, List.le_max_of_mem hx⟩
  rw [List.forall_mem_cons] at hmem
  exact run_mem hn hmem.1 hmem.2

end MovingAverage
