import Mathlib.Algebra.GroupWithZero.Nat
import Mathlib.Order.Interval.Finset.Nat

/-!
# Cadences of a counted list

The entries of a list carry consecutive numbers. The entries whose number has a
given remainder are then a period apart, and every window of one period holds
exactly one of them.
-/

namespace Cadence
variable {α : Type*} {count : α → ℕ} {first period residue : ℕ} {xs w : List α}

def Numbered (count : α → ℕ) (first : ℕ) (xs : List α) : Prop :=
  xs.map count = List.range' first xs.length

theorem numbered_nil : Numbered count first [] := rfl

theorem numbered_cons_iff {x : α} :
    Numbered count first (x :: xs) ↔ count x = first ∧ Numbered count (first + 1) xs := by
  rw [Numbered, List.map_cons, List.length_cons, List.range'_succ, List.cons.injEq]
  rfl

theorem numbered_of_isChain (h : xs.IsChain fun x y => count y = count x + 1) :
    ∃ first, Numbered count first xs := by
  induction xs with
  | nil => exact ⟨0, numbered_nil⟩
  | cons x xs ih =>
    refine ⟨count x, numbered_cons_iff.mpr ⟨rfl, ?_⟩⟩
    cases xs with
    | nil => exact numbered_nil
    | cons y xs =>
      rw [List.isChain_cons_cons] at h
      obtain ⟨first, hfirst⟩ := ih h.2
      rw [← h.1, (numbered_cons_iff.mp hfirst).1]
      exact hfirst

theorem Numbered.getElem (h : Numbered count first xs) (i : ℕ) (hi : i < xs.length) :
    count xs[i] = first + i := by
  have hentry : (xs.map count)[i]? = (List.range' first xs.length)[i]? := by rw [h]
  rw [List.getElem?_map, List.getElem?_eq_getElem hi, List.getElem?_range' hi] at hentry
  have hcount : count xs[i] = first + 1 * i := Option.some.inj hentry
  omega

theorem Numbered.infix (h : Numbered count first xs) (hw : w <:+: xs) :
    ∃ first', Numbered count first' w := by
  obtain ⟨before, after, rfl⟩ := hw
  refine ⟨first + before.length, ?_⟩
  rw [Numbered, List.map_append, List.map_append, List.length_append, List.length_append,
    ← List.range'_append_1, ← List.range'_append_1] at h
  have hlength : (before.map count ++ w.map count).length =
      (List.range' first before.length ++ List.range' (first + before.length) w.length).length := by
    simp
  have hboth := (List.append_inj h hlength).1
  exact (List.append_inj hboth (by simp)).2

theorem Numbered.apart (h : Numbered count first xs) {i j : ℕ} (hij : i < j)
    (hj : j < xs.length) (hmod : count xs[i] % period = count xs[j] % period) :
    i + period ≤ j := by
  rw [h.getElem i (hij.trans hj), h.getElem j hj] at hmod
  have hdvd : period ∣ (first + j) - (first + i) :=
    Nat.dvd_of_mod_eq_zero (Nat.sub_mod_eq_zero_of_mod_eq hmod.symm)
  have hle := Nat.le_of_dvd (by omega) hdvd
  omega

theorem range'_map_mod (first period : ℕ) :
    ((List.range' first period).map (· % period)).Perm (List.range period) := by
  have hmod := Nat.multiset_Ico_map_mod first period
  rw [Multiset.Ico, Nat.Ico_eq_range', Nat.add_sub_cancel_left] at hmod
  exact Multiset.coe_eq_coe.mp hmod

theorem Numbered.countP_window (h : Numbered count first w) (hlength : w.length = period)
    (hresidue : residue < period) :
    w.countP (fun x => decide (count x % period = residue)) = 1 := by
  have hcounts : ((w.map count).map (· % period)).count residue = 1 := by
    rw [h, hlength, (range'_map_mod first period).count_eq]
    exact List.count_eq_one_of_mem List.nodup_range (List.mem_range.mpr hresidue)
  rw [List.map_map, List.count_eq_countP, List.countP_map] at hcounts
  exact hcounts

theorem sum_map_ite_eq_countP (p : α → Prop) [DecidablePred p] (xs : List α) :
    (xs.map fun x => if p x then 1 else 0).sum = xs.countP fun x => decide (p x) := by
  induction xs with
  | nil => rfl
  | cons x xs ih =>
    rw [List.map_cons, List.sum_cons, List.countP_cons, ih, Nat.add_comm]
    simp only [decide_eq_true_iff]

/-- What is done once at each entry of one remainder is done once in a window of a period. -/
theorem Numbered.sum_window (h : Numbered count first w) (hlength : w.length = period)
    (hresidue : residue < period) {calls : α → ℕ}
    (hcalls : ∀ x ∈ w, calls x = if count x % period = residue then 1 else 0) :
    (w.map calls).sum = 1 := by
  rw [List.map_congr_left hcalls, sum_map_ite_eq_countP]
  exact h.countP_window hlength hresidue

theorem isChain_kept {R : α → α → Prop} (hchain : xs.IsChain R) {P : α → Prop}
    (hkeep : ∀ x ∈ xs, ∀ y ∈ xs, R x y → P x → P y) {i j : ℕ} (hij : i ≤ j) (hj : j < xs.length)
    (hi : P xs[i]) : P xs[j] := by
  induction j, hij using Nat.le_induction with
  | base => exact hi
  | succ k hik ih =>
    have hk : k < xs.length := Nat.lt_of_succ_lt hj
    exact hkeep _ (List.getElem_mem hk) _ (List.getElem_mem hj)
      (List.isChain_iff_getElem.mp hchain k hj) (ih hk hi)

end Cadence
