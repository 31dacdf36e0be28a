import Mathlib.Data.List.Nodup
import Mathlib.Logic.Basic
import CryoController.Foundations.Transition

/-!
# Latched selection

A selector names a value for some readings and none for the others; the latch
holds the last value named. Where every value is named on a set of readings
that is closed under betweenness, a sequence of readings that runs one way
enters each value at most once, whatever the latch held before.

A flag that only falls, reported before each reading is taken, repeats the reading
before as long as no reading is up after one that was down.
-/

namespace Latch
variable {α σ : Type*} [DecidableEq σ]

def hold (f : α → Option σ) (s : σ) (x : α) : σ := (f x).getD s

omit [DecidableEq σ] in
theorem hold_hold (f : α → Option σ) (s : σ) (x : α) : hold f (hold f s x) x = hold f s x := by
  cases hx : f x with
  | none => simp only [hold, hx, Option.getD_none]
  | some t => simp only [hold, hx, Option.getD_some]

omit [DecidableEq σ] in
theorem run_hold (f : α → Option σ) (s : σ) (xs : List α) :
    Transition.run (hold f) s xs = (xs.filterMap f).getLast?.getD s := by
  induction xs generalizing s with
  | nil => rfl
  | cons x xs ih =>
    rw [Transition.run_cons, ih]
    cases hx : f x with
    | none => rw [hold, hx, Option.getD_none, List.filterMap_cons_none hx]
    | some t =>
      rw [hold, hx, Option.getD_some, List.filterMap_cons_some hx, List.getLast?_cons,
        Option.getD_some]

def entries (f : α → Option σ) : σ → List α → List σ
  | _, [] => []
  | s, x :: xs =>
    if s ≠ hold f s x then hold f s x :: entries f (hold f s x) xs
    else entries f (hold f s x) xs

variable {f : α → Option σ} {r : α → α → Prop}

theorem named_of_mem_entries {s t : σ} {xs : List α} (h : t ∈ entries f s xs) :
    ∃ x ∈ xs, f x = some t := by
  induction xs generalizing s with
  | nil => cases h
  | cons x xs ih =>
    rw [entries] at h
    split_ifs at h with hne
    · rcases List.mem_cons.mp h with rfl | h
      · cases hx : f x with
        | none => exact absurd (by rw [hold, hx, Option.getD_none]) hne
        | some t => exact ⟨x, List.mem_cons_self, by rw [hold, hx, Option.getD_some]⟩
      · obtain ⟨y, hy, hty⟩ := ih h
        exact ⟨y, List.mem_cons_of_mem x hy, hty⟩
    · obtain ⟨y, hy, hty⟩ := ih h
      exact ⟨y, List.mem_cons_of_mem x hy, hty⟩

def Convex (r : α → α → Prop) (f : α → Option σ) : Prop :=
  ∀ a b c t, r a b → r b c → f a = some t → f c = some t → f b = some t

/-- A value that has been named and then left is not named again. -/
theorem notMem_entries_of_left (hf : Convex r f) {a b : α} {s t : σ} {xs : List α}
    (ha : f a = some t) (hab : r a b) (hb : f b ≠ some t) (hxs : ∀ x ∈ xs, r b x) :
    t ∉ entries f s xs := by
  intro hmem
  obtain ⟨c, hc, htc⟩ := named_of_mem_entries hmem
  exact hb (hf a b c t hab (hxs c hc) ha htc)

theorem notMem_entries_of_held (hf : Convex r f) {a : α} {t : σ} {xs : List α}
    (ha : f a = some t) (hxs : (a :: xs).Pairwise r) : t ∉ entries f t xs := by
  induction xs with
  | nil => exact List.not_mem_nil
  | cons b xs ih =>
    obtain ⟨hfirst, hrest⟩ := List.pairwise_cons.mp hxs
    obtain ⟨hb, hsorted⟩ := List.pairwise_cons.mp hrest
    have htail : (a :: xs).Pairwise r :=
      List.pairwise_cons.mpr ⟨fun x hx => hfirst x (List.mem_cons_of_mem b hx), hsorted⟩
    rw [entries]
    by_cases hheld : t = hold f t b
    · rw [if_neg (not_not.mpr hheld), ← hheld]
      exact ih htail
    · rw [if_pos hheld, List.mem_cons, not_or]
      have hleft : f b ≠ some t := fun hbt => hheld (by rw [hold, hbt, Option.getD_some])
      exact ⟨hheld,
        notMem_entries_of_left hf ha (hfirst b List.mem_cons_self) hleft hb⟩

theorem entries_nodup (hf : Convex r f) {xs : List α} (hxs : xs.Pairwise r) (s : σ) :
    (entries f s xs).Nodup := by
  induction xs generalizing s with
  | nil => exact List.nodup_nil
  | cons x xs ih =>
    rw [entries]
    by_cases hheld : s = hold f s x
    · rw [if_neg (not_not.mpr hheld)]
      exact ih hxs.of_cons _
    · rw [if_pos hheld, List.nodup_cons]
      refine ⟨?_, ih hxs.of_cons _⟩
      cases hx : f x with
      | none => exact absurd (by rw [hold, hx, Option.getD_none]) hheld
      | some t =>
        rw [hold, hx, Option.getD_some]
        exact notMem_entries_of_held hf hx hxs

def reported (b : Bool) : List Bool → List Bool
  | [] => []
  | x :: xs => b :: reported (b && x) xs

theorem reported_eq_iff (b : Bool) (xs : List Bool) :
    reported b xs = (b :: xs).dropLast ↔
      (b :: xs).dropLast.IsChain fun x y => y = true → x = true := by
  induction xs generalizing b with
  | nil => exact iff_of_true rfl .nil
  | cons x xs ih =>
    cases xs with
    | nil => exact iff_of_true rfl (.singleton b)
    | cons y ys =>
      rw [reported, List.dropLast_cons_cons, List.cons_inj_right]
      rw [List.dropLast_cons_cons, List.isChain_cons_cons, ← List.dropLast_cons_cons]
      by_cases hkept : x = true → b = true
      · have hflag : (b && x) = x := by
          cases x with
          | false => exact Bool.and_false b
          | true => rw [hkept rfl, Bool.and_self]
        rw [and_iff_right hkept, hflag]
        exact ih x
      · -- a reading that is up finds the flag down already
        obtain ⟨rfl, hdown⟩ := Classical.not_imp.mp hkept
        rw [Bool.not_eq_true] at hdown
        subst hdown
        refine iff_of_false ?_ fun h => hkept h.1
        rw [reported, List.dropLast_cons_cons]
        exact fun h => Bool.noConfusion (List.head_eq_of_cons_eq h)

theorem tail_reported_eq_iff (xs : List Bool) :
    (reported true xs).tail = xs.dropLast ↔
      xs.dropLast.IsChain fun x y => y = true → x = true := by
  cases xs with
  | nil => exact iff_of_true rfl .nil
  | cons x xs => exact reported_eq_iff x xs

end Latch
