import Mathlib.Algebra.Order.Floor.Ring
import Mathlib.Algebra.Order.Group.MinMax
import Mathlib.Order.Interval.Set.Basic
import Mathlib.Order.Lattice
import Mathlib.Order.MinMax
import Mathlib.Order.Monotone.Basic
import Mathlib.Tactic.Linarith
import Mathlib.Tactic.Ring
import CryoController.Foundations.Transition

/-!
# Saturation to an interval

`clamp` is the two-comparison form in which programs write it: the upper bound
is tested first. On an interval with ordered ends it is `max lo (min hi x)`.

A run of additions that are saturated one by one is a single saturated addition, to
an interval that the additions determine and the start does not.
-/

namespace Saturation
variable {α : Type*} [LinearOrder α] {lo lo' hi x y : α}

def clamp (lo hi x : α) : α :=
  if hi < x then hi else if x < lo then lo else x

theorem clamp_eq_max_min (h : lo ≤ hi) : clamp lo hi x = max lo (min hi x) := by
  rw [clamp]
  split_ifs with h1 h2
  · rw [min_eq_left h1.le, max_eq_right h]
  · rw [min_eq_right (not_lt.mp h1), max_eq_left h2.le]
  · rw [min_eq_right (not_lt.mp h1), max_eq_right (not_lt.mp h2)]

theorem clamp_mem (h : lo ≤ hi) (x : α) : clamp lo hi x ∈ Set.Icc lo hi := by
  rw [clamp_eq_max_min h]
  exact ⟨le_max_left _ _, max_le h (min_le_left _ _)⟩

theorem clamp_of_mem (hx : x ∈ Set.Icc lo hi) : clamp lo hi x = x := by
  simp only [clamp, not_lt.mpr hx.1, not_lt.mpr hx.2, if_false]

theorem clamp_le_clamp (h : lo ≤ hi) (hxy : x ≤ y) : clamp lo hi x ≤ clamp lo hi y := by
  rw [clamp_eq_max_min h, clamp_eq_max_min h]
  exact max_le_max le_rfl (min_le_min le_rfl hxy)

theorem clamp_le_iff (h : lo ≤ hi) : clamp lo hi x ≤ y ↔ lo ≤ y ∧ (hi ≤ y ∨ x ≤ y) := by
  rw [clamp_eq_max_min h, max_le_iff, min_le_iff]

theorem clamp_clamp (h : lo ≤ hi) (h' : lo' ≤ hi) :
    clamp lo hi (clamp lo' hi x) = clamp (max lo lo') hi x := by
  rw [clamp_eq_max_min h, clamp_eq_max_min h', clamp_eq_max_min (max_le h h'),
    min_max_distrib_left, min_eq_right h', min_eq_right (min_le_left hi x), max_assoc]

theorem clamp_clamp_comm (h : lo ≤ hi) (h' : lo' ≤ hi) :
    clamp lo hi (clamp lo' hi x) = clamp lo' hi (clamp lo hi x) := by
  rw [clamp_clamp h h', clamp_clamp h' h, max_comm]

theorem clamp_eq_clamp_iff (h : lo < hi) :
    clamp lo hi x = clamp lo hi y ↔ x = y ∨ (hi ≤ x ∧ hi ≤ y) ∨ (x ≤ lo ∧ y ≤ lo) := by
  constructor
  · intro heq
    simp only [clamp] at heq
    split_ifs at heq <;> grind
  · rintro (rfl | ⟨hx, hy⟩ | ⟨hx, hy⟩)
    · rfl
    · rw [clamp_eq_max_min h.le, clamp_eq_max_min h.le, min_eq_left hx, min_eq_left hy]
    · rw [clamp_eq_max_min h.le, clamp_eq_max_min h.le, max_eq_left (min_le_of_right_le hx),
        max_eq_left (min_le_of_right_le hy)]

theorem clamp_monotone (h : lo ≤ hi) : Monotone (clamp lo hi) := fun _ _ hxy => clamp_le_clamp h hxy

theorem map_clamp {β : Type*} [LinearOrder β] {f : α → β} (hf : Monotone f) (h : lo ≤ hi) :
    f (clamp lo hi x) = clamp (f lo) (f hi) (f x) := by
  rw [clamp_eq_max_min h, clamp_eq_max_min (hf h), hf.map_max, hf.map_min]

theorem clamp_clamp_of_subset {a b : α} (hlo : lo ≤ a) (hab : a ≤ b) (hhi : b ≤ hi) :
    clamp a b (clamp lo hi x) = clamp a b x := by
  have hle : lo ≤ hi := hlo.trans (hab.trans hhi)
  rw [clamp_eq_max_min hab, clamp_eq_max_min hab, clamp_eq_max_min hle, min_max_distrib_left,
    ← min_assoc, min_eq_left hhi, ← max_assoc, max_eq_left ((min_le_right b lo).trans hlo)]

theorem clamp_clamp_eq {a b : α} (hab : a ≤ b) (h : lo ≤ hi) :
    clamp lo hi (clamp a b x) = clamp (clamp lo hi a) (clamp lo hi b) x := by
  rw [map_clamp (clamp_monotone h) hab]
  exact clamp_clamp_of_subset (clamp_mem h a).1 (clamp_le_clamp h hab) (clamp_mem h b).2

section Addition
variable {γ : Type*} [AddCommGroup γ] [LinearOrder γ] [IsOrderedAddMonoid γ] {a b lo hi : γ}

theorem clamp_add (h : a ≤ b) (x c : γ) : clamp a b x + c = clamp (a + c) (b + c) (x + c) :=
  map_clamp (fun _ _ hxy => add_le_add_left hxy c) h

def saturate (lo hi s c : γ) : γ := clamp lo hi (s + c)

theorem saturate_clamp (hab : a ≤ b) (h : lo ≤ hi) (x c : γ) :
    saturate lo hi (clamp a b x) c =
      clamp (saturate lo hi a c) (saturate lo hi b c) (x + c) := by
  rw [saturate, clamp_add hab, clamp_clamp_eq (add_le_add_left hab c) h]
  rfl

theorem run_saturate_clamp (h : lo ≤ hi) (hab : a ≤ b) (cs : List γ) (x : γ) :
    Transition.run (saturate lo hi) (clamp a b x) cs =
      clamp (Transition.run (saturate lo hi) a cs) (Transition.run (saturate lo hi) b cs)
        (x + cs.sum) := by
  induction cs generalizing a b x with
  | nil => rw [List.sum_nil, add_zero]; rfl
  | cons c cs ih =>
    have hle : saturate lo hi a c ≤ saturate lo hi b c :=
      clamp_le_clamp h (add_le_add_left hab c)
    rw [Transition.run_cons, saturate_clamp hab h, ih hle, List.sum_cons, add_assoc]
    rfl

/-- What a chain of shifts and saturations keeps between two numbers. -/
structure Robust (r : γ → γ → Prop) : Prop where
  add : ∀ x y c, r x y → r (x + c) (y + c)
  clamp : ∀ lo hi, lo ≤ hi → ∀ x y, r x y → r (clamp lo hi x) (clamp lo hi y)

theorem robust_le : Robust fun x y : γ => x ≤ y where
  add := fun _ _ c hxy => add_le_add_left hxy c
  clamp := fun _ _ h _ _ hxy => clamp_le_clamp h hxy

theorem robust_abs_sub_le (δ : γ) : Robust fun x y : γ => |x - y| ≤ δ where
  add := fun x y c hxy => by rwa [add_sub_add_right_eq_sub]
  clamp := by
    intro lo hi h x y hxy
    rw [clamp_eq_max_min h, clamp_eq_max_min h]
    calc |max lo (min hi x) - max lo (min hi y)|
        ≤ max |lo - lo| |min hi x - min hi y| := abs_max_sub_max_le_max _ _ _ _
      _ ≤ |x - y| := by
        rw [sub_self, abs_zero, max_eq_right (abs_nonneg _)]
        refine (abs_min_sub_min_le_max _ _ _ _).trans ?_
        rw [sub_self, abs_zero, max_eq_right (abs_nonneg _)]
      _ ≤ δ := hxy

end Addition

section Repeated
variable {K : Type*} [CommRing K] [LinearOrder K] [IsStrictOrderedRing K] {lo hi s : K}

/-- Additions of one sign saturate at one end only, and then for good. -/
theorem saturate_repeated (hs : s ∈ Set.Icc lo hi) (c : K) (n : ℕ) :
    saturate lo hi (clamp lo hi (s + n * c)) c = clamp lo hi (s + (n + 1) * c) := by
  obtain ⟨hlo, hhi⟩ := hs
  have hsum : s + (n + 1) * c = s + n * c + c := by ring
  have hn : (0 : K) ≤ n := Nat.cast_nonneg n
  rw [saturate, hsum]
  rcases le_total 0 c with hc | hc
  · have hup : 0 ≤ n * c := mul_nonneg hn hc
    simp only [clamp]
    split_ifs <;> linarith
  · have hdown : n * c ≤ 0 := mul_nonpos_of_nonneg_of_nonpos hn hc
    simp only [clamp]
    split_ifs <;> linarith

theorem clamp_add_eq_self_iff (hs : s ∈ Set.Icc lo hi) (c : K) :
    clamp lo hi (s + c) = s ↔ c = 0 ∨ (0 < c ∧ s = hi) ∨ (c < 0 ∧ s = lo) := by
  obtain ⟨hlo, hhi⟩ := hs
  rcases lt_trichotomy c 0 with hc | rfl | hc
  · have hpush : c = 0 ∨ (0 < c ∧ s = hi) ∨ (c < 0 ∧ s = lo) ↔ s = lo := by
      simp [hc, hc.ne, hc.not_gt]
    rw [hpush, clamp]
    split_ifs with hover hunder
    · linarith
    · exact eq_comm
    · constructor
      · intro heq
        linarith
      · intro heq
        linarith
  · simp [clamp_of_mem (⟨hlo, hhi⟩ : s ∈ Set.Icc lo hi)]
  · have hpush : c = 0 ∨ (0 < c ∧ s = hi) ∨ (c < 0 ∧ s = lo) ↔ s = hi := by
      simp [hc, hc.ne', hc.not_gt]
    rw [hpush, clamp]
    split_ifs with hover hunder
    · exact eq_comm
    · linarith
    · constructor
      · intro heq
        linarith
      · intro heq
        linarith

theorem run_saturate_replicate (hs : s ∈ Set.Icc lo hi) (c : K) (n : ℕ) :
    Transition.run (saturate lo hi) s (List.replicate n c) = clamp lo hi (s + n * c) := by
  induction n with
  | zero =>
    rw [Nat.cast_zero, zero_mul, add_zero, clamp_of_mem hs]
    rfl
  | succ n ih =>
    rw [List.replicate_succ', Transition.run_concat, ih, saturate_repeated hs, Nat.cast_succ]

end Repeated

section Floor
variable {β : Type*} [Ring β] [LinearOrder β] [FloorRing β] {lo hi : β} {n k : ℤ}

theorem floor_le_floor_of_between (hlo : lo ≤ k) (hhi : k ≤ hi) : ⌊lo⌋ ≤ ⌊hi⌋ :=
  Int.floor_mono (hlo.trans hhi)

theorem clamp_floor_le (hlo : lo ≤ k) (hhi : k ≤ hi) :
    ((clamp ⌊lo⌋ ⌊hi⌋ n : ℤ) : β) ≤ hi := by
  have hmem := clamp_mem (floor_le_floor_of_between hlo hhi) n
  exact Int.le_floor.mp hmem.2

variable [IsStrictOrderedRing β]

theorem le_clamp_floor_iff (hlo : lo ≤ k) (hhi : k ≤ hi) :
    lo ≤ ((clamp ⌊lo⌋ ⌊hi⌋ n : ℤ) : β) ↔ (⌊lo⌋ : β) = lo ∨ lo ≤ n := by
  have hinside : lo ≤ ⌊hi⌋ := hlo.trans (Int.cast_le.mpr (Int.le_floor.mpr hhi))
  have hwhole : lo ≤ ⌊lo⌋ ↔ (⌊lo⌋ : β) = lo :=
    ⟨fun h => le_antisymm (Int.floor_le lo) h, fun h => h.ge⟩
  rw [clamp_eq_max_min (floor_le_floor_of_between hlo hhi), Int.cast_max, Int.cast_min,
    le_max_iff, le_min_iff, and_iff_right hinside, hwhole]

theorem clamp_floor_of_mem (hlo : lo ≤ n) (hhi : n ≤ hi) : clamp ⌊lo⌋ ⌊hi⌋ n = n :=
  clamp_of_mem ⟨Int.floor_le_iff.mpr (hlo.trans_lt (lt_add_one _)), Int.le_floor.mpr hhi⟩

end Floor

end Saturation
