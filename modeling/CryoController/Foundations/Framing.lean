import Mathlib.Data.List.ReduceOption
import Mathlib.Data.List.Infix
import Mathlib.Order.Monotone.Defs

/-!
# Lines of a stream that is read with interruptions

A stream is a list of items with interruptions between them. A line is a stretch
of items that ends in the terminator, whatever interrupts it. A reader that drops
what it has collected when it is interrupted gets a piece of each line, the part
after the last interruption. There are as many pieces as lines, and they are the
lines exactly when no line that is completed has been interrupted.
-/

namespace Framing
variable {α : Type*} [DecidableEq α] (stop : α)

def lines : List α → List α → List (List α)
  | _, [] => []
  | acc, c :: cs =>
    if c = stop then (acc ++ [c]) :: lines [] cs else lines (acc ++ [c]) cs

def pieces : List α → List (Option α) → List (List α)
  | _, [] => []
  | _, none :: xs => pieces [] xs
  | acc, some c :: xs =>
    if c = stop then (acc ++ [c]) :: pieces [] xs else pieces (acc ++ [c]) xs

/-- No interruption falls inside a line whose terminator is still to come. -/
def Unbroken : Bool → List (Option α) → Prop
  | _, [] => True
  | inside, none :: xs => if inside then some stop ∉ xs else Unbroken false xs
  | _, some c :: xs => Unbroken (decide (c ≠ stop)) xs

instance decidableUnbroken : (inside : Bool) → (xs : List (Option α)) →
    Decidable (Unbroken stop inside xs)
  | _, [] => inferInstanceAs (Decidable True)
  | inside, none :: xs =>
    have : Decidable (Unbroken stop false xs) := decidableUnbroken false xs
    inferInstanceAs (Decidable (if inside then some stop ∉ xs else Unbroken stop false xs))
  | _, some c :: xs => decidableUnbroken (decide (c ≠ stop)) xs

variable {stop}

theorem pieces_length (acc acc' : List α) (xs : List (Option α)) :
    (pieces stop acc xs).length = (lines stop acc' xs.reduceOption).length := by
  induction xs generalizing acc acc' with
  | nil => rfl
  | cons x xs ih =>
    cases x with
    | none =>
      rw [List.reduceOption_cons_of_none]
      exact ih [] acc'
    | some c =>
      rw [List.reduceOption_cons_of_some, pieces, lines]
      split_ifs
      · rw [List.length_cons, List.length_cons, ih]
      · exact ih _ _

theorem mem_of_mem_line {acc cs line : List α} (hline : line ∈ lines stop acc cs) {c : α}
    (hc : c ∈ line) : c ∈ acc ++ cs := by
  induction cs generalizing acc with
  | nil => cases hline
  | cons d cs ih =>
    rw [lines] at hline
    rw [← List.singleton_append, ← List.append_assoc]
    split_ifs at hline
    · rcases List.mem_cons.mp hline with rfl | hline
      · exact List.mem_append_left _ hc
      · exact List.mem_append_right _ (ih hline)
    · exact ih hline

theorem exists_line_of_mem_pieces {acc acc' : List α} (hacc : acc <:+ acc')
    {xs : List (Option α)} {piece : List α} (h : piece ∈ pieces stop acc xs) :
    ∃ line ∈ lines stop acc' xs.reduceOption, piece <:+ line := by
  induction xs generalizing acc acc' with
  | nil => cases h
  | cons x xs ih =>
    cases x with
    | none =>
      rw [List.reduceOption_cons_of_none]
      exact ih List.nil_suffix h
    | some c =>
      have hsuffix : acc ++ [c] <:+ acc' ++ [c] := by
        obtain ⟨lead, rfl⟩ := hacc
        exact ⟨lead, (List.append_assoc _ _ _).symm⟩
      rw [List.reduceOption_cons_of_some, lines]
      rw [pieces] at h
      split_ifs at h ⊢
      · rcases List.mem_cons.mp h with rfl | h
        · exact ⟨_, List.mem_cons_self, hsuffix⟩
        · obtain ⟨line, hline, hend⟩ := ih List.suffix_rfl h
          exact ⟨line, List.mem_cons_of_mem _ hline, hend⟩
      · exact ih hsuffix h

/-- One by one, the pieces are ends of the lines. -/
theorem pieces_forall₂_lines {acc acc' : List α} (hacc : acc <:+ acc') (xs : List (Option α)) :
    List.Forall₂ (· <:+ ·) (pieces stop acc xs) (lines stop acc' xs.reduceOption) := by
  induction xs generalizing acc acc' with
  | nil => exact .nil
  | cons x xs ih =>
    cases x with
    | none =>
      rw [List.reduceOption_cons_of_none]
      exact ih List.nil_suffix
    | some c =>
      have hsuffix : acc ++ [c] <:+ acc' ++ [c] := by
        obtain ⟨lead, rfl⟩ := hacc
        exact ⟨lead, (List.append_assoc _ _ _).symm⟩
      rw [List.reduceOption_cons_of_some, pieces, lines]
      split_ifs
      · exact .cons hsuffix (ih List.suffix_rfl)
      · exact ih hsuffix

theorem pieces_eq_lines_of_lost {acc acc' : List α} (hlost : acc.length < acc'.length)
    (xs : List (Option α)) :
    pieces stop acc xs = lines stop acc' xs.reduceOption ↔ some stop ∉ xs := by
  induction xs generalizing acc acc' with
  | nil => exact iff_of_true rfl List.not_mem_nil
  | cons x xs ih =>
    cases x with
    | none =>
      rw [List.reduceOption_cons_of_none, pieces, ih (by rw [List.length_nil]; omega)]
      simp
    | some c =>
      have hlength : (acc ++ [c]).length < (acc' ++ [c]).length := by
        rw [List.length_append, List.length_append]
        omega
      rw [List.reduceOption_cons_of_some, pieces, lines]
      by_cases hc : c = stop
      · rw [if_pos hc, if_pos hc, hc]
        refine iff_of_false (fun heq => ?_) (not_not.mpr List.mem_cons_self)
        have hfirst := congrArg List.length (List.cons.inj heq).1
        rw [hc] at hlength
        omega
      · rw [if_neg hc, if_neg hc, ih hlength]
        simp [Ne.symm hc]

theorem pieces_eq_lines_iff (acc : List α) (xs : List (Option α)) :
    pieces stop acc xs = lines stop acc xs.reduceOption ↔
      Unbroken stop (decide (acc ≠ [])) xs := by
  induction xs generalizing acc with
  | nil => exact iff_of_true rfl trivial
  | cons x xs ih =>
    cases x with
    | none =>
      rw [List.reduceOption_cons_of_none, pieces, Unbroken]
      by_cases hacc : acc = []
      · rw [if_neg (by simpa using hacc), hacc, ih]
        simp
      · rw [if_pos (by simpa using hacc),
          pieces_eq_lines_of_lost (by rw [List.length_nil]; exact List.length_pos_iff.mpr hacc)]
    | some c =>
      rw [List.reduceOption_cons_of_some, pieces, lines, Unbroken]
      by_cases hc : c = stop
      · rw [if_pos hc, if_pos hc, List.cons_inj_right, ih]
        simp [hc]
      · rw [if_neg hc, if_neg hc, ih]
        simp [hc]

theorem pieces_sublist_iff (xs : List (Option α)) :
    (pieces stop [] xs).Sublist (lines stop [] xs.reduceOption) ↔ Unbroken stop false xs := by
  have hiff : pieces stop [] xs = lines stop [] xs.reduceOption ↔
      Unbroken stop (decide (([] : List α) ≠ [])) xs := pieces_eq_lines_iff [] xs
  rw [decide_eq_false (not_not.mpr rfl)] at hiff
  rw [← hiff]
  exact ⟨fun h => h.eq_of_length (pieces_length _ _ _), fun h => h ▸ List.Sublist.refl _⟩

def missed {β : Type*} (q : β → Bool) (xs : List β) (i : ℕ) : ℕ :=
  (xs.take i).countP fun x => !q x

theorem missed_le {β : Type*} (q : β → Bool) (xs : List β) (i : ℕ) : missed q xs i ≤ i :=
  List.countP_le_length.trans (List.length_take_le i xs)

theorem missed_mono {β : Type*} (q : β → Bool) (xs : List β) : Monotone (missed q xs) :=
  fun _ _ hij => (List.take_sublist_take_left hij).countP_le

theorem getElem?_filter_sub_missed {β : Type*} {q : β → Bool} {xs : List β} {i : ℕ}
    (hi : i < xs.length) (hq : q xs[i] = true) : (xs.filter q)[i - missed q xs i]? = some xs[i] := by
  induction xs generalizing i with
  | nil => cases hi
  | cons x xs ih =>
    cases i with
    | zero =>
      rw [List.getElem_cons_zero] at hq ⊢
      rw [List.filter_cons_of_pos hq, Nat.zero_sub]
      rfl
    | succ i =>
      rw [List.getElem_cons_succ] at hq ⊢
      have hle := missed_le q xs i
      have hrest := ih (Nat.lt_of_succ_lt_succ hi) hq
      cases hx : q x with
      | true =>
        have hmissed : missed q (x :: xs) (i + 1) = missed q xs i := by
          rw [missed, List.take_succ_cons, List.countP_cons_of_neg (by simp [hx])]
          rfl
        rw [hmissed, List.filter_cons_of_pos hx, Nat.succ_sub hle, List.getElem?_cons_succ]
        exact hrest
      | false =>
        have hmissed : missed q (x :: xs) (i + 1) = missed q xs i + 1 := by
          rw [missed, List.take_succ_cons, List.countP_cons_of_pos (by simp [hx])]
          rfl
        rw [hmissed, List.filter_cons_of_neg (by simp [hx]), Nat.add_sub_add_right]
        exact hrest

end Framing
