import Mathlib.Data.List.Basic
import Mathlib.Logic.Basic

/-!
# Deterministic transition systems driven by input sequences

A system is a total step function on a state and an input. A run is the left
fold of the step over the inputs, and `Along P` says that `P` holds of every
(state, input) pair the run meets. The rules lift one-step facts to runs of
any length; nothing here depends on what the states and inputs are.
-/

namespace Transition
variable {σ ι : Type*} (step : σ → ι → σ)

def run (s : σ) (xs : List ι) : σ := xs.foldl step s

@[simp] theorem run_nil (s : σ) : run step s [] = s := rfl

@[simp] theorem run_cons (s : σ) (x : ι) (xs : List ι) :
    run step s (x :: xs) = run step (step s x) xs := rfl

theorem run_append (s : σ) (xs ys : List ι) :
    run step s (xs ++ ys) = run step (run step s xs) ys :=
  List.foldl_append

theorem run_concat (s : σ) (xs : List ι) (x : ι) :
    run step s (xs ++ [x]) = step (run step s xs) x := by
  simp only [run_append, run_cons, run_nil]

variable {step}

theorem run_invariant {Inv : σ → Prop} (hstep : ∀ s x, Inv s → Inv (step s x))
    {s : σ} (hs : Inv s) (xs : List ι) : Inv (run step s xs) := by
  induction xs generalizing s with
  | nil => exact hs
  | cons x xs ih => exact ih (hstep s x hs)

theorem run_keeps {Inv : σ → Prop} {xs : List ι} (hstep : ∀ x ∈ xs, ∀ s, Inv s → Inv (step s x))
    {s : σ} (hs : Inv s) : Inv (run step s xs) := by
  induction xs generalizing s with
  | nil => exact hs
  | cons x xs ih =>
    rw [List.forall_mem_cons] at hstep
    exact ih hstep.2 (hstep.1 s hs)

variable (step)

/-- `P` holds of every state the run visits together with the input taken there. -/
def Along (P : σ → ι → Prop) : σ → List ι → Prop
  | _, [] => True
  | s, x :: xs => P s x ∧ Along P (step s x) xs

variable {step} {P Q : σ → ι → Prop}

@[simp] theorem along_nil (s : σ) : Along step P s [] := trivial

@[simp] theorem along_cons {s : σ} {x : ι} {xs : List ι} :
    Along step P s (x :: xs) ↔ P s x ∧ Along step P (step s x) xs := Iff.rfl

instance decidableAlong [∀ s x, Decidable (P s x)] (s : σ) :
    (xs : List ι) → Decidable (Along step P s xs)
  | [] => inferInstanceAs (Decidable True)
  | x :: xs =>
    have : Decidable (Along step P (step s x) xs) := decidableAlong (step s x) xs
    inferInstanceAs (Decidable (P s x ∧ Along step P (step s x) xs))

theorem along_append {s : σ} {xs ys : List ι} :
    Along step P s (xs ++ ys) ↔ Along step P s xs ∧ Along step P (run step s xs) ys := by
  induction xs generalizing s with
  | nil => exact (and_iff_right trivial).symm
  | cons x xs ih => rw [List.cons_append, along_cons, along_cons, ih, run_cons, and_assoc]

theorem along_mono {Inv : σ → Prop} (hstep : ∀ s x, Inv s → P s x → Inv (step s x))
    (hPQ : ∀ s x, Inv s → P s x → Q s x) {s : σ} (hs : Inv s) {xs : List ι}
    (h : Along step P s xs) : Along step Q s xs := by
  induction xs generalizing s with
  | nil => trivial
  | cons x xs ih => exact ⟨hPQ s x hs h.1, ih (hstep s x hs h.1) h.2⟩

theorem along_of_invariant {Inv : σ → Prop} (hstep : ∀ s x, Inv s → Inv (step s x))
    (hP : ∀ s x, Inv s → P s x) {s : σ} (hs : Inv s) (xs : List ι) : Along step P s xs := by
  induction xs generalizing s with
  | nil => trivial
  | cons x xs ih => exact ⟨hP s x hs, ih (hstep s x hs)⟩

theorem along_of_forall_mem {xs : List ι} (h : ∀ x ∈ xs, ∀ s, P s x) (s : σ) : Along step P s xs := by
  induction xs generalizing s with
  | nil => trivial
  | cons x xs ih =>
    rw [List.forall_mem_cons] at h
    exact ⟨h.1 s, ih h.2 (step s x)⟩

theorem along_congr_of_kept {Inv : σ → Prop} (hstep : ∀ s x, Inv s → P s x → Inv (step s x))
    (hPQ : ∀ s x, Inv s → (P s x ↔ Q s x)) {s : σ} (hs : Inv s) (xs : List ι) :
    Along step P s xs ↔ Along step Q s xs :=
  ⟨along_mono hstep (fun s x hi => (hPQ s x hi).mp) hs,
    along_mono (fun s x hi hq => hstep s x hi ((hPQ s x hi).mpr hq))
      (fun s x hi => (hPQ s x hi).mpr) hs⟩

theorem along_congr {Inv : σ → Prop} (hstep : ∀ s x, Inv s → Inv (step s x))
    (hPQ : ∀ s x, Inv s → (P s x ↔ Q s x)) {s : σ} (hs : Inv s) (xs : List ι) :
    Along step P s xs ↔ Along step Q s xs :=
  along_congr_of_kept (fun s x hi _ => hstep s x hi) hPQ hs xs

theorem along_map {τ : Type*} {step' : τ → ι → τ} {f : σ → τ} {P : τ → ι → Prop}
    (hf : ∀ s x, f (step s x) = step' (f s) x) (s : σ) (xs : List ι) :
    Along step' P (f s) xs ↔ Along step (fun s x => P (f s) x) s xs := by
  induction xs generalizing s with
  | nil => exact Iff.rfl
  | cons x xs ih => rw [along_cons, along_cons, ← ih, hf]

def output {β : Type*} (out : σ → ι → List β) (step : σ → ι → σ) : σ → List ι → List β
  | _, [] => []
  | s, x :: xs => out s x ++ output out step (step s x) xs

theorem run_simulates {τ κ : Type*} {step' : τ → κ → τ} {f : σ → τ} {g : ι → κ} {Inv : σ → Prop}
    (hstep : ∀ s x, Inv s → Inv (step s x))
    (hf : ∀ s x, Inv s → f (step s x) = step' (f s) (g x)) {s : σ} (hs : Inv s) (xs : List ι) :
    f (run step s xs) = run step' (f s) (xs.map g) := by
  induction xs generalizing s with
  | nil => rfl
  | cons x xs ih => rw [run_cons, List.map_cons, run_cons, ih (hstep s x hs), hf s x hs]

theorem run_register {β : Type*} {get : σ → β} {writes : ι → Option β}
    (hstep : ∀ s x, get (step s x) = (writes x).getD (get s)) {y : β} {xs : List ι}
    (hagree : ∀ x ∈ xs, ∀ z ∈ writes x, z = y) {s : σ}
    (h : get s = y ∨ ∃ x ∈ xs, writes x = some y) : get (run step s xs) = y := by
  induction xs generalizing s with
  | nil => exact h.resolve_right fun hwrites => by simp at hwrites
  | cons x xs ih =>
    rw [List.forall_mem_cons] at hagree
    refine ih hagree.2 ?_
    rw [hstep]
    cases hx : writes x with
    | some z => exact Or.inl (hagree.1 z hx)
    | none =>
      refine h.imp id fun hwrites => ?_
      simp only [List.mem_cons, exists_eq_or_imp, hx, reduceCtorEq, false_or] at hwrites
      exact hwrites

/-- A budget that the inputs of one party use up and the other inputs leave alone is used up
after that many inputs of the party. -/
theorem run_budget {Stage : ℕ → σ → Prop} {own : ι → Bool}
    (hown : ∀ n s x, own x = true → P s x → Stage (n + 1) s → Stage n (step s x))
    (hother : ∀ n s x, own x = false → P s x → Stage n s → Stage n (step s x))
    (hdone : ∀ s x, P s x → Stage 0 s → Stage 0 (step s x)) {n : ℕ} {s : σ} (hs : Stage n s)
    {xs : List ι} (hxs : Along step P s xs) (hcount : n ≤ xs.countP own) :
    Stage 0 (run step s xs) := by
  induction xs generalizing n s with
  | nil =>
    rw [List.countP_nil, Nat.le_zero] at hcount
    exact hcount ▸ hs
  | cons x xs ih =>
    cases hx : own x with
    | false =>
      rw [List.countP_cons_of_neg (by simp [hx])] at hcount
      exact ih (hother n s x hx hxs.1 hs) hxs.2 hcount
    | true =>
      rw [List.countP_cons_of_pos hx] at hcount
      cases n with
      | zero => exact ih (hdone s x hxs.1 hs) hxs.2 (Nat.zero_le _)
      | succ n => exact ih (hown n s x hx hxs.1 hs) hxs.2 (Nat.le_of_succ_le_succ hcount)

end Transition
