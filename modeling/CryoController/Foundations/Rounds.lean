import CryoController.Foundations.Transition

/-!
# A party that works in rounds

With each of its steps the party begins a round with a list of things to do, does the first
one that is left, or ends the round. A round with a `Last` input leaves the party `Spent` at
its end; the next round has the thing that `Decides` among its first ones, if it is not
`Done` without it; and done by a spent party that thing makes it `Done`. So a bounded
number of steps of the party is enough, whatever the others do between them.
-/

namespace Rounds
variable {σ ι ρ τ : Type*}

/-- A round has at most `most` things to do, and the one that decides is among the first `soon`.
`P` is what is assumed of the steps. -/
structure Party (step : σ → ι → σ) (round : σ → Option (ρ × List τ)) (Inv : σ → Prop)
    (P : σ → ι → Prop) (own : ι → Bool) (Last : ρ → Prop) (Decides : τ → Prop)
    (Spent Done : σ → Prop) (most soon : ℕ) : Prop where
  inv : ∀ s x, P s x → Inv s → Inv (step s x)
  begins : ∀ s x, own x = true → P s x → Inv s → round s = none →
    ∃ r todo, round (step s x) = some (r, todo) ∧ Last r ∧ todo.length ≤ most ∧
      (Spent s → Spent (step s x) ∧ (Done (step s x) ∨
        ∃ front t rest, todo = front ++ t :: rest ∧ Decides t ∧ front.length < soon))
  does : ∀ s x r t rest, own x = true → P s x → Inv s → round s = some (r, t :: rest) →
    round (step s x) = some (r, rest) ∧ (Spent s → Spent (step s x)) ∧
      (Last r → Spent s → Decides t → Done (step s x))
  ends : ∀ s x r, own x = true → P s x → Inv s → round s = some (r, []) →
    round (step s x) = none ∧ (Last r → Spent (step s x))
  others : ∀ s x, own x = false → P s x → Inv s →
    round (step s x) = round s ∧ (Spent s → Spent (step s x))
  done : ∀ s x, P s x → Inv s → Done s → Done (step s x)

section Stage
variable (round : σ → Option (ρ × List τ)) (Last : ρ → Prop) (Decides : τ → Prop)
  (Spent Done : σ → Prop) (most soon : ℕ)

inductive Stage (s : σ) (n : ℕ) : Prop
  | done (h : Done s)
  | deciding {r : ρ} {front rest : List τ} {t : τ} (hround : round s = some (r, front ++ t :: rest))
    (hlast : Last r) (hspent : Spent s) (hdecides : Decides t) (hleft : front.length < n)
  | spent (hround : round s = none) (hspent : Spent s) (hleft : soon < n)
  | last {r : ρ} {todo : List τ} (hround : round s = some (r, todo)) (hlast : Last r)
    (hleft : todo.length + soon + 1 < n)
  | between (hround : round s = none) (hleft : most + soon + 2 < n)
  | any {r : ρ} {todo : List τ} (hround : round s = some (r, todo))
    (hleft : todo.length + most + soon + 3 < n)

end Stage

section Party
variable {step : σ → ι → σ} {round : σ → Option (ρ × List τ)} {Inv : σ → Prop}
  {P : σ → ι → Prop} {own : ι → Bool} {Last : ρ → Prop} {Decides : τ → Prop}
  {Spent Done : σ → Prop} {most soon : ℕ} {s : σ} {x : ι} {n : ℕ}

theorem Stage.done_of_zero (h : Stage round Last Decides Spent Done most soon s 0) : Done s := by
  cases h with
  | done h => exact h
  | deciding _ _ _ _ hleft => exact absurd hleft (Nat.not_lt_zero _)
  | spent _ _ hleft => exact absurd hleft (Nat.not_lt_zero _)
  | last _ _ hleft => exact absurd hleft (Nat.not_lt_zero _)
  | between _ hleft => exact absurd hleft (Nat.not_lt_zero _)
  | any _ hleft => exact absurd hleft (Nat.not_lt_zero _)

variable (hparty : Party step round Inv P own Last Decides Spent Done most soon)
include hparty

theorem Party.stage_own (hown : own x = true) (hp : P s x) (hs : Inv s)
    (h : Stage round Last Decides Spent Done most soon s (n + 1)) :
    Stage round Last Decides Spent Done most soon (step s x) n := by
  cases h with
  | done h => exact .done (hparty.done s x hp hs h)
  | @deciding r front rest t hround hlast hspent hdecides hleft =>
    cases front with
    | nil => exact .done ((hparty.does s x r t rest hown hp hs hround).2.2 hlast hspent hdecides)
    | cons t' front =>
      obtain ⟨hnext, hkeeps, -⟩ := hparty.does s x r t' _ hown hp hs hround
      exact .deciding hnext hlast (hkeeps hspent) hdecides (Nat.lt_of_succ_lt_succ hleft)
  | spent hround hspent hleft =>
    obtain ⟨r, todo, hnext, hlast, -, hafter⟩ := hparty.begins s x hown hp hs hround
    obtain ⟨hspent', hdone | ⟨front, t, rest, rfl, hdecides, hsoon⟩⟩ := hafter hspent
    · exact .done hdone
    · exact .deciding hnext hlast hspent' hdecides (by omega)
  | @last r todo hround hlast hleft =>
    cases todo with
    | nil =>
      obtain ⟨hnext, hspent⟩ := hparty.ends s x r hown hp hs hround
      rw [List.length_nil] at hleft
      exact .spent hnext (hspent hlast) (by omega)
    | cons t rest =>
      rw [List.length_cons] at hleft
      exact .last (hparty.does s x r t rest hown hp hs hround).1 hlast (by omega)
  | between hround hleft =>
    obtain ⟨r, todo, hnext, hlast, hmost, -⟩ := hparty.begins s x hown hp hs hround
    exact .last hnext hlast (by omega)
  | @any r todo hround hleft =>
    cases todo with
    | nil =>
      rw [List.length_nil] at hleft
      exact .between (hparty.ends s x r hown hp hs hround).1 (by omega)
    | cons t rest =>
      rw [List.length_cons] at hleft
      exact .any (hparty.does s x r t rest hown hp hs hround).1 (by omega)

theorem Party.stage_other (hother : own x = false) (hp : P s x) (hs : Inv s)
    (h : Stage round Last Decides Spent Done most soon s n) :
    Stage round Last Decides Spent Done most soon (step s x) n := by
  obtain ⟨hsame, hkeeps⟩ := hparty.others s x hother hp hs
  cases h with
  | done h => exact .done (hparty.done s x hp hs h)
  | deciding hround hlast hspent hdecides hleft =>
    exact .deciding (hsame.trans hround) hlast (hkeeps hspent) hdecides hleft
  | spent hround hspent hleft => exact .spent (hsame.trans hround) (hkeeps hspent) hleft
  | last hround hlast hleft => exact .last (hsame.trans hround) hlast hleft
  | between hround hleft => exact .between (hsame.trans hround) hleft
  | any hround hleft => exact .any (hsame.trans hround) hleft

/-- Wherever the party starts, it takes at most the rest of its round, one more with a last
input, and the first part of the round after it. -/
theorem Party.run_done (hs : Inv s) (hmost : ∀ r todo, round s = some (r, todo) → todo.length ≤ most)
    {xs : List ι} (hxs : Transition.Along step P s xs)
    (hturns : 2 * most + soon + 4 ≤ xs.countP own) : Done (Transition.run step s xs) := by
  have hstart : Stage round Last Decides Spent Done most soon s (2 * most + soon + 4) := by
    match hround : round s with
    | none => exact .between hround (by omega)
    | some (r, todo) => exact .any hround (by have := hmost r todo hround; omega)
  have hdone : Inv (Transition.run step s xs) ∧
      Stage round Last Decides Spent Done most soon (Transition.run step s xs) 0 :=
    @Transition.run_budget σ ι step P
      (fun n s => Inv s ∧ Stage round Last Decides Spent Done most soon s n) own
      (fun n s x hown hp h => ⟨hparty.inv s x hp h.1, hparty.stage_own hown hp h.1 h.2⟩)
      (fun n s x hother hp h => ⟨hparty.inv s x hp h.1, hparty.stage_other hother hp h.1 h.2⟩)
      (fun s x hp h => ⟨hparty.inv s x hp h.1, .done (hparty.done s x hp h.1 h.2.done_of_zero)⟩)
      _ _ ⟨hs, hstart⟩ _ hxs hturns
  exact hdone.2.done_of_zero

end Party
end Rounds
