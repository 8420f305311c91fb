import Mathlib.Algebra.BigOperators.Fin
import Mathlib.Algebra.Order.BigOperators.Group.Finset
import Mathlib.Data.Fintype.BigOperators

/-!
# Independent draws

A function of several words, each drawn from the same finite set without regard to the others. The
draws with given outcomes are counted place by place, and the draws that a set of guesses names
guess by guess.
-/

namespace Draws

variable {ι ω β : Type*}

/-! ## Place by place -/

section Places

variable [Fintype ι] [DecidableEq ι]

/-- Every place draws one of the words. -/
def draws (ι : Type*) [Fintype ι] [DecidableEq ι] (words : Finset ω) : Finset (ι → ω) :=
  Fintype.piFinset fun _ => words

theorem card_draws (words : Finset ω) :
    (draws ι words).card = words.card ^ Fintype.card ι := by
  rw [draws, Fintype.card_piFinset, Finset.prod_const, Finset.card_univ]

/-- If a property of draws is one of the word at each place, the draws that have it are counted by
a product. -/
theorem card_filter_draws (words : Finset ω) {P : (ι → ω) → Prop} [DecidablePred P]
    (Q : ι → ω → Prop) [∀ i, DecidablePred (Q i)] (h : ∀ draw, P draw ↔ ∀ i, Q i (draw i)) :
    ((draws ι words).filter P).card = ∏ i, (words.filter (Q i)).card := by
  have hset : (draws ι words).filter P = Fintype.piFinset fun i => words.filter (Q i) := by
    ext draw
    rw [Finset.mem_filter, draws, Fintype.mem_piFinset, Fintype.mem_piFinset, h, ← forall_and]
    apply forall_congr'
    intro i
    rw [Finset.mem_filter]
  rw [hset, Fintype.card_piFinset]

end Places

/-! ## Guess by guess -/

section Guesses

variable [DecidableEq β] (draws : Finset ω) (f : ω → β) (guesses : Finset β) {most : ℕ}

/-- The draws whose outcome is guessed, counted guess by guess. -/
theorem card_guessed :
    (draws.filter fun draw => f draw ∈ guesses).card =
      ∑ guess ∈ guesses, (draws.filter fun draw => f draw = guess).card := by
  have hmaps : Set.MapsTo f (draws.filter fun draw => f draw ∈ guesses) guesses :=
    fun draw hdraw => (Finset.mem_filter.mp hdraw).2
  rw [Finset.card_eq_sum_card_fiberwise hmaps]
  apply Finset.sum_congr rfl
  intro guess hguess
  rw [Finset.filter_filter]
  apply congrArg
  apply Finset.filter_congr
  rintro draw -
  exact and_iff_right_of_imp fun heq => heq ▸ hguess

theorem card_guessed_le
    (hmost : ∀ guess ∈ guesses, (draws.filter fun draw => f draw = guess).card ≤ most) :
    (draws.filter fun draw => f draw ∈ guesses).card ≤ guesses.card * most := by
  rw [card_guessed, ← smul_eq_mul]
  exact Finset.sum_le_card_nsmul guesses _ most hmost

theorem card_guessed_eq
    (hmost : ∀ guess ∈ guesses, (draws.filter fun draw => f draw = guess).card = most) :
    (draws.filter fun draw => f draw ∈ guesses).card = guesses.card * most := by
  rw [card_guessed, ← smul_eq_mul]
  exact Finset.sum_eq_card_nsmul hmost

end Guesses

end Draws
