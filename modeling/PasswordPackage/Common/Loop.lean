import Mathlib.Data.Nat.Notation
import Mathlib.Tactic.TypeStar

/-!
# Loops that may not end

A turn of a loop leads to the next state or to a result. `run` takes at most `fuel` turns, and
`EndsAfter n` says that exactly `n` turns lead on before one ends the loop. The rules follow the
turns.
-/

namespace Loop

variable {σ τ : Type*} (turn : σ → σ ⊕ τ)

/-- At most `fuel` turns, none if the loop has not ended by then. -/
def run : ℕ → σ → Option τ
  | 0, _ => none
  | fuel + 1, s =>
      match turn s with
      | .inl s' => run fuel s'
      | .inr t => some t

/-- The loop ends in `t`, and it takes more than `n` turns to get there. -/
def EndsAfter (n : ℕ) (s : σ) (t : τ) : Prop :=
  ∀ fuel, run turn fuel s = if n < fuel then some t else none

variable {turn} {n : ℕ} {s s' : σ} {t : τ}

theorem endsAfter_zero (h : turn s = .inr t) : EndsAfter turn 0 s t := by
  intro fuel
  cases fuel with
  | zero => rfl
  | succ fuel => rw [run, h, if_pos (Nat.zero_lt_succ fuel)]

theorem EndsAfter.step (h : turn s = .inl s') (hrest : EndsAfter turn n s' t) :
    EndsAfter turn (n + 1) s t := by
  intro fuel
  cases fuel with
  | zero => rfl
  | succ fuel =>
      rw [run, h]
      simpa only [Nat.succ_lt_succ_iff] using hrest fuel

end Loop
