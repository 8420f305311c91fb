import Mathlib.Data.Sigma.Basic
import PasswordPackage.Common.Run

/-!
# Registers and their last writes

A state has registers of several types, and every event of a machine writes some of them. If reading
a register after an event gives what the event wrote there last, and the old value when it wrote
nothing, then reading it after a run gives what the run wrote there last.
-/

namespace LastWrite

open Machine

variable {σ ε ι : Type*} [DecidableEq ι] {V : ι → Type*}

/-- The value a write gives to a register. -/
def valueAt (i : ι) (write : Σ i, V i) : Option (V i) :=
  if h : write.1 = i then some (h ▸ write.2) else none

/-- The last value a list of writes gives to a register. -/
def lastWrite (i : ι) (writes : List (Σ i, V i)) : Option (V i) :=
  (writes.filterMap (valueAt i)).getLast?

@[simp] theorem lastWrite_singleton (i : ι) (write : Σ i, V i) :
    lastWrite i [write] = valueAt i write := by
  unfold lastWrite
  cases h : valueAt i write <;> simp [h]

/-- Later writes hide earlier ones. -/
theorem lastWrite_append (i : ι) (ws ws' : List (Σ i, V i)) :
    lastWrite i (ws ++ ws') = (lastWrite i ws').or (lastWrite i ws) := by
  rw [lastWrite, List.filterMap_append, List.getLast?_append, lastWrite, lastWrite]

/-- What a run leaves in a register. -/
theorem get_run {step : σ → ε → σ} (get : σ → ∀ i, V i) {writes : ε → List (Σ i, V i)}
    (hstep : ∀ s e i, get (step s e) i = (lastWrite i (writes e)).getD (get s i))
    (s : σ) (es : List ε) (i : ι) :
    get (run step s es) i = (lastWrite i (es.flatMap writes)).getD (get s i) := by
  induction es generalizing s with
  | nil => rfl
  | cons e es ih =>
      rw [run_cons, ih, hstep, List.flatMap_cons, lastWrite_append]
      -- a register the rest of the run leaves alone holds what the first event left there
      cases lastWrite i (es.flatMap writes) <;> rfl

end LastWrite
