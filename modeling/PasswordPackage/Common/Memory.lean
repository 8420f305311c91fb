import Mathlib.Data.Nat.Notation
import Mathlib.Logic.Function.Basic

/-!
# Stretches of memory

A memory maps addresses to cells. `read` and `write` treat a stretch of it as a list.
-/

namespace Memory

variable {α : Type*}

/-- The cells from `address` on. -/
def read (memory : ℕ → α) (address length : ℕ) : List α :=
  (List.range' address length).map memory

/-- The memory with the cells from `address` on replaced. -/
def write (memory : ℕ → α) (address : ℕ) : List α → ℕ → α
  | [] => memory
  | a :: l => write (Function.update memory address a) (address + 1) l

variable {memory : ℕ → α} {address length : ℕ}

theorem read_succ (memory : ℕ → α) (address length : ℕ) :
    read memory address (length + 1) = memory address :: read memory (address + 1) length := by
  rw [read, List.range'_succ, List.map_cons, read]

/-- Cells outside the stretch keep their contents. -/
theorem write_of_outside {l : List α} {other : ℕ}
    (h : other < address ∨ address + l.length ≤ other) :
    write memory address l other = memory other := by
  induction l generalizing memory address with
  | nil => rfl
  | cons a l ih =>
      rw [List.length_cons] at h
      rw [write, ih (by omega), Function.update_of_ne (by omega)]

theorem read_write (memory : ℕ → α) (address : ℕ) (l : List α) :
    read (write memory address l) address l.length = l := by
  induction l generalizing memory address with
  | nil => rfl
  | cons a l ih =>
      rw [List.length_cons, read_succ, write, ih,
        write_of_outside (Or.inl (Nat.lt_succ_self address)), Function.update_self]

/-- A stretch does not see a cell before it. -/
theorem read_update (a : α) {other : ℕ} (h : other < address) :
    read (Function.update memory other a) address length = read memory address length := by
  apply List.map_congr_left
  intro cell hcell
  have hne : cell ≠ other := by
    have hle := (List.mem_range'_1.mp hcell).1
    omega
  exact Function.update_of_ne hne a memory

/-- Writing back what is there changes nothing. -/
theorem write_read (memory : ℕ → α) (address length : ℕ) :
    write memory address (read memory address length) = memory := by
  induction length generalizing address with
  | zero => rfl
  | succ length ih => rw [read_succ, write, Function.update_eq_self, ih]

end Memory
