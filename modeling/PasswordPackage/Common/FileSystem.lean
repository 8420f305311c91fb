import Mathlib.Data.Nat.Notation
import Mathlib.Logic.Function.Basic

/-!
# Files and open handles

A path names a file, and a handle keeps the file it was opened on: removing the path, or putting a
new file in its place, takes nothing away from a handle. What is written through the handle then no
longer shows under the path.
-/

namespace FileSystem

variable {P C : Type}

/-- The files of a file system, by number, and the file each path names. -/
structure Files (P C : Type) where
  entry : P → Option ℕ
  content : ℕ → C
  next : ℕ

/-- The content under a path. -/
def Files.read (fs : Files P C) (p : P) : Option C :=
  (fs.entry p).map fs.content

/-- Remove a path. -/
def Files.unlink [DecidableEq P] (fs : Files P C) (p : P) : Files P C :=
  { fs with entry := Function.update fs.entry p none }

/-- Put a new file under a path, in one step. -/
def Files.create [DecidableEq P] (fs : Files P C) (p : P) (c : C) : Files P C :=
  { entry := Function.update fs.entry p (some fs.next)
    content := Function.update fs.content fs.next c
    next := fs.next + 1 }

/-- Write through a handle. -/
def Files.write (fs : Files P C) (handle : ℕ) (c : C) : Files P C :=
  { fs with content := Function.update fs.content handle c }

/-- The handle is open on the file the path names. -/
def Files.Attached (fs : Files P C) (p : P) (handle : ℕ) : Prop :=
  fs.entry p = some handle

variable {fs : Files P C} {p : P} {handle : ℕ}

@[simp] theorem read_unlink [DecidableEq P] : (fs.unlink p).read p = none := by
  simp [Files.unlink, Files.read]

theorem attached_create [DecidableEq P] (c : C) : (fs.create p c).Attached p fs.next := by
  simp [Files.create, Files.Attached]

theorem Files.Attached.write (h : fs.Attached p handle) (handle' : ℕ) (c : C) :
    (fs.write handle' c).Attached p handle := h

theorem Files.Attached.read (h : fs.Attached p handle) :
    fs.read p = some (fs.content handle) := by
  unfold Files.Attached at h
  rw [Files.read, h, Option.map_some]

/-- What is written through an attached handle is found under the path. -/
theorem Files.Attached.read_write (h : fs.Attached p handle) (c : C) :
    (fs.write handle c).read p = some c := by
  rw [(h.write handle c).read]
  simp [Files.write]

end FileSystem
