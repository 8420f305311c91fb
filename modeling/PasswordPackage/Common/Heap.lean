import Mathlib.Data.List.Basic

/-!
# Shared objects

Objects are held by reference: a heap lists the objects made so far, and a reference is a position
in it. Whoever holds a reference sees what is written through another copy of it.
-/

namespace Heap

variable {α : Type*} {heap : List α} {refs : List ℕ}

/-- The objects behind a list of references. -/
def deref (heap : List α) (refs : List ℕ) : List α :=
  refs.filterMap fun r => heap[r]?

/-- Every reference leads to an object. -/
def Valid (heap : List α) (refs : List ℕ) : Prop :=
  ∀ r ∈ refs, r < heap.length

/-- The references to objects that are added to the heap. -/
def fresh (heap values : List α) : List ℕ :=
  List.range' heap.length values.length

theorem map_some_deref (h : Valid heap refs) :
    (deref heap refs).map some = refs.map fun r => heap[r]? := by
  induction refs with
  | nil => rfl
  | cons r refs ih =>
      obtain ⟨a, hr⟩ : ∃ a, heap[r]? = some a :=
        ⟨_, List.getElem?_eq_getElem (h r List.mem_cons_self)⟩
      rw [deref, List.filterMap_cons_some hr, List.map_cons, List.map_cons, hr]
      exact congrArg _ (ih fun r hr => h r (List.mem_cons_of_mem _ hr))

/-- Added objects are found behind their references. -/
theorem deref_fresh (heap values : List α) :
    deref (heap ++ values) (fresh heap values) = values := by
  unfold deref fresh
  induction values generalizing heap with
  | nil => rfl
  | cons a values ih =>
      have ha : (heap ++ a :: values)[heap.length]? = some a := by simp
      have hrest := ih (heap ++ [a])
      rw [List.append_assoc, List.singleton_append, List.length_append, List.length_singleton]
        at hrest
      rw [List.length_cons, List.range'_succ, List.filterMap_cons_some ha, hrest]

theorem valid_fresh (heap values : List α) : Valid (heap ++ values) (fresh heap values) := by
  intro r hr
  obtain ⟨-, hlt⟩ := List.mem_range'_1.mp hr
  rw [List.length_append]
  exact hlt

theorem Valid.set (h : Valid heap refs) (r : ℕ) (a : α) : Valid (heap.set r a) refs := by
  intro r' hr'
  rw [List.length_set]
  exact h r' hr'

/-- Writing an object is not seen through references to others, nor when it has the value already.
-/
theorem deref_set_eq_iff (h : Valid heap refs) {r : ℕ} {a b : α} (hr : heap[r]? = some b) :
    deref (heap.set r a) refs = deref heap refs ↔ (r ∈ refs → a = b) := by
  have hinj : Function.Injective (List.map (some : α → Option α)) :=
    List.map_injective_iff.mpr fun _ _ => Option.some.inj
  rw [← hinj.eq_iff, map_some_deref (h.set r a), map_some_deref h, List.map_inj_left]
  have hlt := (List.getElem?_eq_some_iff.mp hr).1
  constructor
  · intro hall hmem
    have heq := hall r hmem
    rw [List.getElem?_set_self hlt, hr] at heq
    exact Option.some.inj heq
  · intro hmem r' hr'
    by_cases heq : r = r'
    · subst heq
      rw [List.getElem?_set_self hlt, hr, hmem hr']
    · rw [List.getElem?_set_ne heq]

end Heap
