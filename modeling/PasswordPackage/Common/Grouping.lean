import Mathlib.Algebra.GroupWithZero.Nat
import Mathlib.Algebra.Order.BigOperators.Group.List
import Mathlib.Algebra.Order.Group.Nat
import Mathlib.Data.List.AList
import Mathlib.Data.List.Perm.Basic

/-!
# Grouping by a key

A loop that appends every item to the list under its key, creating the list for the first one, is
`insertAll`. Listing the groups in any order of distinct keys gives all items again
(`flatMap_filter_perm`). A map of a finite list of distinct elements that reaches all of them and
makes none larger leaves all sizes as they are (`size_eq_of_subset_map`).
-/

namespace Grouping

variable {κ α : Type*} [DecidableEq κ]

/-! ## The loop -/

/-- Every item is appended to the list under its key. -/
def insertAll (d : AList fun _ : κ => List α) (entries : List (κ × α)) :
    AList fun _ : κ => List α :=
  entries.foldl (fun d entry => d.insert entry.1 ((d.lookup entry.1).getD [] ++ [entry.2])) d

variable {d : AList fun _ : κ => List α}

/-- A list holds what it held, and then its items in their order. -/
theorem lookup_insertAll (d : AList fun _ : κ => List α) (entries : List (κ × α)) (k : κ) :
    ((insertAll d entries).lookup k).getD [] =
      (d.lookup k).getD [] ++ (entries.filter fun entry => entry.1 = k).map Prod.snd := by
  induction entries generalizing d with
  | nil => simp [insertAll]
  | cons entry entries ih =>
      have htail := ih (d.insert entry.1 ((d.lookup entry.1).getD [] ++ [entry.2]))
      rw [insertAll, List.foldl_cons]
      refine htail.trans ?_
      by_cases hk : entry.1 = k
      · subst hk
        rw [AList.lookup_insert, Option.getD_some, List.filter_cons_of_pos (by simp),
          List.map_cons, List.append_assoc, List.singleton_append]
      · rw [AList.lookup_insert_ne (Ne.symm hk), List.filter_cons_of_neg (by simpa using hk)]

theorem mem_insertAll {entries : List (κ × α)} {k : κ} :
    k ∈ insertAll d entries ↔ k ∈ d ∨ ∃ entry ∈ entries, entry.1 = k := by
  induction entries generalizing d with
  | nil => simp [insertAll]
  | cons entry entries ih =>
      rw [insertAll, List.foldl_cons]
      refine ih.trans ?_
      rw [AList.mem_insert, List.exists_mem_cons_iff, eq_comm (a := k), or_assoc, or_left_comm]

/-! ## The groups together -/

/-- The groups of distinct keys, one after the other, are the items that have these keys. -/
theorem flatMap_filter_perm_filter (key : α → κ) {keys : List κ} (hkeys : keys.Nodup)
    (xs : List α) :
    (keys.flatMap fun k => xs.filter fun x => key x = k).Perm
      (xs.filter fun x => key x ∈ keys) := by
  induction keys with
  | nil => simp
  | cons k keys ih =>
      obtain ⟨hk, hrest⟩ := List.nodup_cons.mp hkeys
      rw [List.flatMap_cons]
      -- the elements under the first key, and those under the others
      have hsplit := List.filter_append_perm (fun x => key x = k)
        (xs.filter fun x => key x ∈ k :: keys)
      have hfirst : (xs.filter fun x => key x ∈ k :: keys).filter (fun x => key x = k) =
          xs.filter fun x => key x = k := by
        rw [List.filter_filter]
        apply List.filter_congr
        intro x _
        by_cases hx : key x = k <;> simp [hx]
      have hothers : (xs.filter fun x => key x ∈ k :: keys).filter (fun x => !decide (key x = k)) =
          xs.filter fun x => key x ∈ keys := by
        rw [List.filter_filter]
        apply List.filter_congr
        intro x _
        by_cases hx : key x = k
        · simp [hx, hk]
        · simp [hx]
      rw [hfirst, hothers] at hsplit
      exact ((ih hrest).append_left _).trans hsplit

theorem flatMap_filter_perm {key : α → κ} {keys : List κ} (hkeys : keys.Nodup) {xs : List α}
    (hxs : ∀ x ∈ xs, key x ∈ keys) :
    (keys.flatMap fun k => xs.filter fun x => key x = k).Perm xs := by
  have hperm := flatMap_filter_perm_filter key hkeys xs
  rwa [List.filter_eq_self.mpr fun x hx => decide_eq_true (hxs x hx)] at hperm

/-! ## Maps that reach everything -/

/-- Sizes that are nowhere larger and add up to no less are the same. -/
theorem eq_of_sum_le {f g : α → ℕ} {xs : List α} (hle : ∀ x ∈ xs, f x ≤ g x)
    (hsum : (xs.map g).sum ≤ (xs.map f).sum) : ∀ x ∈ xs, f x = g x := by
  induction xs with
  | nil => simp
  | cons x xs ih =>
      have htail : ∀ y ∈ xs, f y ≤ g y := fun y hy => hle y (List.mem_cons_of_mem x hy)
      have hx := hle x List.mem_cons_self
      have hrest := List.sum_le_sum htail
      rw [List.map_cons, List.map_cons, List.sum_cons, List.sum_cons] at hsum
      exact List.forall_mem_cons.mpr ⟨by omega, ih htail (by omega)⟩

/-- Every element is reached, and none gets larger: then no size changes. -/
theorem size_eq_of_subset_map [DecidableEq α] {f : α → α} {size : α → ℕ} {xs : List α}
    (hnodup : xs.Nodup) (hreach : xs ⊆ xs.map f) (hle : ∀ x ∈ xs, size (f x) ≤ size x) :
    ∀ x ∈ xs, size (f x) = size x := by
  have hperm : xs.Perm (xs.map f) :=
    (List.subperm_of_subset hnodup hreach).perm_of_length_le (by rw [List.length_map])
  have hsum : (xs.map size).sum = (xs.map fun x => size (f x)).sum := by
    rw [(hperm.map size).sum_nat, List.map_map]
    rfl
  exact eq_of_sum_le hle (le_of_eq hsum)

end Grouping
