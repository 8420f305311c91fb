import Mathlib.Data.List.Induction
import Mathlib.Data.List.Nodup

/-!
# Lists in order of first occurrence

`List.eraseDups` keeps the first occurrence of every element. A collector that appends an element
when it has not seen it yet computes exactly this list (`eraseDups_concat`), and a prefix that was
collected earlier goes unnoticed exactly when it is a prefix of what follows
(`eraseDups_append_eq_right_iff`).
-/

namespace FirstOccurrence

variable {α : Type*} [DecidableEq α]

theorem eraseDups_concat (xs : List α) (a : α) :
    (xs ++ [a]).eraseDups = if a ∈ xs then xs.eraseDups else xs.eraseDups ++ [a] := by
  rw [List.eraseDups_append]
  by_cases h : a ∈ xs <;> simp [List.removeAll, List.eraseDups_cons, h]

theorem nodup_eraseDups (xs : List α) : xs.eraseDups.Nodup := by
  induction xs using List.reverseRecOn with
  | nil => simp
  | append_singleton xs a ih =>
      rw [eraseDups_concat]
      split
      · exact ih
      · next h =>
          refine List.Nodup.append ih (List.nodup_singleton a) ?_
          rw [List.disjoint_singleton]
          exact fun hmem => h (List.mem_eraseDups.mp hmem)

theorem eraseDups_of_nodup {xs : List α} (h : xs.Nodup) : xs.eraseDups = xs := by
  induction xs using List.reverseRecOn with
  | nil => rfl
  | append_singleton xs a ih =>
      obtain ⟨hxs, -, hdisjoint⟩ := List.nodup_append.mp h
      have ha : a ∉ xs := fun hmem => hdisjoint a hmem a (List.mem_singleton_self a) rfl
      rw [eraseDups_concat, if_neg ha, ih hxs]

/-- What `xs` does not contain already, in the order `ys` brings it. -/
theorem eraseDups_append_filter (xs ys : List α) :
    (xs ++ ys).eraseDups = xs.eraseDups ++ ys.eraseDups.filter (· ∉ xs) := by
  induction ys using List.reverseRecOn with
  | nil => simp
  | append_singleton ys a ih =>
      rw [← List.append_assoc, eraseDups_concat, eraseDups_concat, ih]
      by_cases hx : a ∈ xs <;> by_cases hy : a ∈ ys <;> simp [hx, hy]

/-- Collecting `xs` first leaves the order of `ys` as it is exactly when the elements of `xs` are
the ones `ys` begins with. -/
theorem eraseDups_append_eq_right_iff (xs ys : List α) :
    (xs ++ ys).eraseDups = ys.eraseDups ↔ xs.eraseDups <+: ys.eraseDups := by
  rw [eraseDups_append_filter]
  constructor
  · intro h
    exact ⟨_, h⟩
  · rintro ⟨rest, hrest⟩
    -- `rest` is disjoint from `xs` because `ys.eraseDups` has no duplicates
    have hnodup : (xs.eraseDups ++ rest).Nodup := hrest ▸ nodup_eraseDups ys
    have hdisj := List.disjoint_of_nodup_append hnodup
    have hfilter : rest.filter (· ∉ xs) = rest := by
      refine List.filter_eq_self.mpr fun a ha => ?_
      simpa using fun hmem => hdisj (List.mem_eraseDups.mpr hmem) ha
    have hnone : xs.eraseDups.filter (· ∉ xs) = [] := by
      refine List.filter_eq_nil_iff.mpr fun a ha => ?_
      simpa using List.mem_eraseDups.mp ha
    rw [← hrest, List.filter_append, hnone, hfilter, List.nil_append]

end FirstOccurrence
