import Mathlib.Data.List.Infix

/-!
# Removing a pattern from a list

`removing pattern isMark` leaves out every occurrence of a pattern, from left to right. A text
search that respects composed characters does not see an occurrence whose last element is continued
by a mark: `isMark` says which elements continue the one before them. Elements that cannot be part
of an occurrence cut a list into pieces that are searched separately (`removing_append`,
`removing_append_of_notMem`), and a list keeps all its elements exactly when the pattern does not
occur in it (`removing_eq_self_iff`).
-/

namespace Removal

variable {α : Type*} (pattern : List α) (isMark : α → Bool)

/-- The pattern is somewhere in the list, and no mark continues it there. -/
def Occurs (xs : List α) : Prop :=
  ∃ before after, xs = before ++ (pattern ++ after) ∧ after.head?.any isMark = false

theorem not_occurs_nil {pattern : List α} {isMark : α → Bool} (hpattern : pattern ≠ []) :
    ¬ Occurs pattern isMark [] := by
  rintro ⟨before, after, heq, -⟩
  obtain ⟨-, hnil⟩ := List.append_eq_nil_iff.mp heq.symm
  exact hpattern (List.append_eq_nil_iff.mp hnil).1

variable [DecidableEq α]

/-- The list begins with the pattern, and no mark continues it there. -/
def matchesAt (xs : List α) : Bool :=
  pattern.isPrefixOf xs && !(xs.drop pattern.length).head?.any isMark

/-- Removal with `skip` elements of an occurrence still to leave out. -/
def removeFrom : ℕ → List α → List α
  | _, [] => []
  | skip + 1, _ :: xs => removeFrom skip xs
  | 0, x :: xs =>
      if matchesAt pattern isMark (x :: xs) then removeFrom (pattern.length - 1) xs
      else x :: removeFrom 0 xs

/-- The list without the occurrences of the pattern. -/
def removing (xs : List α) : List α :=
  removeFrom pattern isMark 0 xs

variable {pattern isMark} {xs : List α}

/-! ## Occurrences -/

theorem matchesAt_iff :
    matchesAt pattern isMark xs = true ↔
      ∃ after, xs = pattern ++ after ∧ after.head?.any isMark = false := by
  rw [matchesAt, Bool.and_eq_true, Bool.not_eq_true', List.isPrefixOf_iff_prefix]
  constructor
  · rintro ⟨⟨after, rfl⟩, hmark⟩
    rw [List.drop_left] at hmark
    exact ⟨after, rfl, hmark⟩
  · rintro ⟨after, rfl, hmark⟩
    rw [List.drop_left]
    exact ⟨⟨after, rfl⟩, hmark⟩

/-- An occurrence is at the head, or in the tail. -/
theorem occurs_cons {x : α} :
    Occurs pattern isMark (x :: xs) ↔
      matchesAt pattern isMark (x :: xs) = true ∨ Occurs pattern isMark xs := by
  rw [matchesAt_iff]
  constructor
  · rintro ⟨before, after, heq, hmark⟩
    rcases before with _ | ⟨y, before⟩
    · exact Or.inl ⟨after, heq, hmark⟩
    · obtain ⟨-, htail⟩ := List.cons.inj heq
      exact Or.inr ⟨before, after, htail, hmark⟩
  · rintro (⟨after, heq, hmark⟩ | ⟨before, after, rfl, hmark⟩)
    · exact ⟨[], after, heq, hmark⟩
    · exact ⟨x :: before, after, rfl, hmark⟩

/-! ## What is left -/

theorem removeFrom_sublist (skip : ℕ) (xs : List α) :
    (removeFrom pattern isMark skip xs).Sublist xs := by
  induction xs generalizing skip with
  | nil => exact List.nil_sublist _
  | cons x xs ih =>
      rcases skip with _ | skip
      · rw [removeFrom]
        split
        · exact (ih _).cons x
        · exact (ih 0).cons_cons x
      · exact (ih skip).cons x

theorem removing_sublist (xs : List α) : (removing pattern isMark xs).Sublist xs :=
  removeFrom_sublist 0 xs

/-- Nothing is removed exactly when the pattern does not occur. -/
theorem removing_eq_self_iff (hpattern : pattern ≠ []) :
    removing pattern isMark xs = xs ↔ ¬ Occurs pattern isMark xs := by
  induction xs with
  | nil => simpa [removing, removeFrom] using not_occurs_nil hpattern
  | cons x xs ih =>
      rw [occurs_cons, not_or, ← ih, removing, removeFrom]
      by_cases hmatch : matchesAt pattern isMark (x :: xs) = true
      · rw [if_pos hmatch]
        constructor
        · intro heq
          have hlen := congrArg List.length heq
          have hle : (removeFrom pattern isMark (pattern.length - 1) xs).length ≤ xs.length :=
            (removeFrom_sublist _ xs).length_le
          rw [List.length_cons] at hlen
          omega
        · exact fun h => absurd hmatch h.1
      · rw [if_neg hmatch, List.cons.injEq]
        exact ⟨fun h => ⟨hmatch, h.2⟩, fun h => ⟨rfl, h.2⟩⟩

/-! ## Cutting a list into pieces -/

/-- An element that is neither a mark nor in the pattern past its head ends every occurrence before
it. -/
theorem matchesAt_append {c : α} (hc : c ∉ pattern.tail) (hmark : isMark c = false) (x : α)
    (xs rest : List α) :
    matchesAt pattern isMark (x :: xs ++ c :: rest) = matchesAt pattern isMark (x :: xs) := by
  rw [Bool.eq_iff_iff, matchesAt_iff, matchesAt_iff]
  constructor
  · rintro ⟨after, heq, hafter⟩
    rcases List.append_eq_append_iff.mp heq with ⟨more, hpattern, hrest⟩ | ⟨more, hxs, hafter'⟩
    · -- the pattern would reach past `x :: xs`, and contain `c`
      rcases more with _ | ⟨d, more⟩
      · exact ⟨[], by rw [hpattern, List.append_nil, List.append_nil], rfl⟩
      · obtain ⟨rfl, -⟩ := List.cons.inj hrest
        rw [hpattern, List.cons_append, List.tail_cons] at hc
        exact absurd (List.mem_append_right xs List.mem_cons_self) hc
    · refine ⟨more, hxs, ?_⟩
      rcases more with _ | ⟨d, more⟩
      · rfl
      · simpa [hafter'] using hafter
  · rintro ⟨after, heq, hafter⟩
    refine ⟨after ++ c :: rest, by rw [heq, List.append_assoc], ?_⟩
    rcases after with _ | ⟨d, after⟩
    · simpa using hmark
    · exact hafter

theorem removeFrom_append {c : α} (hc : c ∉ pattern.tail) (hmark : isMark c = false) {skip : ℕ}
    (hskip : skip ≤ xs.length) (rest : List α) :
    removeFrom pattern isMark skip (xs ++ c :: rest) =
      removeFrom pattern isMark skip xs ++ removing pattern isMark (c :: rest) := by
  induction xs generalizing skip with
  | nil =>
      obtain rfl : skip = 0 := by simpa using hskip
      rfl
  | cons x xs ih =>
      rcases skip with _ | skip
      · have hmatches := matchesAt_append hc hmark x xs rest
        rw [List.cons_append] at hmatches ⊢
        rw [removeFrom, removeFrom, hmatches]
        split
        · next hmatch =>
          obtain ⟨after, heq, -⟩ := matchesAt_iff.mp hmatch
          have hlen := congrArg List.length heq
          rw [List.length_cons, List.length_append] at hlen
          exact ih (by omega)
        · rw [ih (Nat.zero_le _), List.cons_append]
      · exact ih (Nat.le_of_succ_le_succ hskip)

theorem removing_append {c : α} (hc : c ∉ pattern.tail) (hmark : isMark c = false)
    (xs rest : List α) :
    removing pattern isMark (xs ++ c :: rest) =
      removing pattern isMark xs ++ removing pattern isMark (c :: rest) :=
  removeFrom_append hc hmark (Nat.zero_le _) rest

/-- No occurrence begins in a list without the first element of the pattern. -/
theorem removing_append_of_notMem {q : α} (hq : pattern.head? = some q) (hxs : q ∉ xs)
    (rest : List α) :
    removing pattern isMark (xs ++ rest) = xs ++ removing pattern isMark rest := by
  induction xs with
  | nil => rfl
  | cons x xs ih =>
      have hmatch : ¬ matchesAt pattern isMark (x :: (xs ++ rest)) = true := by
        rw [matchesAt_iff]
        rintro ⟨after, heq, -⟩
        obtain ⟨more, rfl⟩ : ∃ more, pattern = q :: more := by
          rw [List.head?_eq_some_iff] at hq
          exact hq
        obtain ⟨rfl, -⟩ := List.cons.inj heq
        exact hxs List.mem_cons_self
      have htail := ih fun hmem => hxs (List.mem_cons_of_mem x hmem)
      rw [List.cons_append, removing, removeFrom, if_neg hmatch]
      exact congrArg (x :: ·) htail

/-- The pattern alone is removed. -/
theorem removing_self (hpattern : pattern ≠ []) : removing pattern isMark pattern = [] := by
  obtain ⟨q, more, rfl⟩ := List.exists_cons_of_ne_nil hpattern
  have hmatch : matchesAt (q :: more) isMark (q :: more) = true :=
    matchesAt_iff.mpr ⟨[], (List.append_nil _).symm, rfl⟩
  have hskip (xs : List α) : removeFrom (q :: more) isMark xs.length xs = [] := by
    induction xs with
    | nil => rfl
    | cons x xs ih => exact ih
  rw [removing, removeFrom, if_pos hmatch]
  exact hskip more

/-! ## Comparing pieces -/

variable {β γ : Type*} {f g : β → List γ} {bs : List β}

theorem length_flatMap_le (hle : ∀ b ∈ bs, (f b).length ≤ (g b).length) :
    (bs.flatMap f).length ≤ (bs.flatMap g).length := by
  induction bs with
  | nil => exact le_refl _
  | cons b bs ih =>
      have hhead := hle b List.mem_cons_self
      have htail := ih fun b' hb' => hle b' (List.mem_cons_of_mem b hb')
      rw [List.flatMap_cons, List.flatMap_cons, List.length_append, List.length_append]
      omega

/-- Pieces that are nowhere longer give the same list only if they are the same. -/
theorem flatMap_eq_flatMap_iff (hle : ∀ b ∈ bs, (f b).length ≤ (g b).length) :
    bs.flatMap f = bs.flatMap g ↔ ∀ b ∈ bs, f b = g b := by
  constructor
  · induction bs with
    | nil => simp
    | cons b bs ih =>
        have htail : ∀ b ∈ bs, (f b).length ≤ (g b).length := fun b' hb' =>
          hle b' (List.mem_cons_of_mem b hb')
        have hhead := hle b List.mem_cons_self
        have hrest := length_flatMap_le htail
        intro heq
        rw [List.flatMap_cons, List.flatMap_cons] at heq
        have hlen := congrArg List.length heq
        rw [List.length_append, List.length_append] at hlen
        obtain ⟨hb, hbs⟩ := List.append_inj heq (by omega)
        exact List.forall_mem_cons.mpr ⟨hb, ih htail hbs⟩
  · exact List.flatMap_congr

end Removal
