import Mathlib.Data.List.Basic
import Mathlib.Tactic.SplitIfs

/-!
# Lists cut into chunks

`chunks size xs` cuts a list into groups of `size` elements, of which only the last may be shorter,
and `joined separator size xs` puts one separator between them. A loop that closes every full group
with a separator writes `closed separator size xs`, which is `joined` up to one separator at the
end (`closed_eq`).
-/

namespace Chunks

variable {α : Type*}

/-- The consecutive groups of `size` elements. -/
def chunks (size : ℕ) (xs : List α) : List (List α) :=
  (List.range ((xs.length + size - 1) / size)).map fun i => (xs.drop (i * size)).take size

/-- The groups with one separator between them. -/
def joined (separator : α) (size : ℕ) (xs : List α) : List α :=
  [separator].intercalate (chunks size xs)

/-- The groups with one separator after each full one. -/
def closed (separator : α) (size : ℕ) (xs : List α) : List α :=
  (chunks size xs).flatMap fun l => if l.length = size then l ++ [separator] else l

variable {size : ℕ} {separator : α} {xs : List α}

/-! ## Cutting -/

theorem chunks_nil (hsize : 0 < size) : chunks size ([] : List α) = [] := by
  have hzero : (0 + size - 1) / size = 0 := Nat.div_eq_of_lt (by omega)
  rw [chunks, List.length_nil, hzero]
  rfl

theorem chunks_eq_cons (hsize : 0 < size) (hxs : xs ≠ []) :
    chunks size xs = xs.take size :: chunks size (xs.drop size) := by
  have hpos := List.length_pos_iff.mpr hxs
  have hcount : (xs.length + size - 1) / size = ((xs.drop size).length + size - 1) / size + 1 := by
    rw [List.length_drop, ← Nat.add_div_right _ hsize]
    by_cases hle : size ≤ xs.length
    · congr 1
      omega
    · -- one short group: both quotients are 1
      have hlt : xs.length - size = 0 := by omega
      rw [hlt, Nat.div_eq_of_lt_le (k := 1) (by omega) (by omega),
        Nat.div_eq_of_lt_le (k := 1) (by omega) (by omega)]
  rw [chunks, hcount, List.range_succ_eq_map, List.map_cons, List.map_map, chunks]
  congr 1
  · simp
  · apply List.map_congr_left
    intro i _
    simp only [Function.comp_apply, List.drop_drop, Nat.succ_mul]
    rw [Nat.add_comm]

/-- Induction along the groups. -/
theorem chunk_induction {motive : List α → Prop} (hsize : 0 < size) (nil : motive [])
    (group : ∀ xs, xs ≠ [] → motive (xs.drop size) → motive xs) (xs : List α) : motive xs := by
  induction hn : xs.length using Nat.strongRecOn generalizing xs with
  | _ n ih =>
      by_cases hxs : xs = []
      · rw [hxs]
        exact nil
      · have hpos := List.length_pos_iff.mpr hxs
        exact group xs hxs (ih _ (by rw [List.length_drop]; omega) _ rfl)

/-- Nothing is lost, repeated or moved. -/
theorem flatten_chunks (hsize : 0 < size) (xs : List α) : (chunks size xs).flatten = xs := by
  induction xs using chunk_induction hsize with
  | nil => rw [chunks_nil hsize, List.flatten_nil]
  | group xs hxs ih => rw [chunks_eq_cons hsize hxs, List.flatten_cons, ih, List.take_append_drop]

theorem chunks_ne_nil (hsize : 0 < size) (hxs : xs ≠ []) : chunks size xs ≠ [] := by
  rw [chunks_eq_cons hsize hxs]
  exact List.cons_ne_nil _ _

/-- No group is empty or too long, and every group but the last is full. -/
theorem length_of_mem_chunks (hsize : 0 < size) (xs : List α) :
    (∀ l ∈ chunks size xs, l ≠ [] ∧ l.length ≤ size) ∧
      ∀ l ∈ (chunks size xs).dropLast, l.length = size := by
  induction xs using chunk_induction hsize with
  | nil => simp [chunks_nil hsize]
  | group xs hxs ih =>
      rw [chunks_eq_cons hsize hxs]
      have hpos := List.length_pos_iff.mpr hxs
      constructor
      · intro l hl
        rcases List.mem_cons.mp hl with rfl | hl
        · refine ⟨List.ne_nil_of_length_pos ?_, List.length_take_le _ _⟩
          rw [List.length_take]
          omega
        · exact ih.1 l hl
      · by_cases hrest : xs.drop size = []
        · simp [hrest, chunks_nil hsize]
        · rw [List.dropLast_cons_of_ne_nil (chunks_ne_nil hsize hrest)]
          intro l hl
          rcases List.mem_cons.mp hl with rfl | hl
          · -- something is left after this group, so it is full
            have hlt : size < xs.length := by simpa using hrest
            rw [List.length_take]
            omega
          · exact ih.2 l hl

/-- There is no other way to cut a list into groups that are full but for the last. -/
theorem chunks_flatten (hsize : 0 < size) {ls : List (List α)}
    (hls : ∀ l ∈ ls, l ≠ [] ∧ l.length ≤ size) (hfull : ∀ l ∈ ls.dropLast, l.length = size) :
    chunks size ls.flatten = ls := by
  induction ls with
  | nil => exact chunks_nil hsize
  | cons l ls ih =>
      obtain ⟨hne, hle⟩ := hls l List.mem_cons_self
      have htail := fun l' hl' => hls l' (List.mem_cons_of_mem l hl')
      rw [List.flatten_cons, chunks_eq_cons hsize (List.append_ne_nil_of_left_ne_nil hne _)]
      by_cases hnil : ls = []
      · subst hnil
        rw [List.flatten_nil, List.append_nil, List.take_of_length_le hle,
          List.drop_eq_nil_of_le hle, chunks_nil hsize]
      · rw [List.dropLast_cons_of_ne_nil hnil] at hfull
        have hlen := hfull l List.mem_cons_self
        rw [← hlen, List.take_left, List.drop_left, hlen,
          ih htail fun l' hl' => hfull l' (List.mem_cons_of_mem l hl')]

/-! ## Separating -/

theorem joined_nil (hsize : 0 < size) : joined separator size [] = [] := by
  rw [joined, chunks_nil hsize, List.intercalate_nil]

/-- One group is not separated from anything. -/
theorem joined_of_drop_eq_nil (hsize : 0 < size) (hrest : xs.drop size = []) :
    joined separator size xs = xs := by
  by_cases hxs : xs = []
  · rw [hxs, joined_nil hsize]
  · have htake : xs.take size = xs := List.take_of_length_le (List.drop_eq_nil_iff.mp hrest)
    rw [joined, chunks_eq_cons hsize hxs, hrest, chunks_nil hsize, List.intercalate_singleton,
      htake]

theorem joined_of_drop_ne_nil (hsize : 0 < size) (hrest : xs.drop size ≠ []) :
    joined separator size xs =
      xs.take size ++ separator :: joined separator size (xs.drop size) := by
  have hxs : xs ≠ [] := fun h => hrest (by rw [h, List.drop_nil])
  rw [joined, chunks_eq_cons hsize hxs, List.intercalate_cons_of_ne_nil (chunks_ne_nil hsize hrest),
    joined]
  simp

/-- The elements can be read back. -/
theorem filter_joined [DecidableEq α] (hsize : 0 < size) (hsep : separator ∉ xs) :
    (joined separator size xs).filter (· ≠ separator) = xs := by
  induction xs using chunk_induction hsize with
  | nil => rw [joined_nil hsize, List.filter_nil]
  | group xs _ ih =>
      have hself (l : List α) (hl : separator ∉ l) : l.filter (· ≠ separator) = l :=
        List.filter_eq_self.mpr fun a ha =>
          decide_eq_true fun heq : a = separator => hl (heq ▸ ha)
      by_cases hrest : xs.drop size = []
      · rw [joined_of_drop_eq_nil hsize hrest, hself xs hsep]
      · have hdrop := ih fun hmem => hsep (List.mem_of_mem_drop hmem)
        have htake := hself (xs.take size) fun hmem => hsep (List.mem_of_mem_take hmem)
        rw [joined_of_drop_ne_nil hsize hrest, List.filter_append, htake,
          List.filter_cons_of_neg (by simp), hdrop, List.take_append_drop]

theorem mem_of_mem_joined (hsize : 0 < size) {a : α} (ha : a ∈ joined separator size xs) :
    a = separator ∨ a ∈ xs := by
  induction xs using chunk_induction hsize with
  | nil => simp [joined_nil hsize] at ha
  | group xs _ ih =>
      by_cases hrest : xs.drop size = []
      · rw [joined_of_drop_eq_nil hsize hrest] at ha
        exact Or.inr ha
      · rw [joined_of_drop_ne_nil hsize hrest, List.mem_append, List.mem_cons] at ha
        rcases ha with htake | rfl | hdrop
        · exact Or.inr (List.mem_of_mem_take htake)
        · exact Or.inl rfl
        · exact (ih hdrop).imp_right List.mem_of_mem_drop

/-- The text begins with the first element. -/
theorem head?_joined (hsize : 0 < size) (xs : List α) :
    (joined separator size xs).head? = xs.head? := by
  by_cases hrest : xs.drop size = []
  · rw [joined_of_drop_eq_nil hsize hrest]
  · have hxs : xs ≠ [] := fun h => hrest (by rw [h, List.drop_nil])
    obtain ⟨x, rest, rfl⟩ := List.exists_cons_of_ne_nil hxs
    obtain ⟨n, rfl⟩ : ∃ n, size = n + 1 := ⟨size - 1, by omega⟩
    rw [joined_of_drop_ne_nil hsize hrest]
    rfl

/-- The text ends with the last element. -/
theorem getLast?_joined (hsize : 0 < size) (xs : List α) :
    (joined separator size xs).getLast? = xs.getLast? := by
  induction xs using chunk_induction hsize with
  | nil => rw [joined_nil hsize]
  | group xs _ ih =>
      by_cases hrest : xs.drop size = []
      · rw [joined_of_drop_eq_nil hsize hrest]
      · have hlast : (xs.drop size).getLast? ≠ none := by simpa using hrest
        rw [joined_of_drop_ne_nil hsize hrest, List.getLast?_append, List.getLast?_cons, ih]
        conv_rhs => rw [← List.take_append_drop size xs, List.getLast?_append]
        rcases hsome : (xs.drop size).getLast? with _ | a
        · exact absurd hsome hlast
        · rfl

/-! ## Closing every full group -/

theorem closed_nil (hsize : 0 < size) : closed separator size [] = [] := by
  rw [closed, chunks_nil hsize, List.flatMap_nil]

theorem closed_eq_append (hsize : 0 < size) (hxs : xs ≠ []) :
    closed separator size xs =
      (if (xs.take size).length = size then xs.take size ++ [separator] else xs.take size) ++
        closed separator size (xs.drop size) := by
  rw [closed, chunks_eq_cons hsize hxs, List.flatMap_cons, closed]

/-- Closing differs from joining by at most one separator, at the end. -/
theorem closed_eq (hsize : 0 < size) (xs : List α) :
    closed separator size xs = joined separator size xs ∨
      closed separator size xs = joined separator size xs ++ [separator] := by
  induction xs using chunk_induction hsize with
  | nil =>
      rw [closed_nil hsize, joined_nil hsize]
      exact Or.inl rfl
  | group xs hxs ih =>
      rw [closed_eq_append hsize hxs]
      by_cases hrest : xs.drop size = []
      · have htake : xs.take size = xs := List.take_of_length_le (List.drop_eq_nil_iff.mp hrest)
        rw [joined_of_drop_eq_nil hsize hrest, hrest, closed_nil hsize, htake, List.append_nil]
        split_ifs
        · exact Or.inr rfl
        · exact Or.inl rfl
      · have hlt : size < xs.length := by simpa using hrest
        rw [if_pos (by rw [List.length_take]; omega), joined_of_drop_ne_nil hsize hrest]
        rcases ih with heq | heq
        · rw [heq]
          exact Or.inl (by simp)
        · rw [heq]
          exact Or.inr (by simp)

end Chunks
