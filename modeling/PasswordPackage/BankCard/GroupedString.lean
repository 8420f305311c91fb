import Mathlib.Algebra.Group.Nat.Defs
import PasswordPackage.Common.Chunks

/-!
# The card number on display

`groupedString:` drops the spaces of a card number, cuts the rest into groups of four and hides
every full group. Lengths and positions count UTF-16 units. The number of groups is computed in
floating point, and every substring is taken under a range check.
-/

namespace PasswordPackage.Utils

open Chunks

/-! ## Strings and ranges -/

/-- An `NSString`, by its UTF-16 units. -/
abbrev NSString := List UInt16

def space : UInt16 := 0x20

def star : UInt16 := 0x2A

/-- The string without the spaces that the search for `@" "` finds. The search is not literal: it
passes over a space that carries a combining mark, so `found` says which positions it reports. -/
def removingSpaces (found : NSString → ℕ → Bool) (string : NSString) : NSString :=
  (string.zipIdx.filter fun (unit, i) => !(unit == space && found string i)).map Prod.fst

/-- `substringFromIndex:`, none for the range exception. -/
def substringFromIndex (string : NSString) (index : ℕ) : Option NSString :=
  if index ≤ string.length then some (string.drop index) else none

/-- `substringWithRange:`, none for the range exception. -/
def substringWithRange (string : NSString) (location length : ℕ) : Option NSString :=
  if location + length ≤ string.length then some ((string.drop location).take length) else none

/-- `stringByReplacingCharactersInRange:withString:`, none for the range exception. -/
def stringByReplacingCharactersInRange (string : NSString) (location length : ℕ)
    (replacement : NSString) : Option NSString :=
  if location + length ≤ string.length then
    some (string.take location ++ replacement ++ string.drop (location + length))
  else none

/-! ## The number of groups -/

/-- The nearest number with that many significant bits, the even one of two. -/
def roundBits (bits n : ℕ) : ℕ :=
  let unit := 2 ^ (n.log2 + 1 - bits)
  let quotient := n / unit
  let remainder := n % unit
  if 2 * remainder < unit ∨ 2 * remainder = unit ∧ quotient % 2 = 0 then quotient * unit
  else (quotient + 1) * unit

/-- `(NSInteger)ceilf((CGFloat)length / 4)`: the length is rounded to a double and its quarter to a
float, which is as good as rounding it twice before it is divided. -/
def groupCount (length : ℕ) : ℕ := (roundBits 24 (roundBits 53 length) + 3) / 4

/-- Few enough bits are not rounded. -/
theorem roundBits_eq_self {bits n : ℕ} (h : n < 2 ^ bits) : roundBits bits n = n := by
  unfold roundBits
  by_cases hn : n = 0
  · simp [hn]
  · have hlog : n.log2 + 1 - bits = 0 := by
      have hlt := (Nat.log2_lt hn).mpr h
      omega
    rw [hlog]
    simp [Nat.mod_one]

theorem groupCount_eq {length : ℕ} (h : length < 2 ^ 24) :
    groupCount length = (length + 3) / 4 := by
  have hdouble : length < 2 ^ 53 := Nat.lt_trans h (by decide)
  rw [groupCount, roundBits_eq_self hdouble, roundBits_eq_self h]

/-- Beyond the bound the last group can be missed. -/
example : groupCount 16777217 = 4194304 := by decide

/-! ## Grouping -/

/-- `@"****"`. -/
def stars : NSString := [star, star, star, star]

/-- One turn of the loop. -/
def component (str : NSString) (i : ℕ) : Option NSString :=
  if i * 4 + 4 > str.length then substringFromIndex str (i * 4)
  else do
    let secureStr ← substringWithRange str (i * 4) 4
    stringByReplacingCharactersInRange secureStr 0 4 stars

/-- `groupedString:`, none if it raises a range exception. -/
def groupedString (found : NSString → ℕ → Bool) (string : NSString) : Option NSString := do
  let str := removingSpaces found string
  let components ← (List.range (groupCount str.length)).mapM (component str)
  return [space].intercalate components

/-! ## What is shown -/

/-- The units after the last full group. -/
def tail (str : NSString) : NSString := str.drop (str.length - str.length % 4)

/-- Every unit of a full group hidden. -/
def secured (str : NSString) : NSString :=
  List.replicate (str.length - str.length % 4) star ++ tail str

/-- What becomes of a group. -/
def shown (group : NSString) : NSString := if group.length = 4 then stars else group

/-- The first group is one of the full ones. -/
theorem length_sub_mod {str : NSString} (h : 4 ≤ str.length) :
    str.length - str.length % 4 =
      4 + ((str.drop 4).length - (str.drop 4).length % 4) := by
  rw [List.length_drop]
  omega

theorem tail_of_lt {str : NSString} (h : str.length < 4) : tail str = str := by
  have hzero : str.length - str.length % 4 = 0 := by omega
  rw [tail, hzero, List.drop_zero]

theorem tail_of_le {str : NSString} (h : 4 ≤ str.length) : tail str = tail (str.drop 4) := by
  rw [tail, tail, length_sub_mod h, List.drop_drop]

theorem secured_of_lt {str : NSString} (h : str.length < 4) : secured str = str := by
  have hzero : str.length - str.length % 4 = 0 := by omega
  rw [secured, tail_of_lt h, hzero, List.replicate_zero, List.nil_append]

theorem secured_of_le {str : NSString} (h : 4 ≤ str.length) :
    secured str = stars ++ secured (str.drop 4) := by
  rw [secured, secured, tail_of_le h, length_sub_mod h, List.replicate_add, List.append_assoc]
  rfl

@[simp] theorem length_secured (str : NSString) : (secured str).length = str.length := by
  rw [secured, tail, List.length_append, List.length_replicate, List.length_drop]
  omega

/-- Hiding group by group hides the whole text. -/
theorem chunks_secured (str : NSString) : chunks 4 (secured str) = (chunks 4 str).map shown := by
  have hfour : 0 < 4 := by decide
  induction str using chunk_induction hfour with
  | nil => rfl
  | group str hstr ih =>
      have hsecured : secured str ≠ [] := by
        rw [← List.length_pos_iff, length_secured]
        exact List.length_pos_iff.mpr hstr
      rw [chunks_eq_cons hfour hstr, chunks_eq_cons hfour hsecured, List.map_cons]
      by_cases hlt : str.length < 4
      · have hdrop : str.drop 4 = [] := List.drop_eq_nil_of_le (by omega)
        have htake : str.take 4 = str := List.take_of_length_le (by omega)
        have hne : str.length ≠ 4 := by omega
        rw [secured_of_lt hlt, hdrop, htake, shown, if_neg hne, chunks_nil hfour]
        rfl
      · have hle : 4 ≤ str.length := by omega
        have hfull : (str.take 4).length = 4 := List.length_take_of_le hle
        rw [secured_of_le hle, shown, if_pos hfull, ← ih]
        rfl

/-! ## What the loop computes -/

/-- No range is out of bounds, and the turn yields its group. -/
theorem component_eq {str : NSString} {i : ℕ} (hi : i < (str.length + 3) / 4) :
    component str i = some (shown ((str.drop (i * 4)).take 4)) := by
  unfold component
  by_cases hlast : i * 4 + 4 > str.length
  · have hshort : (str.drop (i * 4)).length < 4 := by
      rw [List.length_drop]
      omega
    have hne : ((str.drop (i * 4)).take 4).length ≠ 4 := by
      rw [List.length_take]
      omega
    rw [if_pos hlast, substringFromIndex, if_pos (by omega), shown, if_neg hne,
      List.take_of_length_le (by omega)]
  · have hfull : ((str.drop (i * 4)).take 4).length = 4 := by
      rw [List.length_take, List.length_drop]
      omega
    rw [if_neg hlast, substringWithRange, if_pos (by omega), shown, if_pos hfull]
    simp [stringByReplacingCharactersInRange, hfull]

theorem mapM_eq_some {α β : Type*} {f : α → Option β} {g : α → β} {xs : List α}
    (h : ∀ x ∈ xs, f x = some (g x)) : xs.mapM f = some (xs.map g) := by
  induction xs with
  | nil => rfl
  | cons x xs ih =>
      have hrest := ih fun y hy => h y (List.mem_cons_of_mem x hy)
      rw [List.mapM_cons, h x List.mem_cons_self, hrest]
      rfl

theorem length_removingSpaces_le (found : NSString → ℕ → Bool) (string : NSString) :
    (removingSpaces found string).length ≤ string.length := by
  calc (removingSpaces found string).length
      ≤ string.zipIdx.length := by
        rw [removingSpaces, List.length_map]
        exact List.length_filter_le _ _
    _ = string.length := List.length_zipIdx

/-- The result is the secured text in groups of four. -/
theorem groupedString_eq (found : NSString → ℕ → Bool) {string : NSString}
    (hlen : string.length < 2 ^ 24) :
    groupedString found string = some (joined space 4 (secured (removingSpaces found string))) := by
  have hcount := groupCount_eq
    (Nat.lt_of_le_of_lt (length_removingSpaces_le found string) hlen)
  unfold groupedString
  dsimp only
  generalize removingSpaces found string = str at hcount ⊢
  have hloop : (List.range ((str.length + 3) / 4)).mapM (component str) =
      some ((List.range ((str.length + 3) / 4)).map fun i =>
        shown ((str.drop (i * 4)).take 4)) :=
    mapM_eq_some fun i hi => component_eq (List.mem_range.mp hi)
  have hgroups : chunks 4 (secured str) =
      (List.range ((str.length + 3) / 4)).map fun i => shown ((str.drop (i * 4)).take 4) := by
    rw [chunks_secured, chunks, List.map_map]
    rfl
  rw [hcount, hloop, joined, hgroups]
  rfl

/-! ## Masking -/

/-- Groups of four between single spaces, of which only the last may be shorter: it is the tail of
the string, and every other one is hidden. -/
def IsMasked (str output : NSString) : Prop :=
  ∃ groups : List NSString, output = [space].intercalate groups ∧
    groups.flatten.length = str.length ∧
    (∀ group ∈ groups, group ≠ [] ∧ group.length ≤ 4) ∧
    (∀ group ∈ groups.dropLast, group.length = 4) ∧
    ∀ group ∈ groups, group = if group.length = 4 then stars else tail str

/-- The number of units that are not spaces. -/
def nonSpaceLength (string : NSString) : ℕ := (string.filter (· ≠ space)).length

theorem eq_tail_of_mem_chunks {str group : NSString} (hgroup : group ∈ chunks 4 str)
    (hshort : group.length ≠ 4) : group = tail str := by
  have hfour : 0 < 4 := by decide
  induction str using chunk_induction hfour with
  | nil => simp [chunks_nil hfour] at hgroup
  | group str hstr ih =>
      rw [chunks_eq_cons hfour hstr, List.mem_cons] at hgroup
      by_cases hlt : str.length < 4
      · have hdrop : str.drop 4 = [] := List.drop_eq_nil_of_le (by omega)
        rw [hdrop, chunks_nil hfour, List.take_of_length_le (by omega)] at hgroup
        rw [tail_of_lt hlt]
        simpa using hgroup
      · have hle : 4 ≤ str.length := by omega
        rw [tail_of_le hle]
        apply ih
        apply hgroup.resolve_left
        intro heq
        exact hshort (heq ▸ List.length_take_of_le hle)

theorem isMasked_joined_secured (str : NSString) :
    IsMasked str (joined space 4 (secured str)) := by
  have hfour : 0 < 4 := by decide
  obtain ⟨hgroups, hfull⟩ := length_of_mem_chunks hfour (secured str)
  refine ⟨chunks 4 (secured str), rfl, ?_, hgroups, hfull, ?_⟩
  · rw [flatten_chunks hfour, length_secured]
  · rw [chunks_secured]
    intro group hgroup
    obtain ⟨group', hgroup', rfl⟩ := List.mem_map.mp hgroup
    by_cases hlen : group'.length = 4
    · rw [shown, if_pos hlen]
      rfl
    · rw [shown, if_neg hlen, if_neg hlen]
      exact eq_tail_of_mem_chunks hgroup' hlen

/-- Only spaces are removed. -/
theorem filter_removingSpaces (found : NSString → ℕ → Bool) (string : NSString) :
    (removingSpaces found string).filter (· ≠ space) = string.filter (· ≠ space) := by
  rw [removingSpaces, List.filter_map, List.filter_filter]
  have hkept : ∀ entry ∈ string.zipIdx,
      (((fun unit => decide (unit ≠ space)) ∘ Prod.fst) entry &&
          !(entry.1 == space && found string entry.2)) =
        ((fun unit => decide (unit ≠ space)) ∘ Prod.fst) entry := by
    rintro ⟨unit, i⟩ -
    by_cases hunit : unit = space <;> simp [hunit]
  rw [List.filter_congr hkept, ← List.filter_map, List.zipIdx_map_fst]

theorem nonSpaceLength_joined_secured {str : NSString} (hstr : space ∉ str) :
    nonSpaceLength (joined space 4 (secured str)) = str.length := by
  have hsecured : space ∉ secured str := by
    intro hmem
    rcases List.mem_append.mp hmem with hstar | htail
    · exact absurd (List.eq_of_mem_replicate hstar) (by decide)
    · exact hstr (List.mem_of_mem_drop htail)
  rw [nonSpaceLength, filter_joined (by decide) hsecured, length_secured]

/-- The output is the masked card number. It has as many units that are not spaces as the input, and
it is the same for every input with the same length and the same tail. -/
theorem groupedString_masks (found : NSString → ℕ → Bool) (string : NSString)
    (hlen : string.length < 2 ^ 24) :
    ∃ output, groupedString found string = some output ∧
      IsMasked (removingSpaces found string) output ∧
      (space ∉ removingSpaces found string → nonSpaceLength output = nonSpaceLength string) ∧
      ∀ other : NSString, other.length < 2 ^ 24 →
        (removingSpaces found other).length = (removingSpaces found string).length →
        tail (removingSpaces found other) = tail (removingSpaces found string) →
          groupedString found other = some output := by
  refine ⟨_, groupedString_eq found hlen, isMasked_joined_secured _, ?_, ?_⟩
  · intro hspace
    have hself : (removingSpaces found string).filter (· ≠ space) = removingSpaces found string :=
      List.filter_eq_self.mpr fun unit hunit =>
        decide_eq_true fun heq : unit = space => hspace (heq ▸ hunit)
    rw [nonSpaceLength_joined_secured hspace, nonSpaceLength, ← filter_removingSpaces found, hself]
  · intro other hother hlength htail
    rw [groupedString_eq found hother, secured, hlength, htail, ← secured]

/-- The units of a text without surrogates. -/
def utf16 (text : String) : NSString := text.toList.map fun c => c.toNat.toUInt16

theorem groupedString_masks_6222 :
    (utf16 "6222 0212 34").length < 2 ^ 24 ∧
      ∃ output, groupedString (fun _ _ => true) (utf16 "6222 0212 34") = some output ∧
        IsMasked (removingSpaces (fun _ _ => true) (utf16 "6222 0212 34")) output ∧
        (space ∉ removingSpaces (fun _ _ => true) (utf16 "6222 0212 34") →
          nonSpaceLength output = nonSpaceLength (utf16 "6222 0212 34")) ∧
        ∀ other : NSString, other.length < 2 ^ 24 →
          (removingSpaces (fun _ _ => true) other).length =
              (removingSpaces (fun _ _ => true) (utf16 "6222 0212 34")).length →
            tail (removingSpaces (fun _ _ => true) other) =
                tail (removingSpaces (fun _ _ => true) (utf16 "6222 0212 34")) →
              groupedString (fun _ _ => true) other = some output :=
  ⟨by decide, groupedString_masks (fun _ _ => true) (utf16 "6222 0212 34") (by decide)⟩

example : groupedString (fun _ _ => true) (utf16 "6222 0212 34") = some (utf16 "**** **** 34") := by
  decide

end PasswordPackage.Utils
