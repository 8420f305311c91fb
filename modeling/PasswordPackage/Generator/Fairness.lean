import Mathlib.Data.Int.CardIntervalMod
import PasswordPackage.Generator.PasswordCreator

/-!
# How often a character is chosen

Every position takes one word of 32 bits. Here the words that choose a given character are counted:
the last candidate gets none of them, a letter without a place in the tables gets none either, and
the others share what is left over.
-/

namespace PasswordPackage.PasswordCreator

/-! ## A fair choice -/

/-- `0` to `9`. -/
def digits : List Char :=
  ['0', '1', '2', '3', '4', '5', '6', '7', '8', '9']

/-- `A` to `Z`. -/
def upperCase : List Char :=
  ['A', 'B', 'C', 'D', 'E', 'F', 'G', 'H', 'I', 'J', 'K', 'L', 'M', 'N', 'O', 'P', 'Q', 'R', 'S',
    'T', 'U', 'V', 'W', 'X', 'Y', 'Z']

/-- `a` to `z`. -/
def lowerCase : List Char :=
  ['a', 'b', 'c', 'd', 'e', 'f', 'g', 'h', 'i', 'j', 'k', 'l', 'm', 'n', 'o', 'p', 'q', 'r', 's',
    't', 'u', 'v', 'w', 'x', 'y', 'z']

/-- The characters that the options stand for. -/
def fullAlphabet (numberType : PPNumberType) (letterType : PPLetterType) (isOtherCharacter : Bool) :
    List Char :=
  let letters := match letterType with
    | .upLetter => upperCase
    | .lowLetter => lowerCase
    | .upAndLowLetter => upperCase ++ lowerCase
  (if isOtherCharacter then otherCharacter else []) ++
    match numberType with
    | .allNumber => digits
    | .allLetter => letters
    | .numberAndLetter => digits ++ letters

/-- The character at one position of the password. -/
def charAt (length : ℤ) (numberType : PPNumberType) (letterType : PPLetterType)
    (isOtherCharacter : Bool) (arc4random : ℕ → UInt32) (i : ℕ) : Option Char :=
  (createPasswordWithLength length numberType letterType isOtherCharacter arc4random).bind
    fun password => password.toList[i]?

/-- Of the `2 ^ 32` words that the generator may return for position `i`, the number of those that
put `c` there; `draws` are the words for the other positions. -/
def chosenBy (length : ℤ) (numberType : PPNumberType) (letterType : PPLetterType)
    (isOtherCharacter : Bool) (draws : ℕ → UInt32) (i : ℕ) (c : Char) : ℕ :=
  ((Finset.range (2 ^ 32)).filter fun word =>
    charAt length numberType letterType isOtherCharacter
      (Function.update draws i (UInt32.ofNat word)) i = some c).card

/-- The share of one of `n` characters, rounded down or up. -/
def FairShare (n share : ℕ) : Prop :=
  share = 2 ^ 32 / n ∨ share = (2 ^ 32 + n - 1) / n

/-- At every position every character of the full alphabet has its share of the words. -/
def Fair (length : ℤ) (numberType : PPNumberType) (letterType : PPLetterType)
    (isOtherCharacter : Bool) : Prop :=
  ∀ (i : ℕ) (draws : ℕ → UInt32), (i : ℤ) < length →
    ∀ c ∈ fullAlphabet numberType letterType isOtherCharacter,
      FairShare (fullAlphabet numberType letterType isOtherCharacter).length
        (chosenBy length numberType letterType isOtherCharacter draws i c)

/-! ## The share of a candidate -/

/-- The numbers below `N` with a given remainder. -/
theorem card_mod_eq {m : ℕ} (hm : 0 < m) (N k : ℕ) :
    ((Finset.range N).filter fun r => r % m = k).card =
      if k < m then N / m + if k < N % m then 1 else 0 else 0 := by
  split_ifs with hk hextra
  · have hcount := Nat.count_modEq_card N hm k
    rw [Nat.mod_eq_of_lt hk, if_pos hextra, Nat.count_eq_card_filter_range] at hcount
    simpa only [Nat.ModEq, Nat.mod_eq_of_lt hk] using hcount
  · have hcount := Nat.count_modEq_card N hm k
    rw [Nat.mod_eq_of_lt hk, if_neg hextra, Nat.count_eq_card_filter_range] at hcount
    simpa only [Nat.ModEq, Nat.mod_eq_of_lt hk] using hcount
  · rw [Finset.card_eq_zero, Finset.filter_eq_empty_iff]
    rintro r - rfl
    exact hk (Nat.mod_lt r hm)

/-- A character is at one place only of a list without repetitions. -/
theorem getElem?_eq_some_iff_idxOf {candidates : List Char} (hnodup : candidates.Nodup) {j : ℕ}
    (hj : j < candidates.length) {c : Char} :
    candidates[j]? = some c ↔ j = candidates.idxOf c := by
  rw [List.getElem?_eq_getElem hj, Option.some.injEq]
  constructor
  · rintro rfl
    exact (hnodup.idxOf_getElem j hj).symm
  · rintro rfl
    exact List.getElem_idxOf hj

theorem letters_sublist (letterType : PPLetterType) :
    (letters letterType).Sublist (upLetterArray ++ lowLetterArray) := by
  cases letterType with
  | upLetter => exact List.sublist_append_left _ _
  | lowLetter => exact List.sublist_append_right _ _
  | upAndLowLetter => exact List.Sublist.refl _

/-- No character is in two tables. -/
theorem nodup_tempArray (numberType : PPNumberType) (letterType : PPLetterType)
    (isOtherCharacter : Bool) : (tempArray numberType letterType isOtherCharacter).Nodup := by
  have htables : (otherCharacter ++ numberArray ++ (upLetterArray ++ lowLetterArray)).Nodup := by
    decide
  refine htables.sublist ((List.Sublist.append ?_ ?_).append ?_)
  · split_ifs
    · exact List.Sublist.refl _
    · exact List.nil_sublist _
  · split_ifs
    · exact List.Sublist.refl _
    · exact List.nil_sublist _
  · split_ifs
    · exact letters_sublist letterType
    · exact List.nil_sublist _

variable {length : ℤ} {numberType : PPNumberType} {letterType : PPLetterType}
  {isOtherCharacter : Bool}

/-- The character at a position is what the word of that position picks. -/
theorem charAt_eq_pick (arc4random : ℕ → UInt32) {i : ℕ} (hi : (i : ℤ) < length) :
    charAt length numberType letterType isOtherCharacter arc4random i =
      pick (tempArray numberType letterType isOtherCharacter) (arc4random i) := by
  obtain ⟨password, hsome, hmap⟩ := createPasswordWithLength_eq_some length numberType letterType
    isOtherCharacter arc4random
  have hlt : i < length.toNat := by omega
  have hget := congrArg (fun l => l[i]?) hmap
  rw [charAt, hsome, Option.bind_some]
  simp only [List.getElem?_map, List.getElem?_range hlt, Option.map_some] at hget
  obtain ⟨c, hc, heq⟩ := Option.map_eq_some_iff.mp hget
  rw [hc, heq]

/-- The words that choose a character: as many as there are of its index as a remainder modulo one
less than the number of candidates. None choose the last candidate, or a character that is not one.
-/
theorem chosenBy_eq {candidates : List Char}
    (hcandidates : tempArray numberType letterType isOtherCharacter = candidates)
    (draws : ℕ → UInt32) {i : ℕ} (hi : (i : ℤ) < length) (c : Char) :
    chosenBy length numberType letterType isOtherCharacter draws i c =
      if candidates.idxOf c < candidates.length - 1 then
        2 ^ 32 / (candidates.length - 1) +
          if candidates.idxOf c < 2 ^ 32 % (candidates.length - 1) then 1 else 0
      else 0 := by
  have hnodup := nodup_tempArray numberType letterType isOtherCharacter
  have hten := ten_le_length_tempArray numberType letterType isOtherCharacter
  rw [hcandidates] at hnodup hten
  have hpos : 0 < candidates.length - 1 := by omega
  rw [← card_mod_eq hpos]
  refine congrArg Finset.card (Finset.filter_congr fun word hword => ?_)
  have hlt := Nat.mod_lt word hpos
  rw [charAt_eq_pick _ hi, Function.update_self, pick, hcandidates,
    UInt32.toNat_ofNat_of_lt' (Finset.mem_range.mp hword)]
  exact getElem?_eq_some_iff_idxOf hnodup (by omega)

/-- The characters that are never chosen are those that are not among the candidates before the
last. -/
theorem chosenBy_eq_zero_iff (draws : ℕ → UInt32) {i : ℕ} (hi : (i : ℤ) < length) (c : Char) :
    chosenBy length numberType letterType isOtherCharacter draws i c = 0 ↔
      c ∉ (tempArray numberType letterType isOtherCharacter).dropLast := by
  have hshare : 0 < 2 ^ 32 / ((tempArray numberType letterType isOtherCharacter).length - 1) := by
    cases numberType <;> cases letterType <;> cases isOtherCharacter <;> decide
  rw [chosenBy_eq rfl draws hi]
  by_cases hc : c ∈ tempArray numberType letterType isOtherCharacter
  · rw [List.mem_dropLast_iff_idxOf_lt hc]
    split_ifs with hidx
    · exact iff_of_false not_false (not_not.mpr hidx)
    · exact iff_of_false (Nat.add_pos_left hshare 0).ne' (not_not.mpr hidx)
    · exact iff_of_true rfl hidx
  · have hnot : c ∉ (tempArray numberType letterType isOtherCharacter).dropLast :=
      fun h => hc (List.mem_of_mem_dropLast h)
    rw [List.idxOf_eq_length_iff.mpr hc, if_neg (by omega)]
    exact iff_of_true rfl hnot

/-- No character of the full alphabet has its share: the candidates before the last have more, and
the others have none. -/
theorem not_fairShare (draws : ℕ → UInt32) {i : ℕ} (hi : (i : ℤ) < length) (c : Char) :
    ¬ FairShare (fullAlphabet numberType letterType isOtherCharacter).length
      (chosenBy length numberType letterType isOtherCharacter draws i c) := by
  have hmore : (2 ^ 32 + (fullAlphabet numberType letterType isOtherCharacter).length - 1) /
        (fullAlphabet numberType letterType isOtherCharacter).length <
      2 ^ 32 / ((tempArray numberType letterType isOtherCharacter).length - 1) := by
    cases numberType <;> cases letterType <;> cases isOtherCharacter <;> decide
  have hsome : 0 < 2 ^ 32 / (fullAlphabet numberType letterType isOtherCharacter).length := by
    cases numberType <;> cases letterType <;> cases isOtherCharacter <;> decide
  have hpos : 0 < (fullAlphabet numberType letterType isOtherCharacter).length := by
    by_contra hzero
    rw [Nat.eq_zero_of_not_pos hzero, Nat.div_zero] at hsome
    exact Nat.lt_irrefl 0 hsome
  have hround : 2 ^ 32 / (fullAlphabet numberType letterType isOtherCharacter).length ≤
      (2 ^ 32 + (fullAlphabet numberType letterType isOtherCharacter).length - 1) /
        (fullAlphabet numberType letterType isOtherCharacter).length :=
    Nat.div_le_div_right (by omega)
  rw [chosenBy_eq rfl draws hi]
  unfold FairShare
  split_ifs <;> omega

/-- The choice is fair only when there is no position to choose for. -/
theorem fair_iff (length : ℤ) (numberType : PPNumberType) (letterType : PPLetterType)
    (isOtherCharacter : Bool) :
    Fair length numberType letterType isOtherCharacter ↔ length ≤ 0 := by
  constructor
  · intro h
    by_contra hpos
    have hposition : ((0 : ℕ) : ℤ) < length := by omega
    have hmem : ∃ c, c ∈ fullAlphabet numberType letterType isOtherCharacter := by
      cases numberType <;> cases letterType <;> cases isOtherCharacter <;>
        exact ⟨_, List.mem_cons_self⟩
    obtain ⟨c, hc⟩ := hmem
    exact not_fairShare (fun _ => 0) hposition c (h 0 (fun _ => 0) hposition c hc)
  · intro hlength i draws hi
    omega

/-- A password of one digit is never `9`, and one of upper case letters never `Q`. -/
theorem not_fair_nine :
    ¬ Fair 1 .allNumber .lowLetter false ∧ ¬ Fair 1 .allLetter .upLetter false := by
  have hposition : ((0 : ℕ) : ℤ) < 1 := by omega
  constructor
  · intro h
    have hshare := h 0 (fun _ => 0) hposition '9' (by decide)
    rw [(chosenBy_eq_zero_iff _ hposition '9').mpr (by decide)] at hshare
    exact absurd hshare (by unfold FairShare; decide)
  · intro h
    have hshare := h 0 (fun _ => 0) hposition 'Q' (by decide)
    rw [(chosenBy_eq_zero_iff _ hposition 'Q').mpr (by decide)] at hshare
    exact absurd hshare (by unfold FairShare; decide)

end PasswordPackage.PasswordCreator
