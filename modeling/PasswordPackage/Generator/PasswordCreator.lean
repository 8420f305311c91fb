import Mathlib.Data.Int.Notation
import Mathlib.Data.List.Basic

/-!
# The password creator

Every character of a new password is picked from a list that depends on the options only. The index
is a random number reduced modulo one less than the number of candidates.
-/

namespace PasswordPackage.PasswordCreator

inductive PPNumberType where
  | allNumber
  | allLetter
  | numberAndLetter
deriving DecidableEq

inductive PPLetterType where
  | upLetter
  | lowLetter
  | upAndLowLetter
deriving DecidableEq

def numberArray : List Char :=
  ['0', '1', '2', '3', '4', '5', '6', '7', '8', '9']

def lowLetterArray : List Char :=
  ['a', 'b', 'c', 'd', 'e', 'f', 'g', 'h', 'i', 'j', 'k', 'l', 'm', 'n', 'o', 'p', 'q', 'r', 's',
    't', 'u', 'v', 'w', 'x', 'y', 'z']

/-- There is no `Q`. -/
def upLetterArray : List Char :=
  ['A', 'B', 'C', 'D', 'E', 'F', 'G', 'H', 'I', 'J', 'K', 'L', 'M', 'N', 'O', 'P', 'R', 'S', 'T',
    'U', 'V', 'W', 'X', 'Y', 'Z']

def otherCharacter : List Char :=
  ['!', '#', '$', '%', '&', '\'', '+', '*', ',', '-', '.', '/', ':', ';', '<', '>', '=', '?', '@',
    '[', ']', '^', '_', '{', '}', '~']

/-- The letters an option asks for. -/
def letters : PPLetterType → List Char
  | .upLetter => upLetterArray
  | .lowLetter => lowLetterArray
  | .upAndLowLetter => upLetterArray ++ lowLetterArray

/-- `tempArray`: the candidates, as every turn of the loop collects them. -/
def tempArray (numberType : PPNumberType) (letterType : PPLetterType) (isOtherCharacter : Bool) :
    List Char :=
  (if isOtherCharacter then otherCharacter else []) ++
    (if numberType = .allNumber ∨ numberType = .numberAndLetter then numberArray else []) ++
    (if numberType = .allLetter ∨ numberType = .numberAndLetter then letters letterType else [])

/-- `tempArray[arc4random() % (count - 1)]`, `none` for an index out of range. -/
def pick (candidates : List Char) (arc4random : UInt32) : Option Char :=
  candidates[arc4random.toNat % (candidates.length - 1)]?

/-- `createPasswordWithLength:numberType:letterType:isOtherCharacter:`. The stream gives the random
number of each turn. -/
def createPasswordWithLength (length : ℤ) (numberType : PPNumberType) (letterType : PPLetterType)
    (isOtherCharacter : Bool) (arc4random : ℕ → UInt32) : Option String :=
  if length = 0 then some ""
  else
    ((List.range length.toNat).mapM fun i =>
      pick (tempArray numberType letterType isOtherCharacter) (arc4random i)).map String.ofList

/-! ## What a password consists of -/

theorem ten_le_length_tempArray (numberType : PPNumberType) (letterType : PPLetterType)
    (isOtherCharacter : Bool) :
    10 ≤ (tempArray numberType letterType isOtherCharacter).length := by
  cases numberType <;> cases letterType <;> cases isOtherCharacter <;> decide

/-- The candidate a random number stands for. -/
theorem pick_eq_some {candidates : List Char} (h : 2 ≤ candidates.length) (r : UInt32) :
    pick candidates r = some (candidates.get
      ⟨r.toNat % (candidates.length - 1), by
        have hlt := Nat.mod_lt r.toNat (show 0 < candidates.length - 1 by omega)
        omega⟩) := by
  rw [pick, List.getElem?_eq_getElem]
  rfl

/-- The creator never fails: its password has the length asked for, and every character is what its
random number picks. -/
theorem createPasswordWithLength_eq_some (length : ℤ) (numberType : PPNumberType)
    (letterType : PPLetterType) (isOtherCharacter : Bool) (arc4random : ℕ → UInt32) :
    ∃ password, createPasswordWithLength length numberType letterType isOtherCharacter arc4random =
        some password ∧
      password.toList.map some = (List.range length.toNat).map fun i =>
        pick (tempArray numberType letterType isOtherCharacter) (arc4random i) := by
  have hlen : 2 ≤ (tempArray numberType letterType isOtherCharacter).length := by
    have hten := ten_le_length_tempArray numberType letterType isOtherCharacter
    omega
  unfold createPasswordWithLength
  split_ifs with hzero
  · exact ⟨"", rfl, by simp [hzero]⟩
  · simp only [pick_eq_some hlen]
    refine ⟨_, congrArg (Option.map String.ofList) List.mapM_pure, ?_⟩
    simp

/-- Every character is a candidate. -/
theorem mem_tempArray_of_mem {length : ℤ} {numberType : PPNumberType} {letterType : PPLetterType}
    {isOtherCharacter : Bool} {arc4random : ℕ → UInt32} {password : String}
    (h : createPasswordWithLength length numberType letterType isOtherCharacter arc4random =
      some password) {c : Char} (hc : c ∈ password.toList) :
    c ∈ tempArray numberType letterType isOtherCharacter := by
  obtain ⟨password', hsome, hmap⟩ := createPasswordWithLength_eq_some length numberType letterType
    isOtherCharacter arc4random
  obtain rfl := Option.some.inj (h.symm.trans hsome)
  have hpicked : some c ∈ password.toList.map some := List.mem_map_of_mem hc
  rw [hmap] at hpicked
  obtain ⟨i, -, hi⟩ := List.mem_map.mp hpicked
  exact List.mem_of_getElem? hi

/-- Every candidate but the last is in some password of positive length. -/
theorem exists_mem_password {length : ℤ} (hlength : 0 < length) (numberType : PPNumberType)
    (letterType : PPLetterType) (isOtherCharacter : Bool) {r : UInt32} {c : Char}
    (hc : pick (tempArray numberType letterType isOtherCharacter) r = some c) :
    ∃ password, createPasswordWithLength length numberType letterType isOtherCharacter
        (fun _ => r) = some password ∧ c ∈ password.toList := by
  obtain ⟨password, hsome, hmap⟩ := createPasswordWithLength_eq_some length numberType letterType
    isOtherCharacter fun _ => r
  refine ⟨password, hsome, ?_⟩
  have hpicked : some c ∈ password.toList.map some := by
    rw [hmap, ← hc]
    exact List.mem_map.mpr ⟨0, List.mem_range.mpr (by omega), rfl⟩
  obtain ⟨c', hc', heq⟩ := List.mem_map.mp hpicked
  exact Option.some.inj heq ▸ hc'

end PasswordPackage.PasswordCreator
