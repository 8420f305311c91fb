import Mathlib.Algebra.Group.Nat.Defs
import Mathlib.Data.Int.Notation
import Mathlib.Data.Int.DivMod
import Mathlib.Data.List.TakeWhile
import PasswordPackage.Common.KeyedTable

/-!
# Rows, as FMDB writes and reads them

`executeUpdate:` binds one object to each placeholder. Text is bound as a C string, so it ends at
the first zero character. A result set finds a column by its name, whatever the case, and reads it
with the accessor the caller asks for: an integer is cut down to 32 bits, and an empty blob reads as
nil.
-/

namespace PasswordPackage.FMDB

/-! ## Values -/

abbrev NSData := List UInt8

/-- What a column of a row holds. -/
inductive SqlValue where
  | null
  | integer (value : ℤ)
  | text (value : String)
  | blob (value : NSData)
deriving DecidableEq

/-- The objects the app binds. -/
inductive NSObject where
  | number (value : ℤ)
  | string (value : String)
  | data (value : NSData)
deriving DecidableEq

/-- The part of a string that a C string of it keeps. -/
def cString (s : String) : String :=
  String.ofList (s.toList.takeWhile fun c => c ≠ Char.ofNat 0)

/-- `bindObject:toColumn:inStatement:`. -/
def bindObject : Option NSObject → SqlValue
  | none => .null
  | some (.number n) => .integer (n.bmod (2 ^ 64))
  | some (.string s) => .text (cString s)
  | some (.data d) => .blob d

/-! ## Rows -/

/-- The named columns of a row, without its key. -/
abbrev Row := List (String × SqlValue)

/-- A new row: the listed columns get their arguments, the others are null. -/
def newRow (columns names : List String) (arguments : List (Option NSObject)) : Row :=
  columns.map fun column =>
    (column, ((names.zip (arguments.map bindObject)).lookup column).getD .null)

/-- `SET name = ?, ...`: the listed columns get their arguments, the others stay. -/
def setColumns (names : List String) (arguments : List (Option NSObject)) (row : Row) : Row :=
  row.map fun (column, value) =>
    (column, ((names.zip (arguments.map bindObject)).lookup column).getD value)

/-! ## Result sets -/

/-- One row of `SELECT *`, its key first. -/
def resultSet (id : ℤ) (row : Row) : Row :=
  ("id", .integer id) :: row

/-- `lowercaseString`, for the column names of the schema. -/
def lowercaseString (s : String) : String :=
  String.ofList (s.toList.map Char.toLower)

/-- The value under `columnIndexForName:`. Among columns of one name the last is found. -/
def column (result : Row) (name : String) : Option SqlValue :=
  (result.map fun (column, value) => (lowercaseString column, value)).reverse.lookup
    (lowercaseString name)

/-- Text as an integer: the digits it starts with, after blanks and a sign, or the nearest number of
64 bits. -/
def textToInteger (s : String) : ℤ :=
  let cs := s.toList.dropWhile fun c => c = ' ' ∨ (9 ≤ c.toNat ∧ c.toNat ≤ 13)
  let (sign, cs) : ℤ × List Char :=
    match cs with
    | '-' :: rest => (-1, rest)
    | '+' :: rest => (1, rest)
    | _ => (1, cs)
  let value := sign * ((cs.takeWhile Char.isDigit).foldl (fun n c => 10 * n + (c.toNat - 48)) 0 : ℕ)
  max (-2 ^ 63) (min value (2 ^ 63 - 1))

/-- The text of a blob, up to its first zero byte. -/
def blobToText (data : NSData) : Option String :=
  String.fromUTF8? ⟨(data.takeWhile fun byte => byte ≠ 0).toArray⟩

/-- `intForColumn:`. -/
def intForColumn (result : Row) (name : String) : ℤ :=
  match column result name with
  | some (.integer n) => n.bmod (2 ^ 32)
  | some (.text s) => (textToInteger s).bmod (2 ^ 32)
  | some (.blob d) => (textToInteger ((blobToText d).getD "")).bmod (2 ^ 32)
  | some .null | none => 0

/-- `stringForColumn:`. -/
def stringForColumn (result : Row) (name : String) : Option String :=
  match column result name with
  | some (.text s) => some (cString s)
  | some (.integer n) => some (toString n)
  | some (.blob d) => blobToText d
  | some .null | none => none

/-- `dataForColumn:`. -/
def dataForColumn (result : Row) (name : String) : Option NSData :=
  match column result name with
  | some (.blob d) => if d = [] then none else some d
  | some (.text s) => if s = "" then none else some s.toUTF8.toList
  | some (.integer n) => some (toString n).toUTF8.toList
  | some .null | none => none

/-! ## What survives the round trip -/

/-- No zero character. -/
def NoNul (s : String) : Prop :=
  Char.ofNat 0 ∉ s.toList

theorem cString_eq_self {s : String} (h : NoNul s) : cString s = s := by
  have hkeep : s.toList.takeWhile (fun c => c ≠ Char.ofNat 0) = s.toList :=
    List.takeWhile_eq_self_iff.mpr fun c hc => by
      simpa using fun heq : c = Char.ofNat 0 => h (heq ▸ hc)
  rw [cString, hkeep, String.ofList_toList]

theorem stringForColumn_of_bound {result : Row} {name : String} {s : Option String}
    (h : column result name = some (bindObject (s.map .string))) (hs : ∀ t ∈ s, NoNul t) :
    stringForColumn result name = s := by
  unfold stringForColumn
  rw [h]
  cases s with
  | none => rfl
  | some t =>
      have ht := cString_eq_self (hs t rfl)
      simp only [Option.map_some, bindObject, ht]

theorem dataForColumn_of_bound {result : Row} {name : String} {d : Option NSData}
    (h : column result name = some (bindObject (d.map .data))) (hd : d ≠ some []) :
    dataForColumn result name = d := by
  unfold dataForColumn
  rw [h]
  cases d with
  | none => rfl
  | some bytes =>
      have hne : bytes ≠ [] := fun hempty => hd (by rw [hempty])
      simp only [Option.map_some, bindObject, if_neg hne]

/-- Integers that fit into 31 bits are read as they were written. -/
theorem bmod_eq_self {n : ℤ} (hlow : 0 ≤ n) (hhigh : n < 2 ^ 31) :
    n.bmod (2 ^ 32) = n ∧ n.bmod (2 ^ 64) = n := by
  constructor
  · rw [Int.bmod_eq_of_le_mul_two] <;> omega
  · rw [Int.bmod_eq_of_le_mul_two] <;> omega

theorem intForColumn_of_integer {result : Row} {name : String} {n : ℤ}
    (h : column result name = some (.integer n)) (hlow : 0 ≤ n) (hhigh : n < 2 ^ 31) :
    intForColumn result name = n := by
  unfold intForColumn
  rw [h]
  exact (bmod_eq_self hlow hhigh).1

end PasswordPackage.FMDB
