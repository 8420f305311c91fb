import PasswordPackage.Data.Schema

/-!
# What the lists show of the tables

`getAllWebsite` and `getAllBackCard` leave out the rows that cannot be imported, and import the
integers through an accessor of 32 bits and a key mapper. Neither loss is reported.
-/

namespace PasswordPackage.DataManager

open FMDB KeyedTable

/-! ## Rows -/

/-- The column holds text or a number, or a blob that is text up to its first zero byte. -/
def Readable (result : Row) (name : String) : Prop :=
  ∃ value, column result name = some value ∧ value ≠ .null ∧
    ∀ data, value = .blob data → (blobToText data).isSome = true

theorem readable_iff {result : Row} {name : String} :
    Readable result name ↔ (stringForColumn result name).isSome = true := by
  cases hcolumn : column result name with
  | none => simp [Readable, stringForColumn, hcolumn]
  | some value =>
      rw [stringForColumn_of_column hcolumn]
      cases value <;> simp [Readable, SqlValue.string, hcolumn]

theorem isSome_websiteFromResult_iff {result : Row} :
    (websiteFromResult result).isSome = true ↔
      Readable result "account" ∧ Readable result "password" := by
  rw [websiteFromResult_eq, readable_iff, readable_iff]
  cases stringForColumn result "account" <;> simp

theorem isSome_backcardFromResult_iff {result : Row} :
    (backcardFromResult result).isSome = true ↔
      Readable result "account" ∧ Readable result "password" ∧ Readable result "logoImageUrl" := by
  rw [backcardFromResult_eq, readable_iff, readable_iff, readable_iff]
  cases stringForColumn result "account" <;> cases stringForColumn result "password" <;> simp

variable {E : Engine Row}

/-- The lists have one model for each row. -/
def DropsNothing (db : Database E) : Prop :=
  (getAllWebsite db.website).length = (E.rows db.website).length ∧
    (getAllBackCard db.bankcard).length = (E.rows db.bankcard).length

/-- A nil field is bound to null, and null is the only bound value without a text. -/
theorem isSome_string_bindObject {s : Option String} :
    (bindObject (s.map .string)).string.isSome = true ↔ s ≠ none := by
  cases s <;> simp [bindObject, SqlValue.string]

/-- An inserted website is listed exactly when its model has an account and a password. -/
theorem isSome_insertedWebsite_iff {model : PPWebsiteModel} {cTime id : ℤ} :
    (websiteFromResult (resultSet id (insertedWebsite model cTime).row)).isSome = true ↔
      model.account ≠ none ∧ model.password ≠ none := by
  rw [websiteFromResult_row, ← isSome_string_bindObject, ← isSome_string_bindObject]
  show (Option.bind (bindObject (model.account.map .string)).string _).isSome = true ↔ _
  cases (bindObject (model.account.map .string)).string <;> simp [insertedWebsite]

/-- An inserted bank card is listed exactly when its model has an account, a password and a logo
address. -/
theorem isSome_insertedBankCard_iff {model : PPBankCardModel} {cTime id : ℤ} :
    (backcardFromResult (resultSet id (insertedBankCard model cTime).row)).isSome = true ↔
      model.account ≠ none ∧ model.password ≠ none ∧ model.logoImageUrl ≠ none := by
  rw [backcardFromResult_row, ← isSome_string_bindObject, ← isSome_string_bindObject,
    ← isSome_string_bindObject]
  show (Option.bind (bindObject (model.account.map .string)).string fun _ =>
    Option.bind (bindObject (model.password.map .string)).string _).isSome = true ↔ _
  cases (bindObject (model.account.map .string)).string <;>
    cases (bindObject (model.password.map .string)).string <;> simp [insertedBankCard]

/-- A card entered without a logo. -/
def cardWithoutLogo : PPBankCardModel where
  aId := none
  frontImg := none
  backImg := none
  type := 0
  expireDate := some "12/30"
  account := some "6222 0000"
  password := some "123456"
  cvvCode := some ""
  pin := some ""
  describe := some ""
  logoImageUrl := none
  cTime := 0

/-- A stored website comes back with its id and its creation time. -/
def WebsiteIntegersSurvive (id ctime : ℤ) : Prop :=
  ∀ (cells : WebsiteCells) (model : PPWebsiteModel), cells.ctime = .integer ctime →
    websiteFromResult (resultSet id cells.row) = some model →
      model.aId = some id ∧ model.cTime = ctime

/-- A stored bank card comes back with its id and its creation time. -/
def BankCardIntegersSurvive (id ctime : ℤ) : Prop :=
  ∀ (cells : BankCardCells) (model : PPBankCardModel), cells.ctime = .integer ctime →
    backcardFromResult (resultSet id cells.row) = some model →
      model.aId = some id ∧ model.cTime = ctime

/-- A website of which only the required columns are filled. -/
def plainWebsite (ctime : ℤ) : WebsiteCells where
  iconImg := .null
  title := .null
  account := .text "me"
  password := .text "secret"
  link := .null
  describe := .null
  ctime := .integer ctime

/-- A bank card of which only the required columns are filled. -/
def plainBankCard (ctime : ℤ) : BankCardCells where
  frontImg := .null
  type := .null
  expireDate := .null
  account := .text "6222 0000"
  password := .text "123456"
  cvvCode := .null
  pin := .null
  describe := .null
  logoImageUrl := .text ""
  ctime := .integer ctime

/-- Both integers of a website pass through the accessor of 32 bits. -/
theorem websiteIntegersSurvive_iff {id ctime : ℤ} :
    WebsiteIntegersSurvive id ctime ↔ InInt32 id ∧ InInt32 ctime := by
  rw [← bmod_eq_self_iff, ← bmod_eq_self_iff]
  constructor
  · intro h
    have hread := h (plainWebsite ctime) ((plainWebsite ctime).model id _ _) rfl
      (websiteFromResult_row id (plainWebsite ctime))
    exact ⟨Option.some.inj hread.1, hread.2⟩
  · rintro ⟨hid, hctime⟩ cells model hcells hread
    rw [websiteFromResult_row] at hread
    obtain ⟨account, -, hread⟩ := Option.bind_eq_some_iff.mp hread
    obtain ⟨password, -, rfl⟩ := Option.map_eq_some_iff.mp hread
    refine ⟨congrArg some hid, ?_⟩
    show cells.ctime.int = ctime
    rw [hcells]
    exact hctime

/-- The id of a bank card passes through the accessor of 32 bits, and its creation time is left at
zero: it is put into the dictionary under a key the key mapper does not read. -/
theorem bankCardIntegersSurvive_iff {id ctime : ℤ} :
    BankCardIntegersSurvive id ctime ↔ InInt32 id ∧ ctime = 0 := by
  rw [← bmod_eq_self_iff]
  constructor
  · intro h
    have hread := h (plainBankCard ctime) ((plainBankCard ctime).model id _ _ _) rfl
      (backcardFromResult_row id (plainBankCard ctime))
    exact ⟨Option.some.inj hread.1, hread.2.symm⟩
  · rintro ⟨hid, rfl⟩ cells model hcells hread
    rw [backcardFromResult_row] at hread
    obtain ⟨account, -, hread⟩ := Option.bind_eq_some_iff.mp hread
    obtain ⟨password, -, hread⟩ := Option.bind_eq_some_iff.mp hread
    obtain ⟨logoImageUrl, -, rfl⟩ := Option.map_eq_some_iff.mp hread
    exact ⟨congrArg some hid, rfl⟩

/-- Websites lose what does not fit into 32 bits, and bank cards every creation time. -/
theorem integersSurvive_iff (id ctime : ℤ) :
    (WebsiteIntegersSurvive id ctime ↔ InInt32 id ∧ InInt32 ctime) ∧
      (BankCardIntegersSurvive id ctime ↔ InInt32 id ∧ ctime = 0) :=
  ⟨websiteIntegersSurvive_iff, bankCardIntegersSurvive_iff⟩

/-- A bank card of April 2020, and websites of January 2038 and of the id `2 ^ 31`. -/
theorem not_integersSurvive :
    ¬ BankCardIntegersSurvive 1 1586000000 ∧ ¬ WebsiteIntegersSurvive 1 2147483648 ∧
      ¬ WebsiteIntegersSurvive 2147483648 0 := by
  refine ⟨fun h => ?_, fun h => ?_, fun h => ?_⟩
  · have hread := h (plainBankCard 1586000000) _ rfl (backcardFromResult_row 1 _)
    exact absurd hread.2 (by decide)
  · have hread := h (plainWebsite 2147483648) _ rfl (websiteFromResult_row 1 _)
    exact absurd hread.2 (by decide)
  · have hread := h (plainWebsite 0) _ rfl (websiteFromResult_row 2147483648 _)
    exact absurd hread.1 (by decide)

end PasswordPackage.DataManager
