import PasswordPackage.Common.Run
import PasswordPackage.Data.Refinement

/-!
# Rows of the two schemas

`openDB` fixes the columns of both tables, not what they hold: any column of any row may be null,
and a restored file may hold anything. Here rows are given by their cells, and the two decoders are
put in closed form: which cells they need, and what they make of the others.
-/

namespace PasswordPackage

open FMDB KeyedTable

/-! ## Reading one cell -/

namespace FMDB

/-- What `stringForColumn:` makes of a cell. -/
def SqlValue.string : SqlValue → Option String
  | .text s => some (cString s)
  | .integer n => some (toString n)
  | .blob d => blobToText d
  | .null => none

/-- What `intForColumn:` makes of a cell. -/
def SqlValue.int : SqlValue → ℤ
  | .integer n => n.bmod (2 ^ 32)
  | .text s => (textToInteger s).bmod (2 ^ 32)
  | .blob d => (textToInteger ((blobToText d).getD "")).bmod (2 ^ 32)
  | .null => 0

/-- What `dataForColumn:` makes of a cell. -/
def SqlValue.data : SqlValue → Option NSData
  | .blob d => if d = [] then none else some d
  | .text s => if s = "" then none else some s.toUTF8.toList
  | .integer n => some (toString n).toUTF8.toList
  | .null => none

variable {result : Row} {name : String} {value : SqlValue}

theorem stringForColumn_of_column (h : column result name = some value) :
    stringForColumn result name = value.string := by
  unfold stringForColumn
  rw [h]
  cases value <;> rfl

theorem intForColumn_of_column (h : column result name = some value) :
    intForColumn result name = value.int := by
  unfold intForColumn
  rw [h]
  cases value <;> rfl

theorem dataForColumn_of_column (h : column result name = some value) :
    dataForColumn result name = value.data := by
  unfold dataForColumn
  rw [h]
  cases value <;> rfl

/-- The integers that `intForColumn:` reads as they are. -/
def InInt32 (n : ℤ) : Prop :=
  -2 ^ 31 ≤ n ∧ n < 2 ^ 31

theorem bmod_eq_self_iff {n : ℤ} : n.bmod (2 ^ 32) = n ↔ InInt32 n := by
  have hlow := Int.le_bmod (x := n) (m := 2 ^ 32) (by decide)
  have hhigh := Int.bmod_lt (x := n) (m := 2 ^ 32) (by decide)
  unfold InInt32
  constructor
  · intro h
    omega
  · intro h
    rw [Int.bmod_eq_of_le_mul_two] <;> omega

/-! ## Binding one cell -/

/-- The cell that holds a text. -/
def textCell : Option String → SqlValue
  | none => .null
  | some s => .text s

/-- The cell that holds an image. -/
def blobCell : Option NSData → SqlValue
  | none => .null
  | some d => .blob d

theorem noNul_cString (s : String) : NoNul (cString s) := by
  intro hmem
  rw [cString, String.toList_ofList] at hmem
  exact absurd (List.mem_takeWhile_imp hmem) (by simp)

theorem cString_eq_self_iff {s : String} : cString s = s ↔ NoNul s :=
  ⟨fun h => h ▸ noNul_cString s, cString_eq_self⟩

/-- A text is stored as it is unless it has a zero character. -/
theorem bindObject_string_eq_iff {s : Option String} :
    bindObject (s.map .string) = textCell s ↔ ∀ t ∈ s, NoNul t := by
  cases s with
  | none => simp [bindObject, textCell]
  | some t => simp [bindObject, textCell, cString_eq_self_iff]

/-- A text comes back up to its first zero character. -/
theorem string_bindObject (s : Option String) :
    (bindObject (s.map .string)).string = s.map cString := by
  cases s with
  | none => rfl
  | some t => exact congrArg some (cString_eq_self (noNul_cString t))

theorem bindObject_data (d : Option NSData) : bindObject (d.map .data) = blobCell d := by
  cases d <;> rfl

/-- A natural number is stored as it is when it fits into 63 bits. -/
theorem bindObject_natCast_eq_iff {n : ℕ} :
    bindObject (some (.number n)) = .integer n ↔ n < 2 ^ 63 := by
  have hhigh := Int.bmod_lt (x := n) (m := 2 ^ 64) (by decide)
  simp only [bindObject, SqlValue.integer.injEq]
  constructor
  · intro h
    omega
  · intro h
    rw [Int.bmod_eq_of_le_mul_two] <;> omega

end FMDB

namespace DataManager

/-! ## Cells -/

/-- The cells of a row of `website`. -/
structure WebsiteCells where
  iconImg : SqlValue
  title : SqlValue
  account : SqlValue
  password : SqlValue
  link : SqlValue
  describe : SqlValue
  ctime : SqlValue
deriving DecidableEq

def WebsiteCells.row (cells : WebsiteCells) : Row :=
  [("iconImg", cells.iconImg), ("title", cells.title), ("account", cells.account),
    ("password", cells.password), ("link", cells.link), ("describe", cells.describe),
    ("ctime", cells.ctime)]

/-- The cells of a row of `bankcard`. -/
structure BankCardCells where
  frontImg : SqlValue
  type : SqlValue
  expireDate : SqlValue
  account : SqlValue
  password : SqlValue
  cvvCode : SqlValue
  pin : SqlValue
  describe : SqlValue
  logoImageUrl : SqlValue
  ctime : SqlValue
deriving DecidableEq

def BankCardCells.row (cells : BankCardCells) : Row :=
  [("frontImg", cells.frontImg), ("type", cells.type), ("expireDate", cells.expireDate),
    ("account", cells.account), ("password", cells.password), ("cvvCode", cells.cvvCode),
    ("pin", cells.pin), ("describe", cells.describe), ("logoImageUrl", cells.logoImageUrl),
    ("ctime", cells.ctime)]

/-- A row with the columns of `website` is given by its cells. -/
theorem exists_websiteCells {row : Row} (h : row.map Prod.fst = websiteColumns) :
    ∃ cells : WebsiteCells, row = cells.row := by
  match row, h with
  | [(_, a), (_, b), (_, c), (_, d), (_, e), (_, f), (_, g)], h =>
      simp only [List.map_cons, List.map_nil, websiteColumns, List.cons.injEq] at h
      obtain ⟨rfl, rfl, rfl, rfl, rfl, rfl, rfl, -⟩ := h
      exact ⟨⟨a, b, c, d, e, f, g⟩, rfl⟩

/-- A row with the columns of `bankcard` is given by its cells. -/
theorem exists_bankCardCells {row : Row} (h : row.map Prod.fst = bankcardColumns) :
    ∃ cells : BankCardCells, row = cells.row := by
  match row, h with
  | [(_, a), (_, b), (_, c), (_, d), (_, e), (_, f), (_, g), (_, i), (_, j), (_, k)], h =>
      simp only [List.map_cons, List.map_nil, bankcardColumns, List.cons.injEq] at h
      obtain ⟨rfl, rfl, rfl, rfl, rfl, rfl, rfl, rfl, rfl, rfl, -⟩ := h
      exact ⟨⟨a, b, c, d, e, f, g, i, j, k⟩, rfl⟩

/-! ## What the writers put into the cells -/

variable {E : Engine Row} {t t' : E.Table}

/-- The cells of an inserted website. -/
def insertedWebsite (model : PPWebsiteModel) (cTime : ℤ) : WebsiteCells where
  iconImg := bindObject (model.iconImg.map .data)
  title := bindObject (model.title.map .string)
  account := bindObject (model.account.map .string)
  password := bindObject (model.password.map .string)
  link := bindObject (model.link.map .string)
  describe := bindObject (model.describe.map .string)
  ctime := bindObject (some (.number cTime))

/-- An updated website keeps its creation time. -/
def updatedWebsite (model : PPWebsiteModel) (cells : WebsiteCells) : WebsiteCells :=
  { insertedWebsite model 0 with ctime := cells.ctime }

/-- The cells of an inserted bank card. -/
def insertedBankCard (model : PPBankCardModel) (cTime : ℤ) : BankCardCells where
  frontImg := bindObject (model.frontImg.map .data)
  type := bindObject (some (.number model.type))
  expireDate := bindObject (model.expireDate.map .string)
  account := bindObject (model.account.map .string)
  password := bindObject (model.password.map .string)
  cvvCode := bindObject (model.cvvCode.map .string)
  pin := bindObject (model.pin.map .string)
  describe := bindObject (model.describe.map .string)
  logoImageUrl := bindObject (model.logoImageUrl.map .string)
  ctime := bindObject (some (.number cTime))

/-- An updated bank card keeps its creation time. -/
def updatedBankCard (model : PPBankCardModel) (cells : BankCardCells) : BankCardCells :=
  { insertedBankCard model 0 with ctime := cells.ctime }

/-- What `updateWebsizeWithId:model:` does to a row. -/
def setWebsite (model : PPWebsiteModel) : Row → Row :=
  setColumns ["title", "iconImg", "account", "password", "link", "describe"]
    [model.title.map .string, model.iconImg.map .data, model.account.map .string,
      model.password.map .string, model.link.map .string, model.describe.map .string]

/-- What `updateBackCardWithId:model:` does to a row. -/
def setBankCard (model : PPBankCardModel) : Row → Row :=
  setColumns ["frontImg", "type", "expireDate", "account", "password", "cvvCode", "pin",
      "describe", "logoImageUrl"]
    [model.frontImg.map .data, some (.number model.type), model.expireDate.map .string,
      model.account.map .string, model.password.map .string, model.cvvCode.map .string,
      model.pin.map .string, model.describe.map .string, model.logoImageUrl.map .string]

theorem setWebsite_row (model : PPWebsiteModel) (cells : WebsiteCells) :
    setWebsite model cells.row = (updatedWebsite model cells).row := rfl

theorem setBankCard_row (model : PPBankCardModel) (cells : BankCardCells) :
    setBankCard model cells.row = (updatedBankCard model cells).row := rfl

theorem rows_insertWebsite {model : PPWebsiteModel} {cTime : ℤ}
    (h : insertWebsiteWithModel model cTime t = some t') :
    E.rows t' = E.rows t ++ [(E.sequence t + 1, (insertedWebsite model cTime).row)] :=
  E.rows_insert h

theorem rows_insertBackCard {model : PPBankCardModel} {cTime : ℤ}
    (h : insertBackCardWithModel model cTime t = some t') :
    E.rows t' = E.rows t ++ [(E.sequence t + 1, (insertedBankCard model cTime).row)] :=
  E.rows_insert h

/-- An update changes the row of the model's own id, whatever id it is called with. -/
theorem rows_updateWebsite {aId : ℤ} {model : PPWebsiteModel}
    (h : updateWebsizeWithId aId model t = some t') :
    E.rows t' =
      (E.rows t).map fun p => if some p.1 = model.aId then (p.1, setWebsite model p.2) else p :=
  rows_updateId h

theorem rows_updateBackCard {aId : ℤ} {model : PPBankCardModel}
    (h : updateBackCardWithId aId model t = some t') :
    E.rows t' =
      (E.rows t).map fun p => if some p.1 = model.aId then (p.1, setBankCard model p.2) else p :=
  rows_updateId h

/-- `NO` is the engine's answer to the update of the model's id. -/
theorem updateWebsite_eq_none_iff (aId : ℤ) {model : PPWebsiteModel} :
    updateWebsizeWithId aId model t = none ↔
      ∃ id, model.aId = some id ∧ E.update id (setWebsite model) t = none :=
  updateId_eq_none_iff

theorem updateBackCard_eq_none_iff (aId : ℤ) {model : PPBankCardModel} :
    updateBackCardWithId aId model t = none ↔
      ∃ id, model.aId = some id ∧ E.update id (setBankCard model) t = none :=
  updateId_eq_none_iff

/-! ## The decoders in closed form -/

/-- A website is read exactly when its account and its password are. -/
theorem websiteFromResult_eq (result : Row) :
    websiteFromResult result =
      (stringForColumn result "account").bind fun account =>
        (stringForColumn result "password").map fun password =>
          { aId := some (intForColumn result "id")
            iconImg := dataForColumn result "iconImg"
            account := some account
            password := some password
            title := stringForColumn result "title"
            link := stringForColumn result "link"
            describe := stringForColumn result "describe"
            cTime := intForColumn result "cTime" } := by
  unfold websiteFromResult
  dsimp only
  -- the dictionary refuses a record without an account or a password
  cases haccount : stringForColumn result "account" with
  | none =>
      rw [PPWebsiteModel.initWithDictionary_eq_none (Or.inl rfl) (by simp)]
      rfl
  | some account =>
      cases hpassword : stringForColumn result "password" with
      | none =>
          rw [PPWebsiteModel.initWithDictionary_eq_none (Or.inr rfl) (by simp)]
          rfl
      | some password =>
          rw [Option.map_some, Option.map_some, PPWebsiteModel.initWithDictionary_eq_some]
          rfl

/-- A bank card is read exactly when its account, its password and its logo address are. The
creation time does not arrive. -/
theorem backcardFromResult_eq (result : Row) :
    backcardFromResult result =
      (stringForColumn result "account").bind fun account =>
        (stringForColumn result "password").bind fun password =>
          (stringForColumn result "logoImageUrl").map fun logoImageUrl =>
            { aId := some (intForColumn result "id")
              frontImg := dataForColumn result "frontImg"
              backImg := none
              type := (intForColumn result "type" % 2 ^ 64).toNat
              expireDate := stringForColumn result "expireDate"
              account := some account
              password := some password
              cvvCode := stringForColumn result "cvvCode"
              pin := stringForColumn result "pin"
              describe := stringForColumn result "describe"
              logoImageUrl := some logoImageUrl
              cTime := 0 } := by
  unfold backcardFromResult
  dsimp only
  -- the dictionary refuses a card without one of the three required keys
  cases haccount : stringForColumn result "account" with
  | none =>
      rw [PPBankCardModel.initWithDictionary_eq_none (Or.inl rfl) (by simp)]
      rfl
  | some account =>
      cases hpassword : stringForColumn result "password" with
      | none =>
          rw [PPBankCardModel.initWithDictionary_eq_none (Or.inr (Or.inl rfl)) (by simp)]
          rfl
      | some password =>
          cases hlogo : stringForColumn result "logoImageUrl" with
          | none =>
              rw [PPBankCardModel.initWithDictionary_eq_none (Or.inr (Or.inr rfl)) (by simp)]
              rfl
          | some logoImageUrl =>
              rw [Option.map_some, Option.map_some, Option.map_some,
                PPBankCardModel.initWithDictionary_eq_some]
              rfl

/-- The model of a website row with the given account and password. -/
def WebsiteCells.model (cells : WebsiteCells) (id : ℤ) (account password : String) :
    PPWebsiteModel where
  aId := some (id.bmod (2 ^ 32))
  iconImg := cells.iconImg.data
  account := some account
  password := some password
  title := cells.title.string
  link := cells.link.string
  describe := cells.describe.string
  cTime := cells.ctime.int

/-- A website row is read cell by cell. -/
theorem websiteFromResult_row (id : ℤ) (cells : WebsiteCells) :
    websiteFromResult (resultSet id cells.row) =
      cells.account.string.bind fun account =>
        cells.password.string.map fun password => cells.model id account password := by
  have hid : intForColumn (resultSet id cells.row) "id" = id.bmod (2 ^ 32) :=
    intForColumn_of_column (show column (resultSet id cells.row) "id" = some (.integer id) from rfl)
  have hctime : intForColumn (resultSet id cells.row) "cTime" = cells.ctime.int :=
    intForColumn_of_column rfl
  have haccount : stringForColumn (resultSet id cells.row) "account" = cells.account.string :=
    stringForColumn_of_column rfl
  have hpassword : stringForColumn (resultSet id cells.row) "password" = cells.password.string :=
    stringForColumn_of_column rfl
  have htitle : stringForColumn (resultSet id cells.row) "title" = cells.title.string :=
    stringForColumn_of_column rfl
  have hlink : stringForColumn (resultSet id cells.row) "link" = cells.link.string :=
    stringForColumn_of_column rfl
  have hdescribe : stringForColumn (resultSet id cells.row) "describe" = cells.describe.string :=
    stringForColumn_of_column rfl
  have hicon : dataForColumn (resultSet id cells.row) "iconImg" = cells.iconImg.data :=
    dataForColumn_of_column rfl
  rw [websiteFromResult_eq, hid, hctime, haccount, hpassword, htitle, hlink, hdescribe, hicon]
  rfl

/-- The model of a bank card row with the given account, password and logo address. -/
def BankCardCells.model (cells : BankCardCells) (id : ℤ) (account password logoImageUrl : String) :
    PPBankCardModel where
  aId := some (id.bmod (2 ^ 32))
  frontImg := cells.frontImg.data
  backImg := none
  type := (cells.type.int % 2 ^ 64).toNat
  expireDate := cells.expireDate.string
  account := some account
  password := some password
  cvvCode := cells.cvvCode.string
  pin := cells.pin.string
  describe := cells.describe.string
  logoImageUrl := some logoImageUrl
  cTime := 0

/-- A bank card row is read cell by cell. -/
theorem backcardFromResult_row (id : ℤ) (cells : BankCardCells) :
    backcardFromResult (resultSet id cells.row) =
      cells.account.string.bind fun account =>
        cells.password.string.bind fun password =>
          cells.logoImageUrl.string.map fun logoImageUrl =>
            cells.model id account password logoImageUrl := by
  -- each column is found under its name
  have hid : intForColumn (resultSet id cells.row) "id" = id.bmod (2 ^ 32) :=
    intForColumn_of_column (show column (resultSet id cells.row) "id" = some (.integer id) from rfl)
  have htype : intForColumn (resultSet id cells.row) "type" = cells.type.int :=
    intForColumn_of_column rfl
  have haccount : stringForColumn (resultSet id cells.row) "account" = cells.account.string :=
    stringForColumn_of_column rfl
  have hpassword : stringForColumn (resultSet id cells.row) "password" = cells.password.string :=
    stringForColumn_of_column rfl
  have hexpireDate : stringForColumn (resultSet id cells.row) "expireDate" =
      cells.expireDate.string := stringForColumn_of_column rfl
  have hcvvCode : stringForColumn (resultSet id cells.row) "cvvCode" = cells.cvvCode.string :=
    stringForColumn_of_column rfl
  have hpin : stringForColumn (resultSet id cells.row) "pin" = cells.pin.string :=
    stringForColumn_of_column rfl
  have hlogo : stringForColumn (resultSet id cells.row) "logoImageUrl" =
      cells.logoImageUrl.string := stringForColumn_of_column rfl
  have hdescribe : stringForColumn (resultSet id cells.row) "describe" = cells.describe.string :=
    stringForColumn_of_column rfl
  have hfront : dataForColumn (resultSet id cells.row) "frontImg" = cells.frontImg.data :=
    dataForColumn_of_column rfl
  rw [backcardFromResult_eq, hid, htype, haccount, hpassword, hexpireDate, hcvvCode, hpin, hlogo,
    hdescribe, hfront]
  rfl

/-! ## Shaped tables -/

/-- A table with the columns of its schema, in the order of its keys. -/
structure Shaped (columns : List String) (t : E.Table) : Prop where
  columns : ∀ p ∈ E.rows t, p.2.map Prod.fst = columns
  sorted : (E.rows t).Pairwise fun p q => p.1 < q.1
  le_sequence : ∀ p ∈ E.rows t, p.1 ≤ E.sequence t

variable {columns : List String}

theorem shaped_create (columns : List String) : Shaped columns E.create where
  columns := by simp [E.rows_create]
  sorted := by simp [E.rows_create]
  le_sequence := by simp [E.rows_create]

theorem map_fst_newRow (columns names : List String) (arguments : List (Option NSObject)) :
    (newRow columns names arguments).map Prod.fst = columns := by
  simp [newRow, Function.comp_def]

theorem map_fst_setColumns (names : List String) (arguments : List (Option NSObject)) (row : Row) :
    (setColumns names arguments row).map Prod.fst = row.map Prod.fst := by
  simp [setColumns, Function.comp_def]

theorem Shaped.insert (h : Shaped columns t) {row : Row} (hrow : row.map Prod.fst = columns)
    (hinsert : E.insert row t = some t') : Shaped columns t' where
  columns := by
    rw [E.rows_insert hinsert]
    intro p hp
    rcases List.mem_append.mp hp with hold | hnew
    · exact h.columns p hold
    · rw [List.mem_singleton.mp hnew]
      exact hrow
  sorted := by
    rw [E.rows_insert hinsert]
    refine List.pairwise_append.mpr ⟨h.sorted, List.pairwise_singleton _ _, fun p hp q hq => ?_⟩
    have hle := h.le_sequence p hp
    rw [List.mem_singleton.mp hq]
    dsimp only
    omega
  le_sequence := by
    rw [E.rows_insert hinsert, E.sequence_insert hinsert]
    intro p hp
    rcases List.mem_append.mp hp with hold | hnew
    · have hle := h.le_sequence p hold
      omega
    · rw [List.mem_singleton.mp hnew]

theorem Shaped.update (h : Shaped columns t) {id : ℤ} {names : List String}
    {arguments : List (Option NSObject)}
    (hupdate : E.update id (setColumns names arguments) t = some t') : Shaped columns t' where
  columns := by
    rw [E.rows_update hupdate]
    intro p hp
    obtain ⟨q, hq, rfl⟩ := List.mem_map.mp hp
    split_ifs
    · exact (map_fst_setColumns _ _ _).trans (h.columns q hq)
    · exact h.columns q hq
  sorted := by
    rw [E.rows_update hupdate]
    refine List.pairwise_map.mpr (h.sorted.imp fun {p q} hpq => ?_)
    split_ifs <;> exact hpq
  le_sequence := by
    rw [E.rows_update hupdate, E.sequence_update hupdate]
    intro p hp
    obtain ⟨q, hq, rfl⟩ := List.mem_map.mp hp
    split_ifs <;> exact h.le_sequence q hq

theorem Shaped.delete (h : Shaped columns t) {id : ℤ} (hdelete : E.delete id t = some t') :
    Shaped columns t' where
  columns := by
    rw [E.rows_delete hdelete]
    exact fun p hp => h.columns p (List.mem_of_mem_filter hp)
  sorted := by
    rw [E.rows_delete hdelete]
    exact h.sorted.filter _
  le_sequence := by
    rw [E.rows_delete hdelete, E.sequence_delete hdelete]
    exact fun p hp => h.le_sequence p (List.mem_of_mem_filter hp)

theorem Shaped.insertWebsite (h : Shaped websiteColumns t) {model : PPWebsiteModel} {cTime : ℤ}
    (hinsert : insertWebsiteWithModel model cTime t = some t') : Shaped websiteColumns t' :=
  h.insert (map_fst_newRow _ _ _) hinsert

theorem Shaped.updateId (h : Shaped columns t) {id : Option ℤ} {names : List String}
    {arguments : List (Option NSObject)}
    (hupdate : (match id with
      | none => some t
      | some id => E.update id (setColumns names arguments) t) = some t') : Shaped columns t' := by
  cases id with
  | none => exact Option.some.inj hupdate ▸ h
  | some id => exact h.update hupdate

theorem Shaped.updateWebsite (h : Shaped websiteColumns t) {aId : ℤ} {model : PPWebsiteModel}
    (hupdate : updateWebsizeWithId aId model t = some t') : Shaped websiteColumns t' :=
  h.updateId hupdate

theorem Shaped.insertBackCard (h : Shaped bankcardColumns t) {model : PPBankCardModel} {cTime : ℤ}
    (hinsert : insertBackCardWithModel model cTime t = some t') : Shaped bankcardColumns t' :=
  h.insert (map_fst_newRow _ _ _) hinsert

theorem Shaped.updateBackCard (h : Shaped bankcardColumns t) {aId : ℤ} {model : PPBankCardModel}
    (hupdate : updateBackCardWithId aId model t = some t') : Shaped bankcardColumns t' :=
  h.updateId hupdate

/-- Both tables have the columns of their schemas. -/
structure Database.Shaped (db : Database E) : Prop where
  website : DataManager.Shaped websiteColumns db.website
  bankcard : DataManager.Shaped bankcardColumns db.bankcard

theorem Database.Shaped.next {db : Database E} (h : db.Shaped) (op : Op) : (next db op).Shaped := by
  unfold DataManager.next
  cases hperform : perform db op with
  | none => exact h
  | some db' =>
      cases op with
      | insertWebsite model cTime =>
          obtain ⟨t, ht, rfl⟩ := Option.map_eq_some_iff.mp hperform
          exact ⟨h.website.insertWebsite ht, h.bankcard⟩
      | updateWebsite aId model =>
          obtain ⟨t, ht, rfl⟩ := Option.map_eq_some_iff.mp hperform
          exact ⟨h.website.updateWebsite ht, h.bankcard⟩
      | deleteWebsite aId =>
          obtain ⟨t, ht, rfl⟩ := Option.map_eq_some_iff.mp hperform
          exact ⟨h.website.delete ht, h.bankcard⟩
      | insertBackCard model cTime =>
          obtain ⟨t, ht, rfl⟩ := Option.map_eq_some_iff.mp hperform
          exact ⟨h.website, h.bankcard.insertBackCard ht⟩
      | updateBackCard aId model =>
          obtain ⟨t, ht, rfl⟩ := Option.map_eq_some_iff.mp hperform
          exact ⟨h.website, h.bankcard.updateBackCard ht⟩
      | deleteBackCard aId =>
          obtain ⟨t, ht, rfl⟩ := Option.map_eq_some_iff.mp hperform
          exact ⟨h.website, h.bankcard.delete ht⟩

/-- Every database the data manager makes from the created tables has its schemas. -/
theorem shaped_run (E : Engine Row) (ops : List Op) :
    (ops.foldl next (emptyDatabase E)).Shaped := by
  have hempty : (emptyDatabase E).Shaped := ⟨shaped_create _, shaped_create _⟩
  exact Machine.run_invariant (fun _ op h => h.next op) hempty ops

end DataManager

end PasswordPackage
