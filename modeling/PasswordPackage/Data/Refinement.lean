import PasswordPackage.Data.DataManager

/-!
# The record store is a keyed map

The user's fields of a record pass through three column lists, a dictionary and a key mapper. For
records as the screens build them nothing is lost on the way, so the two tables behave like two maps
from ids to user fields.
-/

namespace PasswordPackage.DataManager

open FMDB KeyedTable

/-! ## User fields -/

/-- What the user enters for a website. -/
structure WebsiteFields where
  title : Option String
  iconImg : Option NSData
  account : Option String
  password : Option String
  link : Option String
  describe : Option String
deriving DecidableEq

/-- What the user enters for a bank card. -/
structure BankCardFields where
  frontImg : Option NSData
  type : ℕ
  expireDate : Option String
  account : Option String
  password : Option String
  cvvCode : Option String
  pin : Option String
  describe : Option String
  logoImageUrl : Option String
deriving DecidableEq

/-- The user's part of a website model. -/
def websiteFields (model : PPWebsiteModel) : WebsiteFields where
  title := model.title
  iconImg := model.iconImg
  account := model.account
  password := model.password
  link := model.link
  describe := model.describe

/-- The user's part of a bank card model. -/
def bankCardFields (model : PPBankCardModel) : BankCardFields where
  frontImg := model.frontImg
  type := model.type
  expireDate := model.expireDate
  account := model.account
  password := model.password
  cvvCode := model.cvvCode
  pin := model.pin
  describe := model.describe
  logoImageUrl := model.logoImageUrl

/-- A text field the form requires. -/
def Entered (s : Option String) : Prop :=
  ∃ t, s = some t ∧ t ≠ ""

/-- Website fields as the screens build them. -/
structure WebsiteFields.FromScreen (f : WebsiteFields) : Prop where
  account : Entered f.account
  password : Entered f.password
  noNul : ∀ s ∈ [f.title, f.account, f.password, f.link, f.describe], ∀ t ∈ s, NoNul t
  iconImg : f.iconImg ≠ some []

/-- Bank card fields as the screens build them. -/
structure BankCardFields.FromScreen (f : BankCardFields) : Prop where
  account : Entered f.account
  password : Entered f.password
  logoImageUrl : f.logoImageUrl ≠ none
  noNul : ∀ s ∈ [f.expireDate, f.account, f.password, f.cvvCode, f.pin, f.describe,
    f.logoImageUrl], ∀ t ∈ s, NoNul t
  type : f.type < 2 ^ 31
  frontImg : f.frontImg ≠ some []

/-! ## Rows hold the fields -/

/-- The row of a website, with its creation time. -/
def websiteRow (f : WebsiteFields) (ctime : SqlValue) : Row :=
  [("iconImg", bindObject (f.iconImg.map .data)), ("title", bindObject (f.title.map .string)),
    ("account", bindObject (f.account.map .string)),
    ("password", bindObject (f.password.map .string)), ("link", bindObject (f.link.map .string)),
    ("describe", bindObject (f.describe.map .string)), ("ctime", ctime)]

/-- The row of a bank card, with its creation time. -/
def bankCardRow (f : BankCardFields) (ctime : SqlValue) : Row :=
  [("frontImg", bindObject (f.frontImg.map .data)), ("type", .integer f.type),
    ("expireDate", bindObject (f.expireDate.map .string)),
    ("account", bindObject (f.account.map .string)),
    ("password", bindObject (f.password.map .string)),
    ("cvvCode", bindObject (f.cvvCode.map .string)), ("pin", bindObject (f.pin.map .string)),
    ("describe", bindObject (f.describe.map .string)),
    ("logoImageUrl", bindObject (f.logoImageUrl.map .string)), ("ctime", ctime)]

/-- The row holds the fields, next to some creation time. -/
def WebsiteRow (row : Row) (f : WebsiteFields) : Prop :=
  f.FromScreen ∧ ∃ ctime, row = websiteRow f ctime

/-- The row holds the fields, next to some creation time. -/
def BankCardRow (row : Row) (f : BankCardFields) : Prop :=
  f.FromScreen ∧ ∃ ctime, row = bankCardRow f ctime

/-- A website read back has the id of its row and the fields it was written with. -/
theorem websiteFromResult_of_row {row : Row} {f : WebsiteFields} (h : WebsiteRow row f) {id : ℤ}
    (hlow : 0 ≤ id) (hhigh : id < 2 ^ 31) :
    (websiteFromResult (resultSet id row)).map (fun m => (m.aId, websiteFields m)) =
      some (some id, f) := by
  obtain ⟨hf, ctime, hrow⟩ := h
  obtain ⟨account, haccount, -⟩ := hf.account
  obtain ⟨password, hpassword, -⟩ := hf.password
  -- the id fits into 32 bits, and no text has a zero that would cut it short
  have hid : intForColumn (resultSet id row) "id" = id :=
    intForColumn_of_integer (by rw [hrow]; rfl) hlow hhigh
  have haccount' : stringForColumn (resultSet id row) "account" = f.account :=
    stringForColumn_of_bound (by rw [hrow]; rfl) (hf.noNul _ (by simp))
  have hpassword' : stringForColumn (resultSet id row) "password" = f.password :=
    stringForColumn_of_bound (by rw [hrow]; rfl) (hf.noNul _ (by simp))
  have htitle : stringForColumn (resultSet id row) "title" = f.title :=
    stringForColumn_of_bound (by rw [hrow]; rfl) (hf.noNul _ (by simp))
  have hlink : stringForColumn (resultSet id row) "link" = f.link :=
    stringForColumn_of_bound (by rw [hrow]; rfl) (hf.noNul _ (by simp))
  have hdescribe : stringForColumn (resultSet id row) "describe" = f.describe :=
    stringForColumn_of_bound (by rw [hrow]; rfl) (hf.noNul _ (by simp))
  have hicon : dataForColumn (resultSet id row) "iconImg" = f.iconImg :=
    dataForColumn_of_bound (by rw [hrow]; rfl) hf.iconImg
  unfold websiteFromResult
  dsimp only
  rw [hid, haccount', hpassword', htitle, hlink, hdescribe, hicon, haccount, hpassword,
    Option.map_some, Option.map_some, PPWebsiteModel.initWithDictionary_eq_some]
  simp [websiteFields, ← haccount, ← hpassword]

/-- A bank card read back has the id of its row and the fields it was written with. -/
theorem backcardFromResult_of_row {row : Row} {f : BankCardFields} (h : BankCardRow row f) {id : ℤ}
    (hlow : 0 ≤ id) (hhigh : id < 2 ^ 31) :
    (backcardFromResult (resultSet id row)).map (fun m => (m.aId, bankCardFields m)) =
      some (some id, f) := by
  obtain ⟨hf, ctime, hrow⟩ := h
  obtain ⟨account, haccount, -⟩ := hf.account
  obtain ⟨password, hpassword, -⟩ := hf.password
  obtain ⟨logo, hlogo⟩ := Option.ne_none_iff_exists'.mp hf.logoImageUrl
  -- the number cells fit into 32 bits
  have hid : intForColumn (resultSet id row) "id" = id :=
    intForColumn_of_integer (by rw [hrow]; rfl) hlow hhigh
  have htype : intForColumn (resultSet id row) "type" = f.type :=
    intForColumn_of_integer (by rw [hrow]; rfl) (by omega) (by exact_mod_cast hf.type)
  -- no text has a zero that would cut it short
  have haccount' : stringForColumn (resultSet id row) "account" = f.account :=
    stringForColumn_of_bound (by rw [hrow]; rfl) (hf.noNul _ (by simp))
  have hpassword' : stringForColumn (resultSet id row) "password" = f.password :=
    stringForColumn_of_bound (by rw [hrow]; rfl) (hf.noNul _ (by simp))
  have hexpireDate : stringForColumn (resultSet id row) "expireDate" = f.expireDate :=
    stringForColumn_of_bound (by rw [hrow]; rfl) (hf.noNul _ (by simp))
  have hcvvCode : stringForColumn (resultSet id row) "cvvCode" = f.cvvCode :=
    stringForColumn_of_bound (by rw [hrow]; rfl) (hf.noNul _ (by simp))
  have hpin : stringForColumn (resultSet id row) "pin" = f.pin :=
    stringForColumn_of_bound (by rw [hrow]; rfl) (hf.noNul _ (by simp))
  have hlogo' : stringForColumn (resultSet id row) "logoImageUrl" = f.logoImageUrl :=
    stringForColumn_of_bound (by rw [hrow]; rfl) (hf.noNul _ (by simp))
  have hdescribe : stringForColumn (resultSet id row) "describe" = f.describe :=
    stringForColumn_of_bound (by rw [hrow]; rfl) (hf.noNul _ (by simp))
  have hfront : dataForColumn (resultSet id row) "frontImg" = f.frontImg :=
    dataForColumn_of_bound (by rw [hrow]; rfl) hf.frontImg
  have htype64 : ((f.type : ℤ) % 2 ^ 64).toNat = f.type := by
    have hlt := hf.type
    omega
  unfold backcardFromResult
  dsimp only
  rw [hid, htype, haccount', hpassword', hexpireDate, hcvvCode, hpin, hlogo', hdescribe, hfront,
    haccount, hpassword, hlogo, Option.map_some, Option.map_some, Option.map_some,
    PPBankCardModel.initWithDictionary_eq_some, htype64]
  simp [bankCardFields, ← haccount, ← hpassword, ← hlogo]

/-- An inserted website row is that of the model's fields. -/
theorem newRow_eq_websiteRow (model : PPWebsiteModel) (cTime : ℤ) :
    newRow websiteColumns
      ["title", "iconImg", "account", "password", "link", "describe", "ctime"]
      [model.title.map .string, model.iconImg.map .data, model.account.map .string,
        model.password.map .string, model.link.map .string, model.describe.map .string,
        some (.number cTime)] = websiteRow (websiteFields model) (bindObject (some (.number cTime))) :=
  rfl

/-- An updated website row is that of the new fields. -/
theorem setColumns_websiteRow (model : PPWebsiteModel) (f : WebsiteFields) (ctime : SqlValue) :
    setColumns ["title", "iconImg", "account", "password", "link", "describe"]
      [model.title.map .string, model.iconImg.map .data, model.account.map .string,
        model.password.map .string, model.link.map .string, model.describe.map .string]
      (websiteRow f ctime) = websiteRow (websiteFields model) ctime :=
  rfl

/-- An inserted bank card row is that of the model's fields. -/
theorem newRow_eq_bankCardRow {model : PPBankCardModel} (htype : model.type < 2 ^ 31)
    (cTime : ℤ) :
    newRow bankcardColumns
      ["frontImg", "type", "expireDate", "account", "password", "cvvCode", "pin", "describe",
        "logoImageUrl", "ctime"]
      [model.frontImg.map .data, some (.number model.type), model.expireDate.map .string,
        model.account.map .string, model.password.map .string, model.cvvCode.map .string,
        model.pin.map .string, model.describe.map .string, model.logoImageUrl.map .string,
        some (.number cTime)] =
      bankCardRow (bankCardFields model) (bindObject (some (.number cTime))) := by
  have hbound := (bmod_eq_self (n := model.type) (by omega) (by exact_mod_cast htype)).2
  show [_, ("type", SqlValue.integer ((model.type : ℤ).bmod (2 ^ 64))), _, _, _, _, _, _, _, _] = _
  -- the type is bound as a number of 64 bits
  rw [hbound]
  rfl

/-- An updated bank card row is that of the new fields. -/
theorem setColumns_bankCardRow {model : PPBankCardModel} (htype : model.type < 2 ^ 31)
    (f : BankCardFields) (ctime : SqlValue) :
    setColumns ["frontImg", "type", "expireDate", "account", "password", "cvvCode", "pin",
        "describe", "logoImageUrl"]
      [model.frontImg.map .data, some (.number model.type), model.expireDate.map .string,
        model.account.map .string, model.password.map .string, model.cvvCode.map .string,
        model.pin.map .string, model.describe.map .string, model.logoImageUrl.map .string]
      (bankCardRow f ctime) = bankCardRow (bankCardFields model) ctime := by
  have hbound := (bmod_eq_self (n := model.type) (by omega) (by exact_mod_cast htype)).2
  show [_, ("type", SqlValue.integer ((model.type : ℤ).bmod (2 ^ 64))), _, _, _, _, _, _, _, _] = _
  rw [hbound]
  rfl

/-! ## Operations -/

/-- The writes the app makes to its tables. -/
inductive Op where
  | insertWebsite (model : PPWebsiteModel) (cTime : ℤ)
  | updateWebsite (aId : ℤ) (model : PPWebsiteModel)
  | deleteWebsite (aId : ℤ)
  | insertBackCard (model : PPBankCardModel) (cTime : ℤ)
  | updateBackCard (aId : ℤ) (model : PPBankCardModel)
  | deleteBackCard (aId : ℤ)
deriving DecidableEq

variable {E : Engine Row}

/-- The new database, or `none` when the data manager returns `NO`. -/
def perform (db : Database E) : Op → Option (Database E)
  | .insertWebsite model cTime =>
      (insertWebsiteWithModel model cTime db.website).map fun t => { db with website := t }
  | .updateWebsite aId model =>
      (updateWebsizeWithId aId model db.website).map fun t => { db with website := t }
  | .deleteWebsite aId =>
      (deleteWebsiteWithId aId db.website).map fun t => { db with website := t }
  | .insertBackCard model cTime =>
      (insertBackCardWithModel model cTime db.bankcard).map fun t => { db with bankcard := t }
  | .updateBackCard aId model =>
      (updateBackCardWithId aId model db.bankcard).map fun t => { db with bankcard := t }
  | .deleteBackCard aId =>
      (deleteBackCardWithId aId db.bankcard).map fun t => { db with bankcard := t }

/-- The database after an operation. -/
def next (db : Database E) (op : Op) : Database E :=
  (perform db op).getD db

/-- The operation as a screen issues it: fields the form accepts, and the id of the model. -/
def Op.FromScreen : Op → Prop
  | .insertWebsite model _ => (websiteFields model).FromScreen
  | .updateWebsite aId model => model.aId = some aId ∧ (websiteFields model).FromScreen
  | .insertBackCard model _ => (bankCardFields model).FromScreen
  | .updateBackCard aId model => model.aId = some aId ∧ (bankCardFields model).FromScreen
  | .deleteWebsite _ | .deleteBackCard _ => True

/-- The engine executes the statement that an operation stands for: it takes the row of the model, or
the change that gives every row of the id the fields of the model and keeps its creation time. -/
def Executes (db : Database E) : Op → Prop
  | .insertWebsite model cTime =>
      (E.insert (websiteRow (websiteFields model) (bindObject (some (.number cTime))))
        db.website).isSome
  | .updateWebsite aId model =>
      ∀ change, (∀ f ctime, change (websiteRow f ctime) = websiteRow (websiteFields model) ctime) →
        (E.update aId change db.website).isSome
  | .deleteWebsite aId => (E.delete aId db.website).isSome
  | .insertBackCard model cTime =>
      (E.insert (bankCardRow (bankCardFields model) (bindObject (some (.number cTime))))
        db.bankcard).isSome
  | .updateBackCard aId model =>
      ∀ change, (∀ f ctime, change (bankCardRow f ctime) = bankCardRow (bankCardFields model) ctime) →
        (E.update aId change db.bankcard).isSome
  | .deleteBackCard aId => (E.delete aId db.bankcard).isSome

/-- The number of inserts among the operations. -/
def inserts (ops : List Op) : ℕ :=
  ops.countP fun
    | .insertWebsite _ _ | .insertBackCard _ _ => true
    | _ => false

/-! ## The abstract store -/

/-- A map from ids to values, and the largest id it has ever used. -/
structure Keyed (α : Type) where
  value : ℤ → Option α
  last : ℤ

/-- A new id gets a value. -/
def Keyed.Inserts {α : Type} (m : Keyed α) (a : α) (m' : Keyed α) : Prop :=
  ∃ i, m.last < i ∧ m' = { value := Function.update m.value i (some a), last := i }

/-- The value of an id is replaced, if the id has one. -/
def Keyed.update {α : Type} (m : Keyed α) (i : ℤ) (a : α) : Keyed α :=
  { m with value := fun j => if j = i then (m.value j).map fun _ => a else m.value j }

/-- The value of an id is dropped. -/
def Keyed.delete {α : Type} (m : Keyed α) (i : ℤ) : Keyed α :=
  { m with value := Function.update m.value i none }

/-- What the record store is for: one map for each kind of record. -/
structure Store where
  website : Keyed WebsiteFields
  bankcard : Keyed BankCardFields

def emptyStore : Store where
  website := { value := fun _ => none, last := 0 }
  bankcard := { value := fun _ => none, last := 0 }

/-- What an operation that returns `YES` does to the store. -/
def Store.Performs (m : Store) (op : Op) (m' : Store) : Prop :=
  match op with
  | .insertWebsite model _ =>
      m.website.Inserts (websiteFields model) m'.website ∧ m'.bankcard = m.bankcard
  | .updateWebsite aId model =>
      m' = { m with website := m.website.update aId (websiteFields model) }
  | .deleteWebsite aId => m' = { m with website := m.website.delete aId }
  | .insertBackCard model _ =>
      m.bankcard.Inserts (bankCardFields model) m'.bankcard ∧ m'.website = m.website
  | .updateBackCard aId model =>
      m' = { m with bankcard := m.bankcard.update aId (bankCardFields model) }
  | .deleteBackCard aId => m' = { m with bankcard := m.bankcard.delete aId }

/-- The store follows the database: what the engine executes returns `YES`, and the store performs
what returns `YES` and nothing else. -/
def Store.Follows (m : Store) (db : Database E) : List Op → Store → Prop
  | [], m' => m' = m
  | op :: ops, m' =>
      (Executes db op → (perform db op).isSome) ∧
        ∃ m₁, (if (perform db op).isSome then m.Performs op m₁ else m₁ = m) ∧
          m₁.Follows (next db op) ops m'

/-- The models are the values of the map, one for each id, in the order of the ids. -/
def Lists {μ α : Type} (models : List μ) (aId : μ → Option ℤ) (fields : μ → α)
    (m : Keyed α) : Prop :=
  ∃ values : List (ℤ × α), models.map (fun model => (aId model, fields model)) =
    values.map (fun p => (some p.1, p.2)) ∧ Represents values m.value

/-! ## Refinement -/

/-- The tables hold the maps, and their last ids are within the number of inserts. -/
structure Simulates (db : Database E) (m : Store) (n : ℕ) : Prop where
  website : Holds E WebsiteRow db.website m.website.value
  bankcard : Holds E BankCardRow db.bankcard m.bankcard.value
  lastWebsite : E.sequence db.website = m.website.last
  lastBankcard : E.sequence db.bankcard = m.bankcard.last
  websiteBound : m.website.last ≤ n
  bankcardBound : m.bankcard.last ≤ n

theorem simulates_empty (E : Engine Row) : Simulates (emptyDatabase E) emptyStore 0 where
  website := holds_create E WebsiteRow
  bankcard := holds_create E BankCardRow
  lastWebsite := E.sequence_create
  lastBankcard := E.sequence_create
  websiteBound := le_rfl
  bankcardBound := le_rfl

theorem inserts_cons (op : Op) (ops : List Op) :
    inserts (op :: ops) = inserts [op] + inserts ops := by
  unfold inserts
  rw [← List.countP_append]
  rfl

/-- An operation of a screen returns `YES` when the engine executes its statement. -/
theorem isSome_perform {db : Database E} {op : Op} (hop : op.FromScreen) (h : Executes db op) :
    (perform db op).isSome := by
  cases op with
  | insertWebsite model cTime =>
      rw [perform, Option.isSome_map, insertWebsiteWithModel, newRow_eq_websiteRow]
      exact h
  | updateWebsite aId model =>
      rw [perform, Option.isSome_map, updateWebsizeWithId, hop.1]
      exact h _ (setColumns_websiteRow model)
  | deleteWebsite aId =>
      rw [perform, Option.isSome_map]
      exact h
  | insertBackCard model cTime =>
      have htype : (bankCardFields model).type < 2 ^ 31 := BankCardFields.FromScreen.type hop
      rw [perform, Option.isSome_map, insertBackCardWithModel, newRow_eq_bankCardRow htype]
      exact h
  | updateBackCard aId model =>
      have htype : (bankCardFields model).type < 2 ^ 31 := hop.2.type
      rw [perform, Option.isSome_map, updateBackCardWithId, hop.1]
      exact h _ (setColumns_bankCardRow htype)
  | deleteBackCard aId =>
      rw [perform, Option.isSome_map]
      exact h

/-- One operation that returns `YES` keeps the simulation. -/
theorem Simulates.perform {db db' : Database E} {m : Store} {n : ℕ} (h : Simulates db m n) {op : Op}
    (hop : op.FromScreen) (hperform : DataManager.perform db op = some db') :
    ∃ m', m.Performs op m' ∧ Simulates db' m' (n + inserts [op]) := by
  have hweb := h.lastWebsite
  have hcard := h.lastBankcard
  have hwebBound := h.websiteBound
  have hcardBound := h.bankcardBound
  cases op with
  | insertWebsite model cTime =>
      -- an insertion adds one fresh key, and nothing is given out twice
      obtain ⟨t, ht, rfl⟩ := Option.map_eq_some_iff.mp hperform
      refine ⟨{ m with website := ⟨Function.update m.website.value (E.sequence db.website + 1)
          (some (websiteFields model)), E.sequence db.website + 1⟩ },
        ⟨⟨_, by omega, rfl⟩, rfl⟩, ?_⟩
      have hrow := newRow_eq_websiteRow model cTime
      refine ⟨h.website.insert ⟨hop, _, hrow⟩ ht, h.bankcard, E.sequence_insert ht, hcard, ?_, ?_⟩
      · show E.sequence db.website + 1 ≤ ((n + 1 : ℕ) : ℤ)
        omega
      · show m.bankcard.last ≤ ((n + 1 : ℕ) : ℤ)
        omega
  | updateWebsite aId model =>
      obtain ⟨t, ht, rfl⟩ := Option.map_eq_some_iff.mp hperform
      rw [updateWebsizeWithId, hop.1] at ht
      refine ⟨_, rfl, h.website.update ?_ ht, h.bankcard, (E.sequence_update ht).trans hweb, hcard,
        hwebBound, hcardBound⟩
      -- an update writes every field of the record, and keeps its time
      rintro row f ⟨-, ctime, rfl⟩
      exact ⟨hop.2, ctime, setColumns_websiteRow model f ctime⟩
  | deleteWebsite aId =>
      -- a deletion takes the key out, and the sequence goes on from there
      obtain ⟨t, ht, rfl⟩ := Option.map_eq_some_iff.mp hperform
      exact ⟨_, rfl, h.website.delete ht, h.bankcard, (E.sequence_delete ht).trans hweb, hcard,
        hwebBound, hcardBound⟩
  | insertBackCard model cTime =>
      -- the same for the other table
      obtain ⟨t, ht, rfl⟩ := Option.map_eq_some_iff.mp hperform
      refine ⟨{ m with bankcard := ⟨Function.update m.bankcard.value (E.sequence db.bankcard + 1)
          (some (bankCardFields model)), E.sequence db.bankcard + 1⟩ },
        ⟨⟨_, by omega, rfl⟩, rfl⟩, ?_⟩
      have hrow := newRow_eq_bankCardRow (BankCardFields.FromScreen.type hop) cTime
      refine ⟨h.website, h.bankcard.insert ⟨hop, _, hrow⟩ ht, hweb, E.sequence_insert ht, ?_, ?_⟩
      · show m.website.last ≤ ((n + 1 : ℕ) : ℤ)
        omega
      · show E.sequence db.bankcard + 1 ≤ ((n + 1 : ℕ) : ℤ)
        omega
  | updateBackCard aId model =>
      obtain ⟨t, ht, rfl⟩ := Option.map_eq_some_iff.mp hperform
      rw [updateBackCardWithId, hop.1] at ht
      refine ⟨_, rfl, h.website, h.bankcard.update ?_ ht, hweb, (E.sequence_update ht).trans hcard,
        hwebBound, hcardBound⟩
      rintro row f ⟨-, ctime, rfl⟩
      exact ⟨hop.2, ctime, setColumns_bankCardRow hop.2.type f ctime⟩
  | deleteBackCard aId =>
      obtain ⟨t, ht, rfl⟩ := Option.map_eq_some_iff.mp hperform
      exact ⟨_, rfl, h.website, h.bankcard.delete ht, hweb, (E.sequence_delete ht).trans hcard,
        hwebBound, hcardBound⟩

/-- A run of operations keeps the simulation. -/
theorem Simulates.run {db : Database E} {m : Store} {n : ℕ} (h : Simulates db m n) {ops : List Op}
    (hops : ∀ op ∈ ops, op.FromScreen) :
    ∃ m', m.Follows db ops m' ∧ Simulates (ops.foldl next db) m' (n + inserts ops) := by
  induction ops generalizing db m n with
  | nil => exact ⟨m, rfl, h⟩
  | cons op ops ih =>
      have hrest := fun o ho => hops o (List.mem_cons_of_mem _ ho)
      have hexecutes : Executes db op → (DataManager.perform db op).isSome :=
        isSome_perform (hops op List.mem_cons_self)
      rw [inserts_cons, ← Nat.add_assoc]
      cases hperform : DataManager.perform db op with
      | some db' =>
          obtain ⟨m₁, hstep, hm₁⟩ := h.perform (hops op List.mem_cons_self) hperform
          have hnext : next db op = db' := by rw [next, hperform, Option.getD_some]
          rw [List.foldl_cons, hnext]
          obtain ⟨m', hfollows, hm'⟩ := ih hm₁ hrest
          refine ⟨m', ⟨hexecutes, m₁, ?_, hnext ▸ hfollows⟩, hm'⟩
          rw [hperform]
          exact hstep
      | none =>
          -- the operation failed: the database and the store both stay as they are
          have hnext : next db op = db := by rw [next, hperform, Option.getD_none]
          rw [List.foldl_cons, hnext]
          have hmore : Simulates db m (n + inserts [op]) :=
            { h with
              websiteBound := h.websiteBound.trans (by omega)
              bankcardBound := h.bankcardBound.trans (by omega) }
          obtain ⟨m', hfollows, hm'⟩ := ih hmore hrest
          refine ⟨m', ⟨hexecutes, m, ?_, by rw [hnext]; exact hfollows⟩, hm'⟩
          rw [hperform]
          rfl

/-- While the last ids fit into 31 bits, the lists of the data manager are the maps. -/
theorem Simulates.lists {db : Database E} {m : Store} {n : ℕ} (h : Simulates db m n)
    (hn : n < 2 ^ 31) :
    Lists (getAllWebsite db.website) PPWebsiteModel.aId websiteFields m.website ∧
      Lists (getAllBackCard db.bankcard) PPBankCardModel.aId bankCardFields m.bankcard := by
  have hweb := h.lastWebsite
  have hcard := h.lastBankcard
  have hwebBound := h.websiteBound
  have hcardBound := h.bankcardBound
  obtain ⟨websites, hwebsites, hwebsiteMap⟩ := h.website.stored
  obtain ⟨cards, hcards, hcardMap⟩ := h.bankcard.stored
  constructor
  · refine ⟨websites, hwebsites.read fun i r f hmem hrow => ?_, hwebsiteMap⟩
    have hkey := h.website.keys _ hmem
    dsimp only at hkey
    exact websiteFromResult_of_row hrow (by omega) (by omega)
  · refine ⟨cards, hcards.read fun i r f hmem hrow => ?_, hcardMap⟩
    have hkey := h.bankcard.keys _ hmem
    dsimp only at hkey
    exact backcardFromResult_of_row hrow (by omega) (by omega)

/-- After any operations of the screens, with fewer than `2 ^ 31` inserts, the store that follows
the database is what the data manager lists. -/
theorem records_refine_keyed_maps (E : Engine Row) (ops : List Op)
    (hops : ∀ op ∈ ops, op.FromScreen) (hinserts : inserts ops < 2 ^ 31) :
    ∃ m, emptyStore.Follows (emptyDatabase E) ops m ∧
      Lists (getAllWebsite (ops.foldl next (emptyDatabase E)).website) PPWebsiteModel.aId
        websiteFields m.website ∧
      Lists (getAllBackCard (ops.foldl next (emptyDatabase E)).bankcard) PPBankCardModel.aId
        bankCardFields m.bankcard := by
  obtain ⟨m, hfollows, hsimulates⟩ := (simulates_empty E).run hops
  exact ⟨m, hfollows, hsimulates.lists (by omega)⟩

/-- A website is entered, renamed and deleted, and a bank card is entered. -/
def sampleOps : List Op :=
  let site : PPWebsiteModel :=
    { aId := none
      iconImg := some [137, 80]
      account := some "me"
      password := some "secret"
      title := some "site"
      link := none
      describe := some ""
      cTime := 0 }
  let card : PPBankCardModel :=
    { aId := none
      frontImg := none
      backImg := none
      type := 1
      expireDate := some "12/30"
      account := some "6222 0000"
      password := some "123456"
      cvvCode := none
      pin := none
      describe := none
      logoImageUrl := some ""
      cTime := 0 }
  [.insertWebsite site 1586000000,
    .updateWebsite 1 { site with aId := some 1, title := some "new" },
    .insertBackCard card 1586000060, .deleteWebsite 1]

theorem records_refine_keyed_maps_sampleOps :
    ∃ m, emptyStore.Follows (emptyDatabase (Engine.memory Row)) sampleOps m ∧
      Lists (getAllWebsite (sampleOps.foldl next (emptyDatabase (Engine.memory Row))).website)
        PPWebsiteModel.aId websiteFields m.website ∧
      Lists (getAllBackCard (sampleOps.foldl next (emptyDatabase (Engine.memory Row))).bankcard)
        PPBankCardModel.aId bankCardFields m.bankcard := by
  refine records_refine_keyed_maps (Engine.memory Row) sampleOps ?_ (by decide)
  have hme : Entered (some "me") := ⟨"me", rfl, by decide⟩
  have hsecret : Entered (some "secret") := ⟨"secret", rfl, by decide⟩
  intro op hop
  simp only [sampleOps, List.mem_cons, List.not_mem_nil, or_false] at hop
  rcases hop with rfl | rfl | rfl | rfl
  · exact ⟨hme, hsecret, by simp [websiteFields, NoNul], by simp [websiteFields]⟩
  · exact ⟨rfl, hme, hsecret, by simp [websiteFields, NoNul], by simp [websiteFields]⟩
  · exact ⟨⟨_, rfl, by decide⟩, ⟨_, rfl, by decide⟩, by simp [bankCardFields],
      by simp [bankCardFields, NoNul], by simp [bankCardFields], by simp [bankCardFields]⟩
  · trivial

end PasswordPackage.DataManager
