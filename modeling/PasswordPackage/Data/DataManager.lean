import PasswordPackage.Data.Model

/-!
# The record store

`PPDataManager` keeps the records in two tables of one SQLite file. A record is written through a
list of column names and a list of arguments that have to stay in step, and read back by naming
every column again; the modified model's own id selects the row of an update.
-/

namespace PasswordPackage.DataManager

open FMDB KeyedTable

/-! ## Tables -/

/-- The columns of `website` after `id`. -/
def websiteColumns : List String :=
  ["iconImg", "title", "account", "password", "link", "describe", "ctime"]

/-- The columns of `bankcard` after `id`. -/
def bankcardColumns : List String :=
  ["frontImg", "type", "expireDate", "account", "password", "cvvCode", "pin", "describe",
    "logoImageUrl", "ctime"]

/-- An open database: the two tables, in the hands of an engine. -/
structure Database (E : Engine Row) where
  website : E.Table
  bankcard : E.Table

variable {E : Engine Row}

/-- A database after `openDB` has created the tables. -/
def emptyDatabase (E : Engine Row) : Database E :=
  { website := E.create, bankcard := E.create }

/-! ## Websites -/

/-- `insertWebsiteWithModel:` at the time `cTime`. -/
def insertWebsiteWithModel (model : PPWebsiteModel) (cTime : ℤ) (table : E.Table) :
    Option E.Table :=
  E.insert
    (newRow websiteColumns
      ["title", "iconImg", "account", "password", "link", "describe", "ctime"]
      [model.title.map .string, model.iconImg.map .data, model.account.map .string,
        model.password.map .string, model.link.map .string, model.describe.map .string,
        some (.number cTime)]) table

/-- `updateWebsizeWithId:model:`. The row is the one of `model.aId`; the argument is not used. -/
def updateWebsizeWithId (_aId : ℤ) (model : PPWebsiteModel) (table : E.Table) : Option E.Table :=
  match model.aId with
  | none => some table
  | some id =>
      E.update id
        (setColumns ["title", "iconImg", "account", "password", "link", "describe"]
          [model.title.map .string, model.iconImg.map .data, model.account.map .string,
            model.password.map .string, model.link.map .string, model.describe.map .string]) table

/-- `deleteWebsiteWithId:`. -/
def deleteWebsiteWithId (aId : ℤ) (table : E.Table) : Option E.Table :=
  E.delete aId table

/-- `websiteFromResult:`. -/
def websiteFromResult (result : Row) : Option PPWebsiteModel :=
  let dic := jsonDictionary
    [("id", some (.number (intForColumn result "id"))),
      ("account", (stringForColumn result "account").map .string),
      ("password", (stringForColumn result "password").map .string),
      ("title", (stringForColumn result "title").map .string),
      ("link", (stringForColumn result "link").map .string),
      ("describe", (stringForColumn result "describe").map .string),
      ("cTime", some (.number (intForColumn result "cTime")))]
  (PPWebsiteModel.initWithDictionary dic).map fun model =>
    { model with iconImg := dataForColumn result "iconImg" }

/-- `getAllWebsite`. -/
def getAllWebsite (table : E.Table) : List PPWebsiteModel :=
  (E.rows table).filterMap fun (id, row) => websiteFromResult (resultSet id row)

/-! ## Bank cards -/

/-- `insertBackCardWithModel:` at the time `cTime`. -/
def insertBackCardWithModel (model : PPBankCardModel) (cTime : ℤ) (table : E.Table) :
    Option E.Table :=
  E.insert
    (newRow bankcardColumns
      ["frontImg", "type", "expireDate", "account", "password", "cvvCode", "pin", "describe",
        "logoImageUrl", "ctime"]
      [model.frontImg.map .data, some (.number model.type), model.expireDate.map .string,
        model.account.map .string, model.password.map .string, model.cvvCode.map .string,
        model.pin.map .string, model.describe.map .string, model.logoImageUrl.map .string,
        some (.number cTime)]) table

/-- `updateBackCardWithId:model:`. The row is the one of `model.aId`; the argument is not used. -/
def updateBackCardWithId (_aId : ℤ) (model : PPBankCardModel) (table : E.Table) :
    Option E.Table :=
  match model.aId with
  | none => some table
  | some id =>
      E.update id
        (setColumns ["frontImg", "type", "expireDate", "account", "password", "cvvCode", "pin",
            "describe", "logoImageUrl"]
          [model.frontImg.map .data, some (.number model.type), model.expireDate.map .string,
            model.account.map .string, model.password.map .string, model.cvvCode.map .string,
            model.pin.map .string, model.describe.map .string,
            model.logoImageUrl.map .string]) table

/-- `deleteBackCardWithId:`. -/
def deleteBackCardWithId (aId : ℤ) (table : E.Table) : Option E.Table :=
  E.delete aId table

/-- `backcardFromResult:`. The creation time goes under a key the key mapper does not read. -/
def backcardFromResult (result : Row) : Option PPBankCardModel :=
  let dic := jsonDictionary
    [("id", some (.number (intForColumn result "id"))),
      ("type", some (.number (intForColumn result "type"))),
      ("account", (stringForColumn result "account").map .string),
      ("password", (stringForColumn result "password").map .string),
      ("expireDate", (stringForColumn result "expireDate").map .string),
      ("cvvCode", (stringForColumn result "cvvCode").map .string),
      ("pin", (stringForColumn result "pin").map .string),
      ("logoImageUrl", (stringForColumn result "logoImageUrl").map .string),
      ("describe", (stringForColumn result "describe").map .string),
      ("cTime", some (.number (intForColumn result "ctime")))]
  (PPBankCardModel.initWithDictionary dic).map fun model =>
    { model with frontImg := dataForColumn result "frontImg" }

/-- `getAllBackCard`. -/
def getAllBackCard (table : E.Table) : List PPBankCardModel :=
  (E.rows table).filterMap fun (id, row) => backcardFromResult (resultSet id row)

end PasswordPackage.DataManager
