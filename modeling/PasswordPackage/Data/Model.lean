import PasswordPackage.Data.FMDB

/-!
# Records

`PPWebsiteModel` and `PPBankCardModel` are JSON models. They are imported from a dictionary of the
values that were not nil; the import fails when the key of a property that is not optional is
missing. A property without an entry in the key mapper is looked up under its own name.
-/

namespace PasswordPackage

open FMDB

/-! ## JSON models -/

/-- The values the app puts into a dictionary. -/
inductive JSONValue where
  | number (value : ℤ)
  | string (value : String)
deriving DecidableEq

abbrev JSONDictionary := List (String × JSONValue)

/-- `dic[key] = value` for each entry: a nil value leaves the key out. -/
def jsonDictionary (entries : List (String × Option JSONValue)) : JSONDictionary :=
  entries.filterMap fun (key, value) => value.map fun value => (key, value)

/-- What a model class declares: its properties, the optional ones, and its key mapper. -/
structure JSONModelClass where
  properties : List String
  optional : List String
  keyMapper : List (String × String)

/-- `convertValue:` of the key mapper. -/
def JSONModelClass.convertValue (c : JSONModelClass) (name : String) : String :=
  (c.keyMapper.lookup name).getD name

/-- `__doesDictionary:matchModelWithKeyMapper:error:`. -/
def JSONModelClass.doesMatch (c : JSONModelClass) (dic : JSONDictionary) : Bool :=
  c.properties.all fun name =>
    c.optional.contains name || (dic.lookup (c.convertValue name)).isSome

/-- A key whose values were nil is not in the dictionary. -/
theorem lookup_jsonDictionary_eq_none {entries : List (String × Option JSONValue)} {key : String}
    (h : ∀ entry ∈ entries, entry.1 = key → entry.2 = none) :
    (jsonDictionary entries).lookup key = none := by
  rw [List.lookup_eq_none_iff]
  intro entry hentry
  obtain ⟨⟨key', value⟩, hmem, hvalue⟩ := List.mem_filterMap.mp hentry
  cases value with
  | none => cases hvalue
  | some value =>
      obtain rfl := Option.some.inj hvalue
      -- an entry with this key would have no value
      have hne : key' ≠ key := fun heq => by simpa using h _ hmem heq
      simpa using hne.symm

/-- The import fails when the key of a property that is not optional is missing. -/
theorem JSONModelClass.doesMatch_eq_false {c : JSONModelClass} {dic : JSONDictionary}
    (name : String) (hproperty : name ∈ c.properties) (hrequired : c.optional.contains name = false)
    (hmissing : dic.lookup (c.convertValue name) = none) : c.doesMatch dic = false := by
  rw [JSONModelClass.doesMatch, List.all_eq_false]
  exact ⟨name, hproperty, by rw [hrequired, hmissing]; simp⟩

/-- The number imported for a property. -/
def JSONModelClass.number (c : JSONModelClass) (dic : JSONDictionary) (name : String) : Option ℤ :=
  match dic.lookup (c.convertValue name) with
  | some (.number n) => some n
  | _ => none

/-- The string imported for a property. -/
def JSONModelClass.string (c : JSONModelClass) (dic : JSONDictionary) (name : String) :
    Option String :=
  match dic.lookup (c.convertValue name) with
  | some (.string s) => some s
  | _ => none

/-! ## Websites -/

structure PPWebsiteModel where
  aId : Option ℤ
  iconImg : Option NSData
  account : Option String
  password : Option String
  title : Option String
  link : Option String
  describe : Option String
  cTime : ℤ
deriving DecidableEq

namespace PPWebsiteModel

def modelClass : JSONModelClass where
  properties := ["aId", "iconImg", "account", "password", "title", "link", "describe", "cTime"]
  optional := ["iconImg", "title", "link", "describe", "cTime"]
  keyMapper := [("aId", "id"), ("account", "account"), ("password", "password"),
    ("iconImg", "iconImg"), ("title", "title"), ("link", "link"), ("describe", "describe"),
    ("cTime", "cTime")]

/-- `initWithDictionary:error:`. -/
def initWithDictionary (dic : JSONDictionary) : Option PPWebsiteModel :=
  if modelClass.doesMatch dic then
    some
      { aId := modelClass.number dic "aId"
        iconImg := none
        account := modelClass.string dic "account"
        password := modelClass.string dic "password"
        title := modelClass.string dic "title"
        link := modelClass.string dic "link"
        describe := modelClass.string dic "describe"
        cTime := (modelClass.number dic "cTime").getD 0 }
  else none

/-- With an id, an account and a password the import succeeds, and every value arrives. -/
theorem initWithDictionary_eq_some (id cTime : ℤ) (account password : String)
    (title link describe : Option String) :
    initWithDictionary (jsonDictionary
      [("id", some (.number id)), ("account", some (.string account)),
        ("password", some (.string password)), ("title", title.map .string),
        ("link", link.map .string), ("describe", describe.map .string),
        ("cTime", some (.number cTime))]) =
      some
        { aId := some id
          iconImg := none
          account := some account
          password := some password
          title := title
          link := link
          describe := describe
          cTime := cTime } := by
  cases title <;> cases link <;> cases describe <;> rfl

/-- Without an account or a password the import fails. -/
theorem initWithDictionary_eq_none {entries : List (String × Option JSONValue)} {name : String}
    (hname : name = "account" ∨ name = "password")
    (h : ∀ entry ∈ entries, entry.1 = name → entry.2 = none) :
    initWithDictionary (jsonDictionary entries) = none := by
  have hmissing := lookup_jsonDictionary_eq_none h
  have hmatch : modelClass.doesMatch (jsonDictionary entries) = false := by
    rcases hname with rfl | rfl
    · exact JSONModelClass.doesMatch_eq_false "account" (by decide) (by decide) hmissing
    · exact JSONModelClass.doesMatch_eq_false "password" (by decide) (by decide) hmissing
  simp [initWithDictionary, hmatch]

end PPWebsiteModel

/-! ## Bank cards -/

/-- `type` is the raw value of a `PPBankCardType`. -/
structure PPBankCardModel where
  aId : Option ℤ
  frontImg : Option NSData
  backImg : Option NSData
  type : ℕ
  expireDate : Option String
  account : Option String
  password : Option String
  cvvCode : Option String
  pin : Option String
  describe : Option String
  logoImageUrl : Option String
  cTime : ℤ
deriving DecidableEq

namespace PPBankCardModel

def modelClass : JSONModelClass where
  properties := ["aId", "frontImg", "backImg", "type", "expireDate", "account", "password",
    "cvvCode", "pin", "describe", "logoImageUrl", "cTime"]
  optional := ["frontImg", "backImg", "expireDate", "cvvCode", "pin", "describe", "cTime"]
  keyMapper := [("aId", "id"), ("type", "type"), ("frontImg", "frontImg"), ("backImg", "backImg"),
    ("expireDate", "expireDate"), ("account", "account"), ("password", "password"),
    ("cvvCode", "cvvCode"), ("pin", "pin"), ("describe", "describe"), ("cTime", "ctime")]

/-- `initWithDictionary:error:`. A negative number set as a `PPBankCardType` wraps around. -/
def initWithDictionary (dic : JSONDictionary) : Option PPBankCardModel :=
  if modelClass.doesMatch dic then
    some
      { aId := modelClass.number dic "aId"
        frontImg := none
        backImg := none
        type := (((modelClass.number dic "type").getD 0) % 2 ^ 64).toNat
        expireDate := modelClass.string dic "expireDate"
        account := modelClass.string dic "account"
        password := modelClass.string dic "password"
        cvvCode := modelClass.string dic "cvvCode"
        pin := modelClass.string dic "pin"
        describe := modelClass.string dic "describe"
        logoImageUrl := modelClass.string dic "logoImageUrl"
        cTime := (modelClass.number dic "cTime").getD 0 }
  else none

/-- With an id, a type, an account, a password and a logo address the import succeeds, and every
value but the creation time arrives. -/
theorem initWithDictionary_eq_some (id type cTime : ℤ) (account password logoImageUrl : String)
    (expireDate cvvCode pin describe : Option String) :
    initWithDictionary (jsonDictionary
      [("id", some (.number id)), ("type", some (.number type)),
        ("account", some (.string account)), ("password", some (.string password)),
        ("expireDate", expireDate.map .string), ("cvvCode", cvvCode.map .string),
        ("pin", pin.map .string), ("logoImageUrl", some (.string logoImageUrl)),
        ("describe", describe.map .string), ("cTime", some (.number cTime))]) =
      some
        { aId := some id
          frontImg := none
          backImg := none
          type := (type % 2 ^ 64).toNat
          expireDate := expireDate
          account := some account
          password := some password
          cvvCode := cvvCode
          pin := pin
          describe := describe
          logoImageUrl := some logoImageUrl
          cTime := 0 } := by
  cases expireDate <;> cases cvvCode <;> cases pin <;> cases describe <;> rfl

/-- Without an account, a password or a logo address the import fails: the logo address is not among
the optional properties. -/
theorem initWithDictionary_eq_none {entries : List (String × Option JSONValue)} {name : String}
    (hname : name = "account" ∨ name = "password" ∨ name = "logoImageUrl")
    (h : ∀ entry ∈ entries, entry.1 = name → entry.2 = none) :
    initWithDictionary (jsonDictionary entries) = none := by
  have hmissing := lookup_jsonDictionary_eq_none h
  have hmatch : modelClass.doesMatch (jsonDictionary entries) = false := by
    rcases hname with rfl | rfl | rfl
    · exact JSONModelClass.doesMatch_eq_false "account" (by decide) (by decide) hmissing
    · exact JSONModelClass.doesMatch_eq_false "password" (by decide) (by decide) hmissing
    · exact JSONModelClass.doesMatch_eq_false "logoImageUrl" (by decide) (by decide)
        hmissing
  simp [initWithDictionary, hmatch]

end PPBankCardModel

end PasswordPackage
