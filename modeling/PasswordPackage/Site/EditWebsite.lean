import PasswordPackage.Data.Schema
import PasswordPackage.Site.InputWebsite

/-!
# Editing a website without changing it

The edit form is filled from the model of a row and saved back from what it displays. Between the
two stand a decoder, controls that cannot be empty in the sense of nil, and the names that are shown
in Chinese.
-/

namespace PasswordPackage.InputWebsite

open FMDB KeyedTable DataManager SearchItem

variable {E : Engine Row}

/-! ## Saving -/

/-- What a press of the finish button leaves in the table, `none` when nothing is saved. -/
def save (form : Form) (cTime : ℤ) (table : E.Table) : Option E.Table :=
  match (pressedFinishButton form).2 with
  | .showError _ => none
  | .update id model => updateWebsizeWithId (id.getD 0) model table
  | .insert model => insertWebsiteWithModel model cTime table

/-- The schemes that `schemeOfTitle:` knows. -/
def schemes : List (String × String) :=
  [("Wechat", "weixin"), ("QQ", "mqq"), ("Taobao", "taobao"), ("Zhihu", "zhihu"),
    ("Baidu", "BaiduSSO"), ("Weibo", "weibo"), ("163", "neteasemail"),
    ("jingdong", "openApp.jdMobile"), ("Yinxiang", "evernote"), ("douban", "doubanradio"),
    ("12306", "cn.12306")]

/-- `schemeOfTitle:`. -/
def schemeOfTitle (title : Option String) : Option String :=
  title.bind fun title => schemes.lookup title

/-! ## The identity -/

/-- The model as the form leaves it when nothing is touched. -/
def untouched (png : NSData → Option NSData) (model : PPWebsiteModel) : PPWebsiteModel :=
  (viewDidLoad png (fun _ => none) (some model) "").editedWebsite model

/-- The table after the record was opened and finished at once. -/
def editedTable (png : NSData → Option NSData) (model : PPWebsiteModel) (table : E.Table) :
    E.Table :=
  (save (viewDidLoad png (fun _ => none) (some model) "") 0 table).getD table

/-- The scheme found for the title of a stored row, once it is read again. -/
def storedScheme (id : ℤ) (row : Row) : Option String :=
  schemeOfTitle ((websiteFromResult (resultSet id row)).bind PPWebsiteModel.title)

/-- Opening the model of a row and finishing at once leaves every column of every row, and the
scheme found for the record. -/
structure EditIsIdentity (png : NSData → Option NSData) (id : ℤ) (row : Row)
    (model : PPWebsiteModel) (table : E.Table) : Prop where
  rows : E.rows (editedTable png model table) = E.rows table
  scheme : ∀ row', (id, row') ∈ E.rows (editedTable png model table) →
    storedScheme id row' = storedScheme id row

/-- A cell with a text that can be displayed and bound again. -/
def TextKept (cell : SqlValue) : Prop :=
  ∃ s, cell = .text s ∧ NoNul s

/-- The cells that the form displays as they are. -/
structure CellsKept (cells : WebsiteCells) : Prop where
  title : cells.title = .null ∨
    ∃ s, cells.title = .text s ∧ NoNul s ∧ ∀ p ∈ descriptions, p.1 ≠ s
  iconImg : cells.iconImg = .null ∨ ∃ d, cells.iconImg = .blob d ∧ d ≠ []
  account : TextKept cells.account
  password : TextKept cells.password
  link : TextKept cells.link
  describe : TextKept cells.describe

/-- What the form displays of some cells is what another row holds. -/
structure DisplayedBy (png : NSData → Option NSData) (cells other : WebsiteCells) : Prop where
  title : bindObject ((cells.title.string.map descriptionWithName).map .string) = other.title
  iconImg : bindObject ((cells.iconImg.data.bind png).map .data) = other.iconImg
  account : bindObject (some (.string (cells.account.string.getD ""))) = other.account
  password : bindObject (some (.string (cells.password.string.getD ""))) = other.password
  link : bindObject (some (.string (cells.link.string.getD ""))) = other.link
  describe : bindObject (some (.string (cells.describe.string.getD ""))) = other.describe

/-- Why finishing may change nothing: the form is rejected or the engine refuses the update; the row
is displayed as it is; or the id is beyond 32 bits, and the row under the id it is read as, if there
is one, holds what is displayed already. -/
inductive NothingWritten (png : NSData → Option NSData) (id : ℤ) (cells : WebsiteCells)
    (model : PPWebsiteModel) (table : E.Table) : Prop where
  | rejected (h : model.account = some "" ∨ model.password = some "")
  | refused
      (h : E.update (id.bmod (2 ^ 32)) (setWebsite (untouched png model)) table = none)
  | kept (hid : InInt32 id) (h : CellsKept cells)
  | elsewhere (hid : ¬ InInt32 id)
      (h : ∀ other : WebsiteCells, (id.bmod (2 ^ 32), other.row) ∈ E.rows table →
        DisplayedBy png cells other)

/-! ## Cell by cell -/

/-- A text field keeps exactly the cells with a text; in particular null becomes empty text. -/
theorem text_kept_iff {cell : SqlValue} :
    bindObject (some (.string (cell.string.getD ""))) = cell ↔ TextKept cell := by
  cases cell with
  | text s =>
      have htwice : cString (cString s) = cString s := cString_eq_self (noNul_cString s)
      simp [bindObject, SqlValue.string, TextKept, htwice, cString_eq_self_iff]
  | _ => simp [bindObject, TextKept]

/-- A rewritten name has no zero character. -/
theorem noNul_descriptionWithName {name : String} (h : NoNul name) :
    NoNul (descriptionWithName name) := by
  have hall : ∀ p ∈ descriptions, Char.ofNat 0 ∉ p.2.toList := by decide
  unfold descriptionWithName
  cases hlookup : descriptions.lookup name with
  | none => exact h
  | some description =>
      obtain ⟨before, after, heq, -⟩ := List.lookup_eq_some_iff.mp hlookup
      exact hall (name, description)
        (heq ▸ List.mem_append_right _ List.mem_cons_self)

/-- The label keeps null, and the texts that are not shown in Chinese. -/
theorem title_kept_iff {cell : SqlValue} :
    bindObject ((cell.string.map descriptionWithName).map .string) = cell ↔
      cell = .null ∨ ∃ s, cell = .text s ∧ NoNul s ∧ ∀ p ∈ descriptions, p.1 ≠ s := by
  cases cell with
  | null => exact iff_of_true rfl (Or.inl rfl)
  | integer n => simp [bindObject, SqlValue.string]
  | blob d => cases h : blobToText d <;> simp [bindObject, SqlValue.string, h]
  | text s =>
      simp only [SqlValue.string, Option.map_some, bindObject, SqlValue.text.injEq, reduceCtorEq,
        false_or]
      constructor
      · intro h
        have hs : NoNul s := h ▸ noNul_cString _
        rw [cString_eq_self hs, cString_eq_self (noNul_descriptionWithName hs)] at h
        exact ⟨s, rfl, hs, descriptionWithName_eq_self_iff.mp h⟩
      · rintro ⟨_, rfl, hs, hname⟩
        rw [cString_eq_self hs, descriptionWithName_eq_self_iff.mpr hname, cString_eq_self hs]

/-- With a faithful encoding, the image keeps null and the blobs that are not empty. -/
theorem icon_kept_iff {png : NSData → Option NSData} {cell : SqlValue}
    (hpng : ∀ d, cell.data = some d → png d = some d) :
    bindObject ((cell.data.bind png).map .data) = cell ↔
      cell = .null ∨ ∃ d, cell = .blob d ∧ d ≠ [] := by
  have hbind : cell.data.bind png = cell.data := by
    cases hdata : cell.data with
    | none => rfl
    | some d => exact hpng d hdata
  rw [hbind]
  cases cell with
  | null => exact iff_of_true rfl (Or.inl rfl)
  | integer n => simp [bindObject, SqlValue.data]
  | text s => by_cases h : s = "" <;> simp [bindObject, SqlValue.data, h]
  | blob d => by_cases h : d = [] <;> simp [bindObject, SqlValue.data, h]

/-! ## The whole record -/

variable {png : NSData → Option NSData} {id : ℤ} {cells : WebsiteCells} {model : PPWebsiteModel}
  {table : E.Table}

/-- Finishing at once is rejected without an account or a password, and is an update otherwise. -/
theorem save_untouched (png : NSData → Option NSData) (table : E.Table)
    (haccount : model.account ≠ none) (hpassword : model.password ≠ none) :
    save (viewDidLoad png (fun _ => none) (some model) "") 0 table =
      if model.account = some "" ∨ model.password = some "" then none
      else updateWebsizeWithId (model.aId.getD 0) (untouched png model) table := by
  obtain ⟨account, haccount⟩ := Option.ne_none_iff_exists'.mp haccount
  obtain ⟨password, hpassword⟩ := Option.ne_none_iff_exists'.mp hpassword
  unfold save pressedFinishButton
  by_cases h₁ : account = ""
  · simp [viewDidLoad, haccount, h₁]
  by_cases h₂ : password = ""
  · simp [viewDidLoad, haccount, hpassword, h₁, h₂]
  · simp [viewDidLoad, untouched, haccount, hpassword, h₁, h₂]

/-- What is written over a row is what was there exactly if it is what is displayed. -/
theorem setWebsite_untouched_eq_iff
    (hread : websiteFromResult (resultSet id cells.row) = some model) (other : WebsiteCells) :
    setWebsite (untouched png model) other.row = other.row ↔ DisplayedBy png cells other := by
  rw [websiteFromResult_row] at hread
  obtain ⟨account, haccount, hread⟩ := Option.bind_eq_some_iff.mp hread
  obtain ⟨password, hpassword, rfl⟩ := Option.map_eq_some_iff.mp hread
  have haccount' : account = cells.account.string.getD "" := by rw [haccount]; rfl
  have hpassword' : password = cells.password.string.getD "" := by rw [hpassword]; rfl
  subst haccount' hpassword'
  have hrow : setWebsite (untouched png (cells.model id (cells.account.string.getD "")
      (cells.password.string.getD ""))) other.row = WebsiteCells.row
        { iconImg := bindObject ((cells.iconImg.data.bind png).map .data)
          title := bindObject ((cells.title.string.map descriptionWithName).map .string)
          account := bindObject (some (.string (cells.account.string.getD "")))
          password := bindObject (some (.string (cells.password.string.getD "")))
          link := bindObject (some (.string (cells.link.string.getD "")))
          describe := bindObject (some (.string (cells.describe.string.getD "")))
          ctime := other.ctime } := rfl
  rw [hrow]
  simp only [WebsiteCells.row, List.cons.injEq, Prod.mk.injEq, true_and, and_true]
  exact ⟨fun ⟨hicon, htitle, haccount, hpassword, hlink, hdescribe⟩ =>
      ⟨htitle, hicon, haccount, hpassword, hlink, hdescribe⟩,
    fun h => ⟨h.iconImg, h.title, h.account, h.password, h.link, h.describe⟩⟩

/-- A row holds what is displayed of it exactly if its cells are displayed as they are. -/
theorem displayedBy_self_iff (hread : websiteFromResult (resultSet id cells.row) = some model)
    (hpng : ∀ d, model.iconImg = some d → png d = some d) :
    DisplayedBy png cells cells ↔ CellsKept cells := by
  have hicon : model.iconImg = cells.iconImg.data := by
    rw [websiteFromResult_row] at hread
    obtain ⟨account, -, hread⟩ := Option.bind_eq_some_iff.mp hread
    obtain ⟨password, -, rfl⟩ := Option.map_eq_some_iff.mp hread
    rfl
  rw [hicon] at hpng
  -- each column for itself
  constructor
  · intro h
    exact
      { title := title_kept_iff.mp h.title
        iconImg := (icon_kept_iff hpng).mp h.iconImg
        account := text_kept_iff.mp h.account
        password := text_kept_iff.mp h.password
        link := text_kept_iff.mp h.link
        describe := text_kept_iff.mp h.describe }
  · intro h
    exact
      { title := title_kept_iff.mpr h.title
        iconImg := (icon_kept_iff hpng).mpr h.iconImg
        account := text_kept_iff.mpr h.account
        password := text_kept_iff.mpr h.password
        link := text_kept_iff.mpr h.link
        describe := text_kept_iff.mpr h.describe }

/-- There is one row under the id, so the scheme follows the rows. -/
theorem editIsIdentity_iff_rows (hshape : Shaped websiteColumns table)
    (hmem : (id, cells.row) ∈ E.rows table) :
    EditIsIdentity png id cells.row model table ↔
      E.rows (editedTable png model table) = E.rows table := by
  refine ⟨EditIsIdentity.rows, fun h => ⟨h, fun row' hrow' => ?_⟩⟩
  rw [h] at hrow'
  rw [eq_of_mem_of_sorted hshape.sorted hrow' hmem]

/-- Opening a record and finishing at once is the identity exactly when nothing is written, or only
what was there. -/
theorem edit_isIdentity_iff (hshape : Shaped websiteColumns table)
    (hmem : (id, cells.row) ∈ E.rows table)
    (hread : websiteFromResult (resultSet id cells.row) = some model)
    (hpng : ∀ d, model.iconImg = some d → png d = some d) :
    EditIsIdentity png id cells.row model table ↔ NothingWritten png id cells model table := by
  have hset : ∀ other : WebsiteCells, setWebsite (untouched png model) other.row = other.row ↔
      DisplayedBy png cells other := setWebsite_untouched_eq_iff hread
  have hkept := displayedBy_self_iff hread hpng
  rw [editIsIdentity_iff_rows hshape hmem]
  rw [websiteFromResult_row] at hread
  obtain ⟨account, -, hread⟩ := Option.bind_eq_some_iff.mp hread
  obtain ⟨password, -, hmodel⟩ := Option.map_eq_some_iff.mp hread
  have haId : model.aId = some (id.bmod (2 ^ 32)) := by rw [← hmodel]; rfl
  have haId' : (untouched png model).aId = some (id.bmod (2 ^ 32)) := haId
  have haccount : model.account ≠ none := by simp [← hmodel, WebsiteCells.model]
  have hpassword : model.password ≠ none := by simp [← hmodel, WebsiteCells.model]
  have hsave := save_untouched png table haccount hpassword
  rw [haId, Option.getD_some] at hsave
  unfold editedTable
  rw [hsave]
  -- the form refuses an empty account or password
  by_cases hrejected : model.account = some "" ∨ model.password = some ""
  · rw [if_pos hrejected]
    exact iff_of_true rfl (.rejected hrejected)
  rw [if_neg hrejected]
  cases hupdate : updateWebsizeWithId (id.bmod (2 ^ 32)) (untouched png model) table with
  | none =>
      -- the engine refuses the statement
      obtain ⟨id', hid', hrefused⟩ := (updateWebsite_eq_none_iff _).mp hupdate
      obtain rfl := Option.some.inj (haId'.symm.trans hid')
      exact iff_of_true rfl (.refused hrefused)
  | some table' =>
      -- the row with the id of the model is written, which may be another one
      rw [Option.getD_some, rows_updateWebsite hupdate, modify_eq_self_iff, haId']
      constructor
      · intro h
        by_cases hid : InInt32 id
        · rw [bmod_eq_self_iff.mpr hid] at h
          exact .kept hid (hkept.mp ((hset cells).mp (h _ hmem rfl)))
        · exact .elsewhere hid fun other hother => (hset other).mp (h _ hother rfl)
      · rintro (h | h | ⟨hid, h⟩ | ⟨hid, h⟩) ⟨key, row⟩ hrow hkey
        · exact absurd h hrejected
        · have hnone := (updateWebsite_eq_none_iff (id.bmod (2 ^ 32))).mpr ⟨_, haId', h⟩
          exact absurd (hupdate.symm.trans hnone) (by simp)
        · obtain rfl : key = id := (Option.some.inj hkey).trans (bmod_eq_self_iff.mpr hid)
          obtain rfl := eq_of_mem_of_sorted hshape.sorted hrow hmem
          exact (hset cells).mpr (hkept.mpr h)
        · obtain rfl := Option.some.inj hkey
          obtain ⟨other, rfl⟩ := exists_websiteCells (hshape.columns _ hrow)
          exact (hset other).mpr (h other hrow)

/-- Of the names that are shown in Chinese, only one keeps its scheme: it never had one. -/
theorem schemeOfTitle_descriptionWithName_iff {name : String} :
    schemeOfTitle (some (descriptionWithName name)) = schemeOfTitle (some name) ↔
      (∀ p ∈ descriptions, p.1 ≠ name) ∨ name = "zhifubao" := by
  by_cases hname : ∀ p ∈ descriptions, p.1 ≠ name
  · exact iff_of_true (by rw [descriptionWithName_eq_self_iff.mpr hname]) (Or.inl hname)
  · push Not at hname
    obtain ⟨p, hp, rfl⟩ := hname
    have hall : ∀ p ∈ descriptions,
        schemeOfTitle (some (descriptionWithName p.1)) = schemeOfTitle (some p.1) ↔
          p.1 = "zhifubao" := by decide
    rw [hall p hp]
    exact ⟨Or.inr, fun h => h.resolve_left fun hne => hne p hp rfl⟩

/-! ## Examples -/

/-- The cells of a site entered under a name of the bundle, without an icon. -/
def namedSite (title : String) : WebsiteCells where
  iconImg := .null
  title := .text title
  account := .text "me"
  password := .text "secret"
  link := .text "https://www.wechat.com"
  describe := .text ""
  ctime := .integer 0

/-- The table with that site. -/
def namedTable (title : String) : (Engine.memory Row).Table :=
  ([(1, (namedSite title).row)], 1)

theorem shaped_namedTable (title : String) :
    Shaped (E := Engine.memory Row) websiteColumns (namedTable title) where
  columns := by
    rintro p hp
    rw [List.mem_singleton.mp hp]
    rfl
  sorted := List.pairwise_singleton _ _
  le_sequence := by
    rintro p hp
    rw [List.mem_singleton.mp hp]
    exact le_refl 1

theorem edit_isIdentity_github :
    EditIsIdentity (E := Engine.memory Row) some 1 (namedSite "Github").row
      ((namedSite "Github").model 1 "me" "secret") (namedTable "Github") := by
  refine (edit_isIdentity_iff (shaped_namedTable "Github") List.mem_cons_self rfl
    fun _ _ => rfl).mpr (.kept (bmod_eq_self_iff.mp rfl) ?_)
  refine ⟨Or.inr ⟨_, rfl, ?_, by decide⟩, Or.inl rfl, ⟨_, rfl, ?_⟩, ⟨_, rfl, ?_⟩, ⟨_, rfl, ?_⟩,
    ⟨_, rfl, ?_⟩⟩
  all_goals simp [NoNul]

/-- The title of a Wechat record becomes 微信, for which no scheme is known. -/
theorem not_edit_isIdentity_wechat :
    ¬ EditIsIdentity (E := Engine.memory Row) some 1 (namedSite "Wechat").row
      ((namedSite "Wechat").model 1 "me" "secret") (namedTable "Wechat") := by
  intro h
  have hscheme := h.scheme (updatedWebsite
    (untouched some ((namedSite "Wechat").model 1 "me" "secret")) (namedSite "Wechat")).row
      List.mem_cons_self
  exact absurd hscheme (by decide)

end PasswordPackage.InputWebsite
