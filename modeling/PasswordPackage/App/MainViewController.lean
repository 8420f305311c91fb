import Mathlib.Data.List.TakeDrop
import PasswordPackage.App.Sessions
import PasswordPackage.Common.Heap
import PasswordPackage.Data.Reading
import PasswordPackage.Site.EditWebsite

/-!
# The list of websites

`MainViewController` lists model objects and hands the object itself to the screens it opens. The
edit form assigns to that object before it asks the data manager, and the list is read anew only
after a statement has succeeded.
-/

namespace PasswordPackage.MainViewController

open FMDB KeyedTable DataManager InputWebsite Machine Heap

variable {E : Engine Row}

/-! ## The list and the screens over it -/

/-- How far the cursor of a query gets: to the last row, or through at most `n` rows. A query that
cannot be run delivers no row. -/
inductive Query where
  | complete
  | interrupted (n : ℕ)
deriving DecidableEq

/-- The screen in front of the user. A screen for a record has the reference to its object. -/
inductive Screen where
  | list
  | present (ref : ℕ)
  | confirmDelete (ref : ℕ)
  | edit (ref : ℕ) (form : Form)
  | input (form : Form)
deriving DecidableEq

/-- The table, the model objects made so far, the references to the listed ones, and the screen. -/
structure Main (E : Engine Row) where
  table : E.Table
  objects : List PPWebsiteModel
  dataArray : List ℕ
  screen : Screen

/-- What the user and the data manager do. A statement that is `refused` returns `NO` whatever the
engine says; a query goes with every event that ends in `refreshData`. -/
inductive Event where
  | refreshData (query : Query)
  | didSelectRow (row : ℕ)
  | pressedEditButton
  | pressedDeleteButton
  | alertCallBack (index : ℤ) (refused : Bool) (query : Query)
  | showInputWebsite (webSiteName : String)
  | typed (accountTF passwordTF websiteTF describeTextView : String)
  | pickedPhoto (iconImage : Option NSData)
  | pressedFinishButton (refused : Bool) (cTime : ℤ) (query : Query)
  | dismiss
deriving DecidableEq

/-- The rows that a query delivers. -/
def Query.delivered (query : Query) (rows : List (ℤ × Row)) : List (ℤ × Row) :=
  match query with
  | .complete => rows
  | .interrupted n => rows.take n

/-- `getAllWebsite`, as far as its query gets. -/
def queriedWebsites (query : Query) (table : E.Table) : List PPWebsiteModel :=
  (query.delivered (E.rows table)).filterMap fun (id, row) => websiteFromResult (resultSet id row)

/-- `refreshData`. The listed objects are new ones. -/
def refreshData (query : Query) (s : Main E) : Main E :=
  let array := queriedWebsites query s.table
  { s with
    objects := s.objects ++ array
    dataArray := fresh s.objects array }

/-- `viewDidLoad`. -/
def viewDidLoad (query : Query) (table : E.Table) : Main E :=
  refreshData query { table := table, objects := [], dataArray := [], screen := .list }

/-- The answer to a statement. -/
def answer (refused : Bool) (result : Option E.Table) : Option E.Table :=
  if refused then none else result

/-- After `YES` the list is read anew and the screen is dismissed; after `NO` nothing is done. -/
def completed (query : Query) (s : Main E) (result : Option E.Table) : Main E :=
  match result with
  | none => s
  | some table => { refreshData query { s with table := table } with screen := .list }

/-- `pressedFinishButton:` in the edit form. The object is assigned to before the statement. -/
def finishEdit (refused : Bool) (query : Query) (s : Main E) (ref : ℕ) (form : Form) : Main E :=
  match s.objects[ref]? with
  | none => s
  | some model =>
      match pressedFinishButton { form with websiteModel := some model } with
      | (form, .update id model) =>
          completed query
            { s with objects := s.objects.set ref model, screen := .edit ref form }
            (answer refused (updateWebsizeWithId (id.getD 0) model s.table))
      | _ => s

/-- `pressedFinishButton:` in the form for a new record. -/
def finishInput (refused : Bool) (cTime : ℤ) (query : Query) (s : Main E) (form : Form) : Main E :=
  match pressedFinishButton { form with websiteModel := none } with
  | (form, .insert model) =>
      completed query { s with screen := .input form }
        (answer refused (insertWebsiteWithModel model cTime s.table))
  | _ => s

/-- The deletion of the record with an object. -/
def delete (refused : Bool) (query : Query) (s : Main E) (ref : ℕ) : Main E :=
  match s.objects[ref]? with
  | none => s
  | some model =>
      completed query { s with screen := .list }
        (answer refused (Sessions.deleteId deleteWebsiteWithId model.aId s.table))

/-- The texts of the form after typing. -/
def typeInto (form : Form) (accountTF passwordTF websiteTF describeTextView : String) : Form :=
  { form with
    accountTF := accountTF
    passwordTF := passwordTF
    websiteTF := websiteTF
    describeTextView := describeTextView }

/-- The screen after an event that asks nothing of the data manager. Events for a screen that is not
in front do nothing. -/
def shown (png : NSData → Option NSData) (bundled : String → Option NSData) (s : Main E)
    (e : Event) : Screen :=
  match e, s.screen with
  | .didSelectRow row, .list =>
      match s.dataArray[row]? with
      | none => .list
      | some ref => .present ref
  | .pressedEditButton, .present ref =>
      match s.objects[ref]? with
      | none => .list
      | some model => .edit ref (InputWebsite.viewDidLoad png bundled (some model) "")
  | .pressedDeleteButton, .present ref => .confirmDelete ref
  | .showInputWebsite webSiteName, .list =>
      .input (InputWebsite.viewDidLoad png bundled none webSiteName)
  | .typed accountTF passwordTF websiteTF describeTextView, .edit ref form =>
      .edit ref (typeInto form accountTF passwordTF websiteTF describeTextView)
  | .typed accountTF passwordTF websiteTF describeTextView, .input form =>
      .input (typeInto form accountTF passwordTF websiteTF describeTextView)
  | .pickedPhoto iconImage, .edit ref form => .edit ref { form with iconImage := iconImage }
  | .pickedPhoto iconImage, .input form =>
      .input
        { form with
          iconImage := iconImage
          insertModel := { form.insertModel with iconImg := iconImage } }
  | .dismiss, _ => .list
  | _, screen => screen

/-- One event. -/
def step (png : NSData → Option NSData) (bundled : String → Option NSData) (s : Main E)
    (e : Event) : Main E :=
  match e with
  | .refreshData query => refreshData query s
  | .alertCallBack index refused query =>
      match s.screen with
      | .confirmDelete ref =>
          if index = 1 then delete refused query s ref else { s with screen := .list }
      | _ => s
  | .pressedFinishButton refused cTime query =>
      match s.screen with
      | .edit ref form => finishEdit refused query s ref form
      | .input form => finishInput refused cTime query s form
      | _ => s
  | e => { s with screen := shown png bundled s e }

/-! ## The list and the table -/

/-- What is read from a row. -/
def read (p : ℤ × Row) : Option PPWebsiteModel :=
  websiteFromResult (resultSet p.1 p.2)

/-- The models that the list shows. -/
def Main.listed (s : Main E) : List PPWebsiteModel :=
  deref s.objects s.dataArray

/-- The list has, row by row, what is read from the table. -/
def Agrees (s : Main E) : Prop :=
  (E.rows s.table).map read = s.listed.map some

instance (s : Main E) : Decidable (Agrees s) :=
  inferInstanceAs (Decidable ((E.rows s.table).map read = s.listed.map some))

/-- Every row has an account and a password that can be read. -/
def AllReadable (table : E.Table) : Prop :=
  ∀ p ∈ E.rows table, Readable (resultSet p.1 p.2) "account" ∧
    Readable (resultSet p.1 p.2) "password"

/-- The query delivers every row of the table. -/
def Complete (query : Query) (table : E.Table) : Prop :=
  match query with
  | .complete => True
  | .interrupted n => (E.rows table).length ≤ n

/-- The form displays what the model holds. -/
structure Displays (form : Form) (model : PPWebsiteModel) : Prop where
  title : model.title = form.iconLabel
  account : model.account = some form.accountTF
  password : model.password = some form.passwordTF
  link : model.link = some form.websiteTF
  describe : model.describe = some form.describeTextView
  iconImg : model.iconImg = form.iconImage

/-- The form has an account and a password. -/
def Accepted (form : Form) : Prop :=
  form.accountTF.length ≠ 0 ∧ form.passwordTF.length ≠ 0

instance (form : Form) : Decidable (Accepted form) :=
  inferInstanceAs (Decidable (form.accountTF.length ≠ 0 ∧ form.passwordTF.length ≠ 0))

/-- After `YES`, the query that follows delivers every row; after `NO`, the list is untouched. -/
def Answered (query : Query) (untouched : Prop) (result : Option E.Table) : Prop :=
  match result with
  | none => untouched
  | some table => Complete query table

/-- An edit that is refused has assigned nothing new to a listed object. -/
def EditTraceless (refused : Bool) (query : Query) (s : Main E) (ref : ℕ) (form : Form) : Prop :=
  ∀ model ∈ s.objects[ref]?, Accepted form →
    Answered query (ref ∈ s.dataArray → Displays form model)
      (answer refused (updateWebsizeWithId (model.aId.getD 0) (form.editedWebsite model) s.table))

def InputTraceless (refused : Bool) (cTime : ℤ) (query : Query) (s : Main E) (form : Form) : Prop :=
  Accepted form →
    Answered query True (answer refused (insertWebsiteWithModel form.newWebsite cTime s.table))

def DeleteTraceless (refused : Bool) (query : Query) (s : Main E) (ref : ℕ) : Prop :=
  ∀ model ∈ s.objects[ref]?,
    Answered query True
      (answer refused (Sessions.deleteId deleteWebsiteWithId model.aId s.table))

/-- Every query of the event delivers every row, and an edit that is refused has assigned nothing
new to a listed object. -/
def Traceless (s : Main E) (e : Event) : Prop :=
  match e with
  | .refreshData query => Complete query s.table
  | .alertCallBack index refused query =>
      match s.screen with
      | .confirmDelete ref => index = 1 → DeleteTraceless refused query s ref
      | _ => True
  | .pressedFinishButton refused cTime query =>
      match s.screen with
      | .edit ref form => EditTraceless refused query s ref form
      | .input form => InputTraceless refused cTime query s form
      | _ => True
  | _ => True

instance (query : Query) (table : E.Table) : Decidable (Complete query table) :=
  match query with
  | .complete => isTrue trivial
  | .interrupted n => inferInstanceAs (Decidable ((E.rows table).length ≤ n))

theorem editedWebsite_eq_self_iff {form : Form} {model : PPWebsiteModel} :
    form.editedWebsite model = model ↔ Displays form model := by
  constructor
  · intro h
    constructor <;> rw [← h] <;> rfl
  · rintro ⟨htitle, haccount, hpassword, hlink, hdescribe, hicon⟩
    unfold Form.editedWebsite
    rw [← htitle, ← haccount, ← hpassword, ← hlink, ← hdescribe, ← hicon]

instance (form : Form) (model : PPWebsiteModel) : Decidable (Displays form model) :=
  decidable_of_iff _ editedWebsite_eq_self_iff

instance (query : Query) (untouched : Prop) [Decidable untouched] (result : Option E.Table) :
    Decidable (Answered query untouched result) :=
  match result with
  | none => inferInstanceAs (Decidable untouched)
  | some table => inferInstanceAs (Decidable (Complete query table))

instance (refused : Bool) (query : Query) (s : Main E) (ref : ℕ) (form : Form) :
    Decidable (EditTraceless refused query s ref form) :=
  inferInstanceAs (Decidable (∀ model ∈ s.objects[ref]?, Accepted form → Answered _ _ _))

instance (refused : Bool) (cTime : ℤ) (query : Query) (s : Main E) (form : Form) :
    Decidable (InputTraceless refused cTime query s form) :=
  inferInstanceAs (Decidable (Accepted form → Answered _ _ _))

instance (refused : Bool) (query : Query) (s : Main E) (ref : ℕ) :
    Decidable (DeleteTraceless refused query s ref) :=
  inferInstanceAs (Decidable (∀ model ∈ s.objects[ref]?, Answered _ _ _))

instance : (s : Main E) → (e : Event) → Decidable (Traceless s e)
  | s, .refreshData query => inferInstanceAs (Decidable (Complete query s.table))
  | ⟨table, objects, dataArray, screen⟩, .alertCallBack index refused query =>
      match screen with
      | .confirmDelete ref =>
          inferInstanceAs (Decidable (index = 1 → DeleteTraceless refused query
            ⟨table, objects, dataArray, .confirmDelete ref⟩ ref))
      | .list | .present _ | .edit _ _ | .input _ => isTrue trivial
  | ⟨table, objects, dataArray, screen⟩, .pressedFinishButton refused cTime query =>
      match screen with
      | .edit ref form =>
          inferInstanceAs (Decidable (EditTraceless refused query
            ⟨table, objects, dataArray, .edit ref form⟩ ref form))
      | .input form =>
          inferInstanceAs (Decidable (InputTraceless refused cTime query
            ⟨table, objects, dataArray, .input form⟩ form))
      | .list | .present _ | .confirmDelete _ => isTrue trivial
  | _, .didSelectRow _ | _, .pressedEditButton | _, .pressedDeleteButton
  | _, .showInputWebsite _ | _, .typed _ _ _ _ | _, .pickedPhoto _ | _, .dismiss => isTrue trivial

/-! ## Reading the table -/

theorem allReadable_iff {table : E.Table} :
    AllReadable table ↔ ∀ p ∈ E.rows table, (read p).isSome = true :=
  forall₂_congr fun _ _ => isSome_websiteFromResult_iff.symm

theorem delivered_prefix (query : Query) (rows : List (ℤ × Row)) :
    query.delivered rows <+: rows := by
  cases query with
  | complete => exact List.prefix_refl rows
  | interrupted n => exact List.take_prefix n rows

theorem complete_iff {query : Query} {table : E.Table} :
    Complete query table ↔ query.delivered (E.rows table) = E.rows table := by
  cases query with
  | complete => exact iff_of_true trivial rfl
  | interrupted n => exact (List.take_eq_self_iff _).symm

theorem Agrees.allReadable {s : Main E} (h : Agrees s) : AllReadable s.table :=
  allReadable_iff.mpr (isSome_of_map_eq_map_some h)

/-- A fresh list agrees exactly when every row can be read and was delivered. -/
theorem agrees_refreshData_iff {query : Query} {s : Main E} :
    Agrees (refreshData query s) ↔ AllReadable s.table ∧ Complete query s.table := by
  have hlisted : (refreshData query s).listed =
      (query.delivered (E.rows s.table)).filterMap read := deref_fresh _ _
  unfold Agrees
  rw [hlisted, allReadable_iff, complete_iff]
  have hpart := delivered_prefix query (E.rows s.table)
  exact map_eq_map_filterMap_iff hpart

/-! ## Statements keep the rows readable -/

variable {table table' : E.Table}

theorem AllReadable.insert (h : AllReadable table) {model : PPWebsiteModel} {cTime : ℤ}
    (haccount : model.account ≠ none) (hpassword : model.password ≠ none)
    (hinsert : insertWebsiteWithModel model cTime table = some table') : AllReadable table' := by
  rw [allReadable_iff] at h ⊢
  rw [rows_insertWebsite hinsert]
  intro p hp
  rcases List.mem_append.mp hp with hold | hnew
  · exact h p hold
  · rw [List.mem_singleton.mp hnew]
    exact isSome_insertedWebsite_iff.mpr ⟨haccount, hpassword⟩

theorem AllReadable.update (h : AllReadable table) (hshape : Shaped websiteColumns table)
    {aId : ℤ} {model : PPWebsiteModel} (haccount : model.account ≠ none)
    (hpassword : model.password ≠ none)
    (hupdate : updateWebsizeWithId aId model table = some table') : AllReadable table' := by
  rw [allReadable_iff] at h ⊢
  rw [rows_updateWebsite hupdate]
  rintro ⟨id, row⟩ hp
  obtain ⟨old, hold, rfl⟩ := mem_modify_iff.mp hp
  split_ifs
  · obtain ⟨cells, rfl⟩ := exists_websiteCells (hshape.columns _ hold)
    obtain ⟨account, haccount⟩ := Option.ne_none_iff_exists'.mp haccount
    obtain ⟨password, hpassword⟩ := Option.ne_none_iff_exists'.mp hpassword
    rw [read, setWebsite_row, websiteFromResult_row]
    simp [updatedWebsite, insertedWebsite, haccount, hpassword, bindObject, SqlValue.string]
  · exact h _ hold

theorem AllReadable.delete (h : AllReadable table) {id : Option ℤ}
    (hdelete : Sessions.deleteId deleteWebsiteWithId id table = some table') :
    AllReadable table' := by
  intro p hp
  rw [Sessions.rows_deleteId hdelete] at hp
  exact h p (List.mem_of_mem_filter hp)

/-! ## What an event does -/

variable {s : Main E} {form : Form} {model : PPWebsiteModel} {refused : Bool} {query : Query}

/-- Finishing the edit form of an object assigns to it, and then asks for the update. -/
theorem finishEdit_eq {ref : ℕ} (hobject : s.objects[ref]? = some model) :
    finishEdit refused query s ref form =
      if Accepted form then
        completed query
          { s with
            objects := s.objects.set ref (form.editedWebsite model)
            screen := .edit ref { form with websiteModel := some (form.editedWebsite model) } }
          (answer refused
            (updateWebsizeWithId (model.aId.getD 0) (form.editedWebsite model) s.table))
      else s := by
  unfold finishEdit pressedFinishButton Accepted
  rw [hobject]
  by_cases haccount : form.accountTF.length = 0
  · simp [haccount]
  by_cases hpassword : form.passwordTF.length = 0
  · simp [haccount, hpassword]
  · simp only [haccount, hpassword, if_false, ne_eq, not_false_eq_true, and_self, if_true]
    rfl

/-- Finishing the form for a new record asks for the insertion of a model of its own. -/
theorem finishInput_eq {cTime : ℤ} :
    finishInput refused cTime query s form =
      if Accepted form then
        completed query
          { s with
            screen := .input { form with websiteModel := none, insertModel := form.newWebsite } }
          (answer refused (insertWebsiteWithModel form.newWebsite cTime s.table))
      else s := by
  unfold finishInput pressedFinishButton Accepted
  by_cases haccount : form.accountTF.length = 0
  · simp [haccount]
  by_cases hpassword : form.passwordTF.length = 0
  · simp [haccount, hpassword]
  · simp only [haccount, hpassword, if_false, ne_eq, not_false_eq_true, and_self, if_true]
    rfl

/-- A refused statement changes nothing; otherwise the engine decides. -/
theorem of_answer {result : Option E.Table} (h : answer refused result = some table') :
    result = some table' := by
  unfold answer at h
  split_ifs at h
  exact h

/-- Assigning to an object keeps the list exactly when the object is not listed or keeps its value.
-/
theorem agrees_set_iff (hvalid : Valid s.objects s.dataArray) (hagrees : Agrees s) {ref : ℕ}
    (hobject : s.objects[ref]? = some model) (model' : PPWebsiteModel) (screen : Screen) :
    Agrees { s with objects := s.objects.set ref model', screen := screen } ↔
      (ref ∈ s.dataArray → model' = model) := by
  rw [← deref_set_eq_iff hvalid hobject]
  show (E.rows s.table).map read = (deref (s.objects.set ref model') s.dataArray).map some ↔ _
  rw [hagrees, List.map_inj_right fun _ _ => Option.some.inj, eq_comm]
  rfl

/-! ## One event -/

/-- The table has its columns, and the list refers to objects. -/
structure WellFormed (s : Main E) : Prop where
  shaped : Shaped websiteColumns s.table
  valid : Valid s.objects s.dataArray

/-- After a statement the list agrees exactly when the answer was `NO` and it did before, or the
answer was `YES` and the query that follows delivers every row. -/
theorem completed_spec {result : Option E.Table} {untouched : Prop} (hform : WellFormed s)
    (hagrees : Agrees s ↔ untouched)
    (hresult : ∀ table', result = some table' → Shaped websiteColumns table' ∧ AllReadable table') :
    WellFormed (completed query s result) ∧
      (Agrees (completed query s result) ↔ Answered query untouched result) := by
  cases result with
  | none => exact ⟨hform, hagrees⟩
  | some table' =>
      obtain ⟨hshape, hread⟩ := hresult table' rfl
      have hiff : Agrees (completed query s (some table')) ↔
          AllReadable table' ∧ Complete query table' :=
        agrees_refreshData_iff (s := { s with table := table' })
      exact ⟨⟨hshape, valid_fresh _ _⟩, hiff.trans (and_iff_right hread)⟩

theorem refreshData_spec (hform : WellFormed s) (hagrees : Agrees s) :
    WellFormed (refreshData query s) ∧ (Agrees (refreshData query s) ↔ Complete query s.table) :=
  ⟨⟨hform.shaped, valid_fresh _ _⟩,
    agrees_refreshData_iff.trans (and_iff_right hagrees.allReadable)⟩

/-- An edit is seen in the list before its statement has succeeded. -/
theorem finishEdit_spec (hform : WellFormed s) (hagrees : Agrees s) (ref : ℕ) :
    WellFormed (finishEdit refused query s ref form) ∧
      (Agrees (finishEdit refused query s ref form) ↔ EditTraceless refused query s ref form) := by
  cases hobject : s.objects[ref]? with
  | none =>
      rw [finishEdit, EditTraceless, hobject]
      exact ⟨hform, iff_of_true hagrees fun _ hmodel => absurd hmodel (Option.not_mem_none _)⟩
  | some model =>
      rw [finishEdit_eq hobject, EditTraceless, hobject]
      simp only [Option.mem_some, forall_eq']
      by_cases haccepted : Accepted form
      · rw [if_pos haccepted, forall_prop_of_true haccepted]
        have hset := agrees_set_iff hform.valid hagrees hobject (form.editedWebsite model)
          (.edit ref { form with websiteModel := some (form.editedWebsite model) })
        rw [editedWebsite_eq_self_iff] at hset
        refine completed_spec ?_ hset fun table' htable' => ?_
        · exact ⟨hform.shaped, hform.valid.set _ _⟩
        have hupdate := of_answer htable'
        exact ⟨hform.shaped.updateWebsite hupdate,
          hagrees.allReadable.update hform.shaped (by simp [Form.editedWebsite])
            (by simp [Form.editedWebsite]) hupdate⟩
      · rw [if_neg haccepted]
        exact ⟨hform, iff_of_true hagrees fun h => absurd h haccepted⟩

/-- An insertion is not seen in the list before its statement has succeeded. -/
theorem finishInput_spec (hform : WellFormed s) (hagrees : Agrees s) {cTime : ℤ} :
    WellFormed (finishInput refused cTime query s form) ∧
      (Agrees (finishInput refused cTime query s form) ↔
        InputTraceless refused cTime query s form) := by
  rw [finishInput_eq, InputTraceless]
  by_cases haccepted : Accepted form
  · rw [if_pos haccepted, forall_prop_of_true haccepted]
    refine completed_spec ?_ (iff_true_intro hagrees) fun table' htable' => ?_
    · exact ⟨hform.shaped, hform.valid⟩
    have hinsert := of_answer htable'
    exact ⟨hform.shaped.insertWebsite hinsert,
      hagrees.allReadable.insert (by simp [Form.newWebsite]) (by simp [Form.newWebsite]) hinsert⟩
  · rw [if_neg haccepted]
    exact ⟨hform, iff_of_true hagrees fun h => absurd h haccepted⟩

/-- Nor is a deletion. -/
theorem delete_spec (hform : WellFormed s) (hagrees : Agrees s) (ref : ℕ) :
    WellFormed (delete refused query s ref) ∧
      (Agrees (delete refused query s ref) ↔ DeleteTraceless refused query s ref) := by
  unfold delete DeleteTraceless
  cases s.objects[ref]? with
  | none => exact ⟨hform, iff_of_true hagrees fun _ hmodel => absurd hmodel (Option.not_mem_none _)⟩
  | some model =>
      simp only [Option.mem_some, forall_eq']
      refine completed_spec ?_ (iff_true_intro hagrees) fun table' htable' => ?_
      · exact ⟨hform.shaped, hform.valid⟩
      have hdelete := of_answer htable'
      exact ⟨Sessions.shaped_deleteId hform.shaped hdelete, hagrees.allReadable.delete hdelete⟩

variable {png : NSData → Option NSData} {bundled : String → Option NSData}

/-- One event from a list that agrees with the table. -/
theorem step_spec (png : NSData → Option NSData) (bundled : String → Option NSData)
    (hform : WellFormed s) (hagrees : Agrees s) (e : Event) :
    WellFormed (step png bundled s e) ∧ (Agrees (step png bundled s e) ↔ Traceless s e) := by
  have hscreen : ∀ screen, WellFormed { s with screen := screen } ∧
      (Agrees { s with screen := screen } ↔ True) :=
    fun _ => ⟨⟨hform.shaped, hform.valid⟩, iff_true_intro hagrees⟩
  cases e with
  | refreshData query => exact refreshData_spec hform hagrees
  | alertCallBack index refused query =>
      unfold step Traceless
      dsimp only
      split
      · split_ifs with hindex
        · rw [forall_prop_of_true hindex]
          exact delete_spec hform hagrees _
        · rw [iff_true_intro fun h => absurd h hindex]
          exact hscreen _
      · exact ⟨hform, iff_true_intro hagrees⟩
  | pressedFinishButton refused cTime query =>
      unfold step Traceless
      dsimp only
      split
      · exact finishEdit_spec hform hagrees _
      · exact finishInput_spec hform hagrees
      · exact ⟨hform, iff_true_intro hagrees⟩
  | _ => exact hscreen _

/-! ## Runs -/

/-- A run from the start of the list: after every event the list agrees with the table. -/
def LeavesNoTrace (png : NSData → Option NSData) (bundled : String → Option NSData) (query : Query)
    (table : E.Table) (es : List Event) : Prop :=
  Always (step png bundled) Agrees (viewDidLoad query table) es

/-- The list agrees with the table throughout exactly when every row can be read at the start, every
query delivers every row, and no refused edit has assigned anything new to a listed object. -/
theorem leavesNoTrace_iff {table : E.Table} (hshape : Shaped websiteColumns table) (query : Query)
    (es : List Event) :
    LeavesNoTrace png bundled query table es ↔
      AllReadable table ∧ Complete query table ∧
        Guarded (step png bundled) Traceless (viewDidLoad query table) es := by
  have hstart : Agrees (viewDidLoad query table) ↔ AllReadable table ∧ Complete query table :=
    agrees_refreshData_iff
  rw [← and_assoc, ← hstart]
  -- a step keeps the list in agreement exactly when it is traceless
  have hspec (s : Main E) (e : Event) (h : WellFormed s ∧ Agrees s) :=
    step_spec png bundled h.1 h.2 e
  have hstep : ∀ s e, WellFormed s ∧ Agrees s → Traceless s e →
      WellFormed (step png bundled s e) ∧ Agrees (step png bundled s e) :=
    fun s e h htraceless => ⟨(hspec s e h).1, (hspec s e h).2.mpr htraceless⟩
  have hbad : ∀ s e, WellFormed s ∧ Agrees s → ¬ Traceless s e →
      ¬ Agrees (step png bundled s e) :=
    fun s e h htraceless hagrees => htraceless ((hspec s e h).2.mp hagrees)
  have hrun (hagrees : Agrees (viewDidLoad query table)) :
      LeavesNoTrace png bundled query table es ↔
        Guarded (step png bundled) Traceless (viewDidLoad query table) es :=
    always_iff_guarded hstep hbad (fun s h => h.2) ⟨⟨hshape, valid_fresh _ _⟩, hagrees⟩
  constructor
  · intro h
    have hagrees := Always.head h
    exact ⟨hagrees, (hrun hagrees).mp h⟩
  · rintro ⟨hagrees, h⟩
    exact (hrun hagrees).mpr h

/-! ## Examples -/

/-- A site is entered, and its edit form is opened with another account. -/
def renamedAccount : List Event :=
  [.showInputWebsite "Github", .typed "me" "secret" "https://github.com" "",
    .pressedFinishButton false 0 .complete, .didSelectRow 0, .pressedEditButton,
    .typed "you" "secret" "https://github.com" ""]

theorem leavesNoTrace_renamedAccount :
    LeavesNoTrace (E := Engine.memory Row) some (fun _ => none) .complete
      (Engine.memory Row).create (renamedAccount ++ [.pressedFinishButton false 0 .complete]) :=
  (leavesNoTrace_iff (shaped_create websiteColumns) .complete _).mpr
    ⟨fun p hp => absurd hp List.not_mem_nil, trivial, by decide +kernel⟩

/-- The update is refused, and the list shows the new account. -/
theorem not_leavesNoTrace_renamedAccount :
    ¬ LeavesNoTrace (E := Engine.memory Row) some (fun _ => none) .complete
      (Engine.memory Row).create (renamedAccount ++ [.pressedFinishButton true 0 .complete]) := by
  unfold LeavesNoTrace
  decide +kernel

end PasswordPackage.MainViewController
