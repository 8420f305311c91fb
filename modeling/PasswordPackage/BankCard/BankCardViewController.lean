import PasswordPackage.App.EmptyMessageView
import PasswordPackage.App.MainViewController
import PasswordPackage.BankCard.Lookup

/-!
# The list of bank cards

`BankCardViewController` reads its list anew whenever it comes back on the screen, after a deletion,
after a restore and once a form has gone away. The edit form assigns to a listed object before it
asks the data manager, but it covers the list and cannot leave without a refresh. A form for a new
card may be a sheet that leaves the list in view.
-/

namespace PasswordPackage.BankCardViewController

open FMDB KeyedTable DataManager Machine Heap
open MainViewController (Query Complete answer of_answer complete_iff delivered_prefix)

variable {E : Engine Row}

/-! ## The list and the screens over it -/

/-- Who opened the form for a new card. The style of a form over the list is up to the system: it
fills the screen or is a sheet. -/
inductive Presenter where
  | list (fullScreen : Bool)
  | mainViewController
deriving DecidableEq

/-- The screen in front of the user, from the first appearance of the list on. -/
inductive Screen where
  | elsewhere
  | list
  | present (ref : ℕ)
  | confirmDelete (ref : ℕ)
  | viewBankCard (ref : ℕ)
  | editBankCard (ref : ℕ) (input : InputCart.Screen)
  | newBankCard (presenter : Presenter) (input : InputCart.Screen)
  | dismissing
deriving DecidableEq

/-- The table, the model objects made so far, the references to the listed ones, the screen, and the
message over an empty list. -/
structure Cards (E : Engine Row) where
  table : E.Table
  objects : List PPBankCardModel
  dataArray : List ℕ
  screen : Screen
  message : EmptyMessageView.View

/-- What the user, the system and the data manager do. A query goes with every event that may end in
`refreshData`, and a statement that is `refused` returns `NO` whatever the engine says.
`viewWillAppear` is for the tab being selected and for a lock screen that goes away. -/
inductive Event (E : Engine Row) where
  | viewWillAppear (query : Query)
  | leaveTab
  | retrieveDataSuccess (table : E.Table) (query : Query)
  | didSelectRow (row : ℕ)
  | pressedEditButton
  | pressedViewButton
  | pressedBackButton (query : Query)
  | pressedDeleteButton
  | alertCallBack (index : ℤ) (refused : Bool) (query : Query)
  | tapAction
  | pressedAddButton (fullScreen : Bool)
  | showCreateBankCard
  | typed (event : InputCart.Event)
  | pressedCancelButton (query : Query)
  | pressedConfirmButton (refused : Bool) (cTime : ℤ) (query : Query)
  | finishCallBack (query : Query)
  | nextBlock

/-- `getAllBackCard`, as far as its query gets. -/
def queriedCards (query : Query) (table : E.Table) : List PPBankCardModel :=
  (query.delivered (E.rows table)).filterMap fun (id, row) => backcardFromResult (resultSet id row)

/-- `refreshData`. The listed objects are new ones. -/
def refreshData (query : Query) (s : Cards E) : Cards E :=
  let array := queriedCards query s.table
  { s with
    objects := s.objects ++ array
    dataArray := fresh s.objects array
    message := EmptyMessageView.refreshData .bankCardViewController array.length s.message }

/-- The list at its first appearance. -/
def opened (query : Query) (table : E.Table) : Cards E :=
  refreshData query
    { table := table
      objects := []
      dataArray := []
      screen := .list
      message := EmptyMessageView.loaded .bankCardViewController }

/-- The screen of the form for a record that is edited. -/
def editing (model : PPBankCardModel) : InputCart.Screen :=
  { form := InputCart.viewDidLoad (some model), lookups := [], named := [] }

/-- The form after an event of its own, confirming excepted. -/
def typed (input : InputCart.Screen) : InputCart.Event → InputCart.Screen
  | .confirm => input
  | event => InputCart.step input event

/-- `pressedConfirmButton:` in the edit form. The object is assigned to before the statement, and
the list appears again when the form is dismissed. -/
def confirmEdit (refused : Bool) (query : Query) (s : Cards E) (ref : ℕ)
    (input : InputCart.Screen) : Cards E × Option Query :=
  match s.objects[ref]? with
  | none => (s, none)
  | some model =>
      match InputCart.pressedConfirmButton { input.form with editModel := some model } with
      | (form, .update id model) =>
          let s :=
            { s with
              objects := s.objects.set ref model
              screen := .editBankCard ref { input with form := form } }
          match answer refused (updateBackCardWithId (id.getD 0) model s.table) with
          | none => (s, none)
          | some table => ({ s with table := table, screen := .dismissing }, some query)
      | _ => (s, none)

/-- `pressedConfirmButton:` in the form for a new card. The list appears again at once if the form
filled the screen. -/
def confirmNew (refused : Bool) (cTime : ℤ) (query : Query) (s : Cards E) (presenter : Presenter)
    (input : InputCart.Screen) : Cards E × Option Query :=
  match InputCart.pressedConfirmButton input.form with
  | (form, .insert model) =>
      match answer refused (insertBackCardWithModel model cTime s.table) with
      | none =>
          ({ s with screen := .newBankCard presenter { input with form := form } }, none)
      | some table =>
          ({ s with table := table, screen := .dismissing },
            if presenter = .list true then some query else none)
  | _ => (s, none)

/-- The deletion of the record with an object. -/
def delete (refused : Bool) (query : Query) (s : Cards E) (ref : ℕ) : Cards E × Option Query :=
  match s.objects[ref]? with
  | none => (s, none)
  | some model =>
      match answer refused (Sessions.deleteId deleteBackCardWithId model.aId s.table) with
      | none => ({ s with screen := .list }, none)
      | some table => ({ s with table := table, screen := .list }, some query)

/-- What an event does before the list is read anew, and the query if it is. A covered list is read
anew in `viewWillAppear:`. Events for a screen that is not in front do nothing. -/
def next (s : Cards E) (e : Event E) : Cards E × Option Query :=
  match e, s.screen with
  | .viewWillAppear query, .elsewhere => ({ s with screen := .list }, some query)
  | .viewWillAppear query, .list => (s, some query)
  | .leaveTab, .list => ({ s with screen := .elsewhere }, none)
  | .retrieveDataSuccess table query, _ => ({ s with table := table }, some query)
  | .didSelectRow row, .list =>
      match s.dataArray[row]? with
      | none => (s, none)
      | some ref => ({ s with screen := .present ref }, none)
  | .pressedEditButton, .present ref =>
      match s.objects[ref]? with
      | none => (s, none)
      | some model => ({ s with screen := .editBankCard ref (editing model) }, none)
  | .pressedViewButton, .present ref => ({ s with screen := .viewBankCard ref }, none)
  | .pressedBackButton query, .viewBankCard _ => ({ s with screen := .list }, some query)
  | .pressedDeleteButton, .present ref => ({ s with screen := .confirmDelete ref }, none)
  | .alertCallBack index refused query, .confirmDelete ref =>
      if index = 1 then delete refused query s ref else ({ s with screen := .list }, none)
  | .tapAction, .present _ => ({ s with screen := .list }, none)
  | .pressedAddButton fullScreen, .list =>
      ({ s with screen := .newBankCard (.list fullScreen) InputCart.newCard }, none)
  | .showCreateBankCard, .elsewhere =>
      ({ s with screen := .newBankCard .mainViewController InputCart.newCard }, none)
  | .typed event, .editBankCard ref input =>
      ({ s with screen := .editBankCard ref (typed input event) }, none)
  | .typed event, .newBankCard presenter input =>
      ({ s with screen := .newBankCard presenter (typed input event) }, none)
  | .pressedCancelButton query, .editBankCard _ _ => ({ s with screen := .list }, some query)
  | .pressedCancelButton query, .newBankCard (.list true) _ =>
      ({ s with screen := .list }, some query)
  | .pressedCancelButton _, .newBankCard (.list false) _ => ({ s with screen := .list }, none)
  | .pressedCancelButton _, .newBankCard .mainViewController _ =>
      ({ s with screen := .elsewhere }, none)
  | .pressedConfirmButton refused _ query, .editBankCard ref input =>
      confirmEdit refused query s ref input
  | .pressedConfirmButton refused cTime query, .newBankCard presenter input =>
      confirmNew refused cTime query s presenter input
  | .finishCallBack query, .dismissing => ({ s with screen := .list }, some query)
  | .nextBlock, _ => ({ s with message := EmptyMessageView.nextBlock s.message }, none)
  | _, _ => (s, none)

/-- One event. -/
def step (s : Cards E) (e : Event E) : Cards E :=
  match next s e with
  | (s, none) => s
  | (s, some query) => refreshData query s

/-! ## The list and the table -/

/-- What is read from a row. -/
def read (p : ℤ × Row) : Option PPBankCardModel :=
  backcardFromResult (resultSet p.1 p.2)

/-- The models that the list shows. -/
def Cards.listed (s : Cards E) : List PPBankCardModel :=
  deref s.objects s.dataArray

/-- The list has, row by row, what is read from the table. -/
def Agrees (s : Cards E) : Prop :=
  (E.rows s.table).map read = s.listed.map some

/-- The list is on the screen, and no form that covers it or is on its way out. -/
def Screen.ShowsList : Screen → Prop
  | .list | .present _ | .confirmDelete _ => True
  | .newBankCard presenter _ => presenter = .list false
  | .elsewhere | .viewBankCard _ | .editBankCard _ _ | .dismissing => False

def InView (s : Cards E) : Prop :=
  s.screen.ShowsList

/-- Every row has an account, a password and a logo address that can be read. -/
def AllReadable (table : E.Table) : Prop :=
  ∀ p ∈ E.rows table, Readable (resultSet p.1 p.2) "account" ∧
    Readable (resultSet p.1 p.2) "password" ∧ Readable (resultSet p.1 p.2) "logoImageUrl"

/-- A list in view agrees with the table, and there is the right number of message views. -/
def Faithful (s : Cards E) : Prop :=
  (InView s → Agrees s) ∧ EmptyMessageView.Matches s.message

/-- If the list is read anew, no message view is on its way, and for a list in view the query
delivers every row. -/
def FullRead : Cards E × Option Query → Prop
  | (_, none) => True
  | (s, some query) => (InView s → Complete query s.table) ∧ s.message.coming = 0

def ReadsInFull (s : Cards E) (e : Event E) : Prop :=
  FullRead (next s e)

/-- The table that a restore brings was written by the app. -/
def BringsReadable : Event E → Prop
  | .retrieveDataSuccess table _ => Shaped bankcardColumns table ∧ AllReadable table
  | _ => True

instance : DecidablePred Screen.ShowsList
  | .list | .present _ | .confirmDelete _ => isTrue trivial
  | .newBankCard presenter _ => inferInstanceAs (Decidable (presenter = .list false))
  | .elsewhere | .viewBankCard _ | .editBankCard _ _ | .dismissing => isFalse id

instance (s : Cards E) : Decidable (InView s) :=
  inferInstanceAs (Decidable s.screen.ShowsList)

instance : DecidablePred (FullRead (E := E))
  | (_, none) => isTrue trivial
  | (s, some query) =>
      inferInstanceAs (Decidable ((InView s → Complete query s.table) ∧ s.message.coming = 0))

instance (s : Cards E) (e : Event E) : Decidable (ReadsInFull s e) :=
  inferInstanceAs (Decidable (FullRead (next s e)))

/-! ## Reading the table -/

theorem allReadable_iff {table : E.Table} :
    AllReadable table ↔ ∀ p ∈ E.rows table, (read p).isSome = true :=
  forall₂_congr fun _ _ => isSome_backcardFromResult_iff.symm

/-- A fresh list agrees exactly when every row can be read and was delivered. -/
theorem agrees_refreshData_iff {query : Query} {s : Cards E} :
    Agrees (refreshData query s) ↔ AllReadable s.table ∧ Complete query s.table := by
  have hlisted : (refreshData query s).listed =
      (query.delivered (E.rows s.table)).filterMap read := deref_fresh _ _
  unfold Agrees
  rw [hlisted, allReadable_iff, complete_iff]
  have hpart := delivered_prefix query (E.rows s.table)
  exact map_eq_map_filterMap_iff hpart

/-- A card that is read has a logo address. -/
theorem logo_of_read {p : ℤ × Row} {model : PPBankCardModel} (h : read p = some model) :
    model.logoImageUrl ≠ none := by
  rw [read, backcardFromResult_eq] at h
  obtain ⟨account, -, h⟩ := Option.bind_eq_some_iff.mp h
  obtain ⟨password, -, h⟩ := Option.bind_eq_some_iff.mp h
  obtain ⟨logoImageUrl, -, rfl⟩ := Option.map_eq_some_iff.mp h
  exact Option.some_ne_none _

/-! ## Statements keep the rows readable -/

variable {table table' : E.Table}

theorem AllReadable.insert (h : AllReadable table) {model : PPBankCardModel} {cTime : ℤ}
    (haccount : model.account ≠ none) (hpassword : model.password ≠ none)
    (hlogo : model.logoImageUrl ≠ none)
    (hinsert : insertBackCardWithModel model cTime table = some table') : AllReadable table' := by
  rw [allReadable_iff] at h ⊢
  rw [rows_insertBackCard hinsert]
  intro p hp
  rcases List.mem_append.mp hp with hold | hnew
  · exact h p hold
  · rw [List.mem_singleton.mp hnew]
    exact isSome_insertedBankCard_iff.mpr ⟨haccount, hpassword, hlogo⟩

theorem AllReadable.update (h : AllReadable table) (hshape : Shaped bankcardColumns table)
    {aId : ℤ} {model : PPBankCardModel} (haccount : model.account ≠ none)
    (hpassword : model.password ≠ none) (hlogo : model.logoImageUrl ≠ none)
    (hupdate : updateBackCardWithId aId model table = some table') : AllReadable table' := by
  rw [allReadable_iff] at h ⊢
  rw [rows_updateBackCard hupdate]
  rintro ⟨id, row⟩ hp
  obtain ⟨old, hold, rfl⟩ := mem_modify_iff.mp hp
  split_ifs
  · obtain ⟨cells, rfl⟩ := exists_bankCardCells (hshape.columns _ hold)
    obtain ⟨account, haccount⟩ := Option.ne_none_iff_exists'.mp haccount
    obtain ⟨password, hpassword⟩ := Option.ne_none_iff_exists'.mp hpassword
    obtain ⟨logoImageUrl, hlogo⟩ := Option.ne_none_iff_exists'.mp hlogo
    rw [read, setBankCard_row, backcardFromResult_row]
    simp [updatedBankCard, insertedBankCard, haccount, hpassword, hlogo, bindObject,
      SqlValue.string]
  · exact h _ hold

theorem AllReadable.delete (h : AllReadable table) {id : Option ℤ}
    (hdelete : Sessions.deleteId deleteBackCardWithId id table = some table') :
    AllReadable table' := by
  intro p hp
  rw [Sessions.rows_deleteId hdelete] at hp
  exact h p (List.mem_of_mem_filter hp)

/-! ## What an event does -/

variable {s : Cards E} {e : Event E}

/-- What can happen before the list is read anew. -/
inductive Move (s : Cards E) (e : Event E) : Cards E × Option Query → Prop
  | shows (screen : Screen) (hview : InView { s with screen := screen } → InView s)
      (hinput : ∀ presenter input, screen = .newBankCard presenter input →
        input = InputCart.newCard ∨ ∃ before, s.screen = .newBankCard presenter before ∧
          (InputCart.Inv before → InputCart.Inv input)) :
      Move s e ({ s with screen := screen }, none)
  | appears (query : Query) : Move s e ({ s with screen := .list }, some query)
  | retrieves (table : E.Table) (query : Query) (hevent : e = .retrieveDataSuccess table query) :
      Move s e ({ s with table := table }, some query)
  | assigns {ref : ℕ} {model : PPBankCardModel} (form : InputCart.Form) (input : InputCart.Screen)
      (hobject : s.objects[ref]? = some model) :
      Move s e
        ({ s with
          objects := s.objects.set ref (form.editedCard model)
          screen := .editBankCard ref input }, none)
  | updates {ref : ℕ} {model : PPBankCardModel} {aId : ℤ} {table : E.Table} (form : InputCart.Form)
      (query : Query) (hobject : s.objects[ref]? = some model)
      (hupdate : updateBackCardWithId aId (form.editedCard model) s.table = some table) :
      Move s e
        ({ s with
          table := table
          objects := s.objects.set ref (form.editedCard model)
          screen := .dismissing }, some query)
  | inserts {presenter : Presenter} {input : InputCart.Screen} {cTime : ℤ} {table : E.Table}
      (query : Option Query) (hscreen : s.screen = .newBankCard presenter input)
      (hinsert : insertBackCardWithModel input.form.newCard cTime s.table = some table) :
      Move s e ({ s with table := table, screen := .dismissing }, query)
  | deletes {id : Option ℤ} {table : E.Table} (query : Query)
      (hdelete : Sessions.deleteId deleteBackCardWithId id s.table = some table) :
      Move s e ({ s with table := table, screen := .list }, some query)
  | block : Move s e ({ s with message := EmptyMessageView.nextBlock s.message }, none)

theorem Move.nothing : Move s e (s, none) :=
  Move.shows s.screen id fun _ input hscreen => Or.inr ⟨input, hscreen, id⟩

theorem Move.leaves {screen : Screen} (hview : ¬ InView { s with screen := screen })
    (hinput : ∀ presenter input, screen ≠ .newBankCard presenter input) :
    Move s e ({ s with screen := screen }, none) :=
  Move.shows screen (fun h => absurd h hview)
    fun presenter input h => absurd h (hinput presenter input)

theorem move_confirmEdit {refused : Bool} {query : Query} {ref : ℕ} {input : InputCart.Screen} :
    Move s e (confirmEdit refused query s ref input) := by
  unfold confirmEdit
  split
  · exact Move.nothing
  · next model hobject =>
      split
      · next form id model' hconfirm =>
          have hupdate := congrArg Prod.snd hconfirm
          obtain ⟨model'', hedit, -, -, -, rfl⟩ :=
            InputCart.pressedConfirmButton_update_iff.mp hupdate
          obtain rfl := Option.some.inj hedit
          dsimp only
          split
          · exact Move.assigns _ _ hobject
          · next table hanswer => exact Move.updates _ query hobject (of_answer hanswer)
      · exact Move.nothing

/-- The form for a new card stays open. -/
theorem move_newBankCard {presenter : Presenter} {before input : InputCart.Screen}
    (hscreen : s.screen = .newBankCard presenter before)
    (hinput : InputCart.Inv before → InputCart.Inv input) :
    Move s e ({ s with screen := .newBankCard presenter input }, none) := by
  refine Move.shows _ ?_ fun presenter' input' heq => ?_
  · unfold InView
    rw [hscreen]
    exact id
  · obtain ⟨rfl, rfl⟩ := Screen.newBankCard.inj heq
    exact Or.inr ⟨before, hscreen, hinput⟩

theorem inv_typed {input : InputCart.Screen} (h : InputCart.Inv input) (event : InputCart.Event) :
    InputCart.Inv (typed input event) := by
  unfold typed
  split
  · exact h
  · exact h.step _

theorem move_confirmNew {refused : Bool} {cTime : ℤ} {query : Query} {presenter : Presenter}
    {input : InputCart.Screen} (hscreen : s.screen = .newBankCard presenter input) :
    Move s e (confirmNew refused cTime query s presenter input) := by
  unfold confirmNew
  split
  · next form model hconfirm =>
      have hinsert := congrArg Prod.snd hconfirm
      obtain ⟨-, -, -, rfl⟩ := InputCart.pressedConfirmButton_insert_iff.mp hinsert
      split
      · refine move_newBankCard hscreen fun hinv => ?_
        have hform := hinv.confirm
        rw [hconfirm] at hform
        exact hform
      · next table hanswer => exact Move.inserts _ hscreen (of_answer hanswer)
  · exact Move.nothing

theorem move_delete {refused : Bool} {query : Query} {ref : ℕ} (hview : InView s) :
    Move s e (delete refused query s ref) := by
  unfold delete
  split
  · exact Move.nothing
  · split
    · exact Move.shows .list (fun _ => hview) (fun _ _ h => by cases h)
    · next table hanswer => exact Move.deletes query (of_answer hanswer)

/-- Everything that an event can do. -/
theorem move_next (s : Cards E) (e : Event E) : Move s e (next s e) := by
  -- most events only change the screen, which still shows the list if the new one does
  have hshows : ∀ screen, (∀ presenter input, screen ≠ .newBankCard presenter input) →
      InView s → Move s e ({ s with screen := screen }, none) :=
    fun screen hinput hview => Move.shows screen (fun _ => hview)
      fun presenter input h => absurd h (hinput presenter input)
  unfold next
  split
  · exact Move.appears _
  · next query hscreen =>
      have happears : Move s (.viewWillAppear query) ({ s with screen := .list }, some query) :=
        Move.appears query
      rwa [← hscreen] at happears
  · exact Move.leaves id (by simp)
  · exact Move.retrieves _ _ rfl
  · next hscreen =>
      split
      · exact Move.nothing
      · exact hshows _ (by simp) (by simp [InView, hscreen, Screen.ShowsList])
  · split
    · exact Move.nothing
    · exact Move.leaves id (by simp)
  · exact Move.leaves id (by simp)
  · exact Move.appears _
  · next hscreen => exact hshows _ (by simp) (by simp [InView, hscreen, Screen.ShowsList])
  · next hscreen =>
      have hview : InView s := by simp [InView, hscreen, Screen.ShowsList]
      split
      · exact move_delete hview
      · exact hshows _ (by simp) hview
  · next hscreen => exact hshows _ (by simp) (by simp [InView, hscreen, Screen.ShowsList])
  · next hscreen =>
      refine Move.shows _ (fun _ => ?_) fun presenter input heq => Or.inl ?_
      · simp [InView, hscreen, Screen.ShowsList]
      · exact (Screen.newBankCard.inj heq).2.symm
  · refine Move.shows _ (fun hview => by cases hview) fun presenter input heq => Or.inl ?_
    exact (Screen.newBankCard.inj heq).2.symm
  · exact Move.leaves id (by simp)
  · next hscreen => exact move_newBankCard hscreen fun hinv => inv_typed hinv _
  · exact Move.appears _
  · exact Move.appears _
  · next hscreen => exact hshows _ (by simp) (by simp [InView, hscreen, Screen.ShowsList])
  · exact Move.leaves id (by simp)
  · exact move_confirmEdit
  · next hscreen => exact move_confirmNew hscreen
  · exact Move.appears _
  · exact Move.block
  · exact Move.nothing

/-! ## What every state keeps -/

/-- The table has its columns and can be read, the list refers to objects, every object and every
form for a new card has a logo address, and the count of the message is that of the list. -/
structure WellFormed (s : Cards E) : Prop where
  shaped : Shaped bankcardColumns s.table
  readable : AllReadable s.table
  valid : Valid s.objects s.dataArray
  logos : ∀ model ∈ s.objects, model.logoImageUrl ≠ none
  input : ∀ presenter input, s.screen = .newBankCard presenter input → InputCart.Inv input
  message : EmptyMessageView.Inv s.message
  count : s.message.count = s.dataArray.length

theorem logo_editedCard {form : InputCart.Form} {ref : ℕ} {model : PPBankCardModel}
    (hlogos : ∀ model ∈ s.objects, model.logoImageUrl ≠ none)
    (hobject : s.objects[ref]? = some model) :
    ∀ model' ∈ s.objects.set ref (form.editedCard model), model'.logoImageUrl ≠ none := by
  intro model' hmodel'
  rcases List.mem_or_eq_of_mem_set hmodel' with hold | rfl
  · exact hlogos model' hold
  · exact hlogos model (List.mem_of_getElem? hobject)

theorem count_nextBlock (v : EmptyMessageView.View) :
    (EmptyMessageView.nextBlock v).count = v.count := by
  unfold EmptyMessageView.nextBlock EmptyMessageView.runBlock
  split
  · rfl
  · split
    · rfl
    · rfl
    · split <;> rfl

/-- Before the list is read anew. -/
theorem wellFormed_move {result : Cards E × Option Query} (h : WellFormed s)
    (hbrings : BringsReadable e) (hmove : Move s e result) : WellFormed result.1 := by
  cases hmove with
  | shows screen hview hinput =>
      refine ⟨h.shaped, h.readable, h.valid, h.logos, fun presenter input hscreen => ?_,
        h.message, h.count⟩
      rcases hinput presenter input hscreen with rfl | ⟨before, hbefore, hkeeps⟩
      · exact InputCart.inv_newCard
      · exact hkeeps (h.input presenter before hbefore)
  | appears query =>
      exact ⟨h.shaped, h.readable, h.valid, h.logos, (by simp), h.message, h.count⟩
  | retrieves table query hevent =>
      subst hevent
      exact ⟨hbrings.1, hbrings.2, h.valid, h.logos, h.input, h.message, h.count⟩
  | assigns form input hobject =>
      exact ⟨h.shaped, h.readable, h.valid.set _ _, logo_editedCard h.logos hobject, (by simp),
        h.message, h.count⟩
  | @updates ref model aId table form query hobject hupdate =>
      -- the form fills in what is required, and the object had its logo address
      have haccount : (form.editedCard model).account ≠ none := Option.some_ne_none _
      have hpassword : (form.editedCard model).password ≠ none := Option.some_ne_none _
      have hlogo : (form.editedCard model).logoImageUrl ≠ none :=
        h.logos model (List.mem_of_getElem? hobject)
      have hread := h.readable.update h.shaped haccount hpassword hlogo hupdate
      exact ⟨h.shaped.updateBackCard hupdate, hread, h.valid.set _ _,
        logo_editedCard h.logos hobject, (by simp), h.message, h.count⟩
  | @inserts presenter input cTime table query hscreen hinsert =>
      -- the form for a new card has a logo address of its own
      have haccount : input.form.newCard.account ≠ none := Option.some_ne_none _
      have hpassword : input.form.newCard.password ≠ none := Option.some_ne_none _
      have hlogo : input.form.newCard.logoImageUrl ≠ none := by
        show input.form.logoImageUrl ≠ none
        rw [(h.input presenter input hscreen).logo]
        exact Option.some_ne_none _
      have hread := h.readable.insert haccount hpassword hlogo hinsert
      exact ⟨h.shaped.insertBackCard hinsert, hread, h.valid, h.logos, (by simp), h.message,
        h.count⟩
  | deletes query hdelete =>
      exact ⟨Sessions.shaped_deleteId h.shaped hdelete, h.readable.delete hdelete, h.valid, h.logos,
        (by simp), h.message, h.count⟩
  | block =>
      exact ⟨h.shaped, h.readable, h.valid, h.logos, h.input,
        EmptyMessageView.inv_nextBlock h.message, (count_nextBlock _).trans h.count⟩

theorem wellFormed_refreshData (h : WellFormed s) (query : Query) :
    WellFormed (refreshData query s) where
  shaped := h.shaped
  readable := h.readable
  valid := valid_fresh _ _
  logos := by
    intro model hmodel
    rcases List.mem_append.mp hmodel with hold | hnew
    · exact h.logos model hold
    · obtain ⟨p, -, hread⟩ := List.mem_filterMap.mp hnew
      exact logo_of_read hread
  input := h.input
  message := EmptyMessageView.inv_refreshData h.message _
  count := (EmptyMessageView.count_refreshData _ _ _).trans (List.length_range' ..).symm

/-! ## One event -/

/-- A list that stays in view without being read anew stays as it is. -/
theorem agrees_move {s' : Cards E} (hmove : Move s e (s', none)) (hview : InView s') :
    InView s ∧ (Agrees s' ↔ Agrees s) := by
  cases hmove with
  | shows screen hkept hinput => exact ⟨hkept hview, Iff.rfl⟩
  | assigns form input hobject => exact False.elim hview
  | inserts query hscreen hinsert => exact False.elim hview
  | block => exact ⟨hview, Iff.rfl⟩

theorem matches_move {s' : Cards E} {query : Option Query} (h : WellFormed s)
    (hmatches : EmptyMessageView.Matches s.message) (hmove : Move s e (s', query)) :
    EmptyMessageView.Matches s'.message := by
  cases hmove with
  | block => exact EmptyMessageView.matches_nextBlock h.message hmatches
  | _ => exact hmatches

/-- One event from a faithful list. -/
theorem step_spec (h : WellFormed s) (hfaithful : Faithful s) (hbrings : BringsReadable e) :
    WellFormed (step s e) ∧ (Faithful (step s e) ↔ ReadsInFull s e) := by
  have hmove := move_next s e
  unfold step ReadsInFull
  generalize next s e = result at hmove
  obtain ⟨s', query⟩ := result
  have hwell := wellFormed_move h hbrings hmove
  have hmatches := matches_move h hfaithful.2 hmove
  cases query with
  | none =>
      refine ⟨hwell, iff_of_true ⟨fun hview => ?_, hmatches⟩ trivial⟩
      obtain ⟨hbefore, hagrees⟩ := agrees_move hmove hview
      exact hagrees.mpr (hfaithful.1 hbefore)
  | some query =>
      refine ⟨wellFormed_refreshData hwell query, and_congr ?_ ?_⟩
      · exact forall_congr' fun hview => agrees_refreshData_iff.trans (and_iff_right hwell.readable)
      · exact EmptyMessageView.matches_refreshData_iff _ _ hmatches

/-! ## Runs -/

/-- As long as restores bring tables that can be read, the list in view agrees with the table and has
the right number of message views throughout exactly when no query for a list in view is cut short
and no refresh comes while a message view is on its way. A refused edit leaves no trace. -/
theorem always_faithful_iff {table : E.Table} (hshape : Shaped bankcardColumns table)
    (hread : AllReadable table) (query : Query) {es : List (Event E)}
    (hbrings : ∀ e ∈ es, BringsReadable e) :
    Always step Faithful (opened query table) es ↔
      Complete query table ∧ Guarded step ReadsInFull (opened query table) es := by
  have hwell : WellFormed (opened query table) := by
    refine wellFormed_refreshData ⟨hshape, hread, ?_, ?_, ?_, ?_, rfl⟩ query
    · exact fun r hr => absurd hr List.not_mem_nil
    · exact fun model hmodel => absurd hmodel List.not_mem_nil
    · simp
    · exact EmptyMessageView.inv_loaded .bankCardViewController
  have hmatches : EmptyMessageView.Matches (opened query table).message :=
    EmptyMessageView.matches_opened .bankCardViewController _
  -- the first appearance
  have hstart : Faithful (opened query table) ↔ Complete query table := by
    refine (and_iff_left hmatches).trans ((forall_prop_of_true trivial).trans ?_)
    exact agrees_refreshData_iff.trans (and_iff_right hread)
  have hkeeps : ∀ (s : Cards E) (e : Event E), BringsReadable e → WellFormed s ∧ Faithful s →
      ReadsInFull s e → WellFormed (step s e) ∧ Faithful (step s e) := by
    intro s e he h hreads
    obtain ⟨hwell, hiff⟩ := step_spec h.1 h.2 he
    exact ⟨hwell, hiff.mpr hreads⟩
  have hbad : ∀ (s : Cards E) (e : Event E), BringsReadable e → WellFormed s ∧ Faithful s →
      ¬ ReadsInFull s e → ¬ Faithful (step s e) :=
    fun s e he h hreads hfaithful => hreads ((step_spec h.1 h.2 he).2.mp hfaithful)
  rw [← hstart]
  -- everything after it
  have hrun (hfaithful : Faithful (opened query table)) :
      Always step Faithful (opened query table) es ↔
        Guarded step ReadsInFull (opened query table) es :=
    always_iff_guarded_of hkeeps hbad (fun s h => h.2) hbrings ⟨hwell, hfaithful⟩
  constructor
  · intro h
    exact ⟨h.head, (hrun h.head).mp h⟩
  · rintro ⟨hfaithful, h⟩
    exact (hrun hfaithful).mpr h

/-- A card is entered in a sheet, and an edit of it is refused and given up. -/
def refusedEdit : List (Event (Engine.memory Row)) :=
  [.nextBlock, .nextBlock, .pressedAddButton false,
    .typed (.changeCharacters .account ⟨0, 0⟩ "62220200"),
    .typed (.changeCharacters .password ⟨0, 0⟩ "123456"), .pressedConfirmButton false 0 .complete,
    .finishCallBack .complete, .didSelectRow 0, .pressedEditButton,
    .typed (.changeCharacters .password ⟨0, 6⟩ "654321"), .pressedConfirmButton true 0 .complete,
    .pressedCancelButton .complete]

theorem faithful_refusedEdit :
    Always step Faithful (opened .complete (Engine.memory Row).create) refusedEdit := by
  refine (always_faithful_iff (shaped_create bankcardColumns) ?_ .complete ?_).mpr ⟨trivial, ?_⟩
  · exact fun p hp => absurd hp List.not_mem_nil
  · intro e he
    simp only [refusedEdit, List.mem_cons, List.not_mem_nil, or_false] at he
    rcases he with rfl | rfl | rfl | rfl | rfl | rfl | rfl | rfl | rfl | rfl | rfl | rfl <;>
      trivial
  · decide +kernel

/-- The object has the refused password, and the list has another object by then. -/
example : ((run step (opened .complete (Engine.memory Row).create) refusedEdit).objects.map
      PPBankCardModel.password, (run step (opened .complete (Engine.memory Row).create)
        refusedEdit).listed.map PPBankCardModel.password) =
    ([some "654321", some "123456"], [some "123456"]) := by decide +kernel

end PasswordPackage.BankCardViewController
