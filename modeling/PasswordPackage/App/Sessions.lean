import PasswordPackage.BankCard.InputCart
import PasswordPackage.Common.Run
import PasswordPackage.Data.Schema
import PasswordPackage.Site.InputWebsite

/-!
# Editing and deleting across a restore

A screen opened on a record keeps the record's model, and confirming an edit or a deletion goes to
the row that has the model's id by then. A restore that ends in between puts another database under
the screens: it refreshes the lists, but an opened screen still has its model, and the id may be
that of another record now.
-/

namespace PasswordPackage.Sessions

open FMDB KeyedTable DataManager Machine

/-! ## Kinds of records -/

/-- A kind of record: its model and form, what the data manager does with a model, and what
confirming the form makes of the model that was opened (`none` when the form is rejected). -/
structure Kind (E : Engine Row) where
  Model : Type
  Form : Type
  aId : Model → Option ℤ
  read : Row → Option Model
  insert : Model → ℤ → E.Table → Option E.Table
  finish : Model → Form → Option Model
  /-- The columns that an update writes. -/
  write : Model → Row → Row
  update : Model → E.Table → Option E.Table
  delete : Model → E.Table → Option E.Table
  aId_read : ∀ {result model}, read result = some model →
    aId model = some (intForColumn result "id")
  aId_finish : ∀ {model form model'}, finish model form = some model' → aId model' = aId model
  rows_insert : ∀ {model cTime t t'}, insert model cTime t = some t' →
    ∃ row, E.rows t' = E.rows t ++ [(E.sequence t + 1, row)]
  sequence_insert : ∀ {model cTime t t'}, insert model cTime t = some t' →
    E.sequence t' = E.sequence t + 1
  rows_update : ∀ {model t t'}, update model t = some t' →
    E.rows t' =
      (E.rows t).map fun p => if some p.1 = aId model then (p.1, write model p.2) else p
  sequence_update : ∀ {model t t'}, update model t = some t' → E.sequence t' = E.sequence t
  rows_delete : ∀ {model t t'}, delete model t = some t' →
    E.rows t' = (E.rows t).filter fun p => decide (some p.1 ≠ aId model)
  sequence_delete : ∀ {model t t'}, delete model t = some t' → E.sequence t' = E.sequence t

variable {E : Engine Row}

/-- `deleteWebsiteWithId:` or `deleteBackCardWithId:` with an id that may be nil. -/
def deleteId (delete : ℤ → E.Table → Option E.Table) (id : Option ℤ) (table : E.Table) :
    Option E.Table :=
  match id with
  | none => some table
  | some id => delete id table

theorem rows_deleteId {id : Option ℤ} {t t' : E.Table} (h : deleteId E.delete id t = some t') :
    E.rows t' = (E.rows t).filter fun p => decide (some p.1 ≠ id) := by
  cases id with
  | none =>
      obtain rfl := Option.some.inj h
      simp
  | some id => simpa [deleteId] using E.rows_delete h

theorem shaped_deleteId {columns : List String} {id : Option ℤ} {t t' : E.Table}
    (hshape : Shaped columns t) (h : deleteId E.delete id t = some t') : Shaped columns t' := by
  cases id with
  | none => exact Option.some.inj h ▸ hshape
  | some id => exact hshape.delete h

theorem sequence_deleteId {id : Option ℤ} {t t' : E.Table}
    (h : deleteId E.delete id t = some t') : E.sequence t' = E.sequence t := by
  cases id with
  | none => rw [Option.some.inj h]
  | some id => exact E.sequence_delete h

/-- A website is read with the id that its row shows. -/
theorem websiteFromResult_aId {result : Row} {model : PPWebsiteModel}
    (h : websiteFromResult result = some model) :
    model.aId = some (intForColumn result "id") := by
  obtain ⟨read, hread, rfl⟩ := Option.map_eq_some_iff.mp h
  unfold PPWebsiteModel.initWithDictionary at hread
  split_ifs at hread
  rw [← Option.some.inj hread]
  rfl

/-- A bank card is read with the id that its row shows. -/
theorem backcardFromResult_aId {result : Row} {model : PPBankCardModel}
    (h : backcardFromResult result = some model) :
    model.aId = some (intForColumn result "id") := by
  obtain ⟨read, hread, rfl⟩ := Option.map_eq_some_iff.mp h
  unfold PPBankCardModel.initWithDictionary at hread
  split_ifs at hread
  rw [← Option.some.inj hread]
  rfl

/-- `pressedFinishButton:` of a form opened on a model. -/
def finishWebsite (model : PPWebsiteModel) (form : InputWebsite.Form) : Option PPWebsiteModel :=
  match (InputWebsite.pressedFinishButton { form with websiteModel := some model }).2 with
  | .update _ model' => some model'
  | _ => none

/-- `pressedConfirmButton:` of a form opened on a model. -/
def finishBankCard (model : PPBankCardModel) (form : InputCart.Form) : Option PPBankCardModel :=
  match (InputCart.pressedConfirmButton { form with editModel := some model }).2 with
  | .update _ model' => some model'
  | _ => none

theorem finishWebsite_aId {model model' : PPWebsiteModel} {form : InputWebsite.Form}
    (h : finishWebsite model form = some model') : model'.aId = model.aId := by
  unfold finishWebsite at h
  split at h
  · next hupdate =>
      obtain ⟨opened, hopened, -, -, -, rfl⟩ :=
        InputWebsite.pressedFinishButton_update_iff.mp hupdate
      obtain rfl := Option.some.inj hopened
      rw [← Option.some.inj h]
      rfl
  · exact absurd h (by simp)

theorem finishBankCard_aId {model model' : PPBankCardModel} {form : InputCart.Form}
    (h : finishBankCard model form = some model') : model'.aId = model.aId := by
  unfold finishBankCard at h
  split at h
  · next hupdate =>
      obtain ⟨opened, hopened, -, -, -, rfl⟩ := InputCart.pressedConfirmButton_update_iff.mp hupdate
      obtain rfl := Option.some.inj hopened
      rw [← Option.some.inj h]
      rfl
  · exact absurd h (by simp)

/-- Websites. -/
def websiteKind (E : Engine Row) : Kind E where
  Model := PPWebsiteModel
  Form := InputWebsite.Form
  aId := PPWebsiteModel.aId
  read := websiteFromResult
  insert := insertWebsiteWithModel
  finish := finishWebsite
  write model :=
    setColumns ["title", "iconImg", "account", "password", "link", "describe"]
      [model.title.map .string, model.iconImg.map .data, model.account.map .string,
        model.password.map .string, model.link.map .string, model.describe.map .string]
  update model := updateWebsizeWithId (model.aId.getD 0) model
  delete model := deleteId deleteWebsiteWithId model.aId
  aId_read := websiteFromResult_aId
  aId_finish := finishWebsite_aId
  rows_insert h := ⟨_, E.rows_insert h⟩
  sequence_insert h := E.sequence_insert h
  rows_update h := rows_updateId h
  sequence_update h := sequence_updateId h
  rows_delete h := rows_deleteId h
  sequence_delete h := sequence_deleteId h

/-- Bank cards. -/
def bankCardKind (E : Engine Row) : Kind E where
  Model := PPBankCardModel
  Form := InputCart.Form
  aId := PPBankCardModel.aId
  read := backcardFromResult
  insert := insertBackCardWithModel
  finish := finishBankCard
  write model :=
    setColumns ["frontImg", "type", "expireDate", "account", "password", "cvvCode", "pin",
        "describe", "logoImageUrl"]
      [model.frontImg.map .data, some (.number model.type), model.expireDate.map .string,
        model.account.map .string, model.password.map .string, model.cvvCode.map .string,
        model.pin.map .string, model.describe.map .string, model.logoImageUrl.map .string]
  update model := updateBackCardWithId (model.aId.getD 0) model
  delete model := deleteId deleteBackCardWithId model.aId
  aId_read := backcardFromResult_aId
  aId_finish := finishBankCard_aId
  rows_insert h := ⟨_, E.rows_insert h⟩
  sequence_insert h := E.sequence_insert h
  rows_update h := rows_updateId h
  sequence_update h := sequence_updateId h
  rows_delete h := rows_deleteId h
  sequence_delete h := sequence_deleteId h

/-! ## The screens of a kind -/

/-- The table of a kind, its list, and the models that screens were opened on. `record` is not data
of the app: it tells which record the row with an id is, and models are listed and opened together
with the record they were read from. -/
structure Screens (K : Kind E) where
  table : E.Table
  record : ℤ → ℕ
  dataArray : List (K.Model × ℕ)
  opened : List (K.Model × ℕ)

variable {K : Kind E}

inductive ScreenEvent (K : Kind E) where
  | insert (model : K.Model) (cTime : ℤ) (record : ℕ)
  | refreshData
  | select (row : ℕ)
  | finish (k : ℕ) (form : K.Form)
  | delete (k : ℕ) (index : ℤ)

/-- `refreshData`. -/
def refreshData (s : Screens K) : Screens K :=
  { s with
    dataArray := (E.rows s.table).filterMap fun (id, row) =>
      (K.read (resultSet id row)).map fun model => (model, s.record id) }

/-- The table after a statement, and the list read anew; nothing when the statement failed. -/
def completed (s : Screens K) (table : Option E.Table) : Screens K :=
  match table with
  | none => s
  | some table => refreshData { s with table := table }

@[simp] theorem completed_none (s : Screens K) : completed s none = s := rfl

/-- A new record is inserted, under the next id. -/
def insertRecord (s : Screens K) (model : K.Model) (cTime : ℤ) (record : ℕ) : Screens K :=
  match K.insert model cTime s.table with
  | none => s
  | some table =>
      refreshData
        { s with
          table := table
          record := Function.update s.record (E.sequence s.table + 1) record }

/-- The form of the `k`-th opened model is confirmed. -/
def finishEditing (s : Screens K) (k : ℕ) (form : K.Form) : Screens K :=
  match s.opened[k]? with
  | none => s
  | some (model, record) =>
      match K.finish model form with
      | none => s
      | some model' =>
          completed { s with opened := s.opened.set k (model', record) } (K.update model' s.table)

/-- The alert that asks about deleting the `k`-th opened record is answered. -/
def deleteRecord (s : Screens K) (k : ℕ) (index : ℤ) : Screens K :=
  match s.opened[k]? with
  | none => s
  | some (model, _) => if index = 1 then completed s (K.delete model s.table) else s

def screenStep (s : Screens K) : ScreenEvent K → Screens K
  | .insert model cTime record => insertRecord s model cTime record
  | .refreshData => refreshData s
  | .select row => { s with opened := s.opened ++ s.dataArray[row]?.toList }
  | .finish k form => finishEditing s k form
  | .delete k index => deleteRecord s k index

/-! ## The app -/

structure World (E : Engine Row) where
  websites : Screens (websiteKind E)
  bankCards : Screens (bankCardKind E)

/-- What a restore brings: a database, and which records its rows are. -/
structure Backup (E : Engine Row) where
  dataBase : Database E
  websiteRecord : ℤ → ℕ
  bankCardRecord : ℤ → ℕ

inductive Event (E : Engine Row) where
  | website (event : ScreenEvent (websiteKind E))
  | bankCard (event : ScreenEvent (bankCardKind E))
  | restore (backup : Option (Backup E))

/-- The completion of `downFromiCloud`: after a success the connection is reopened and the lists are
notified, otherwise the connection stays as it is. -/
def downFromiCloud (w : World E) (backup : Option (Backup E)) : World E :=
  match backup with
  | none => w
  | some backup =>
      { websites := refreshData
          { w.websites with
            table := backup.dataBase.website
            record := backup.websiteRecord }
        bankCards := refreshData
          { w.bankCards with
            table := backup.dataBase.bankcard
            record := backup.bankCardRecord } }

def step (w : World E) : Event E → World E
  | .website event => { w with websites := screenStep w.websites event }
  | .bankCard event => { w with bankCards := screenStep w.bankCards event }
  | .restore backup => downFromiCloud w backup

/-! ## Cross-record writes -/

/-- The rows of all other records are as before, and when there is no row of this one, all rows
are. -/
def OthersKept (s s' : Screens K) (record : ℕ) : Prop :=
  (E.rows s'.table).filter (fun p => s.record p.1 ≠ record) =
      (E.rows s.table).filter (fun p => s.record p.1 ≠ record) ∧
    ((∀ p ∈ E.rows s.table, s.record p.1 ≠ record) → E.rows s'.table = E.rows s.table)

/-- Confirming an edit or a deletion keeps the other records than the one that was opened. -/
def ScreenSafe (s : Screens K) : ScreenEvent K → Prop
  | .finish k form =>
      ∀ opened ∈ s.opened[k]?, OthersKept s (finishEditing s k form) opened.2
  | .delete k index =>
      ∀ opened ∈ s.opened[k]?, OthersKept s (deleteRecord s k index) opened.2
  | _ => True

/-- No confirmation changes or removes a record other than the one the user opened, of its kind or
of the other. -/
def NoCrossWrite (w : World E) : Event E → Prop
  | .website event =>
      ScreenSafe w.websites event ∧
        (step w (.website event)).bankCards.table = w.bankCards.table
  | .bankCard event =>
      ScreenSafe w.bankCards event ∧
        (step w (.bankCard event)).websites.table = w.websites.table
  | .restore _ => True

/-- The row that has the opened model's id by the time of the confirmation, if any, is the opened
record, or already holds what an edit writes; or the form is rejected, the alert is cancelled or the
statement fails. -/
def ScreenCurrent (s : Screens K) : ScreenEvent K → Prop
  | .finish k form =>
      ∀ opened ∈ s.opened[k]?, ∀ model' ∈ K.finish opened.1 form,
        (K.update model' s.table).isSome = true →
          ∀ p ∈ E.rows s.table, some p.1 = K.aId opened.1 →
            s.record p.1 = opened.2 ∨ K.write model' p.2 = p.2
  | .delete k index =>
      ∀ opened ∈ s.opened[k]?, index = 1 → (K.delete opened.1 s.table).isSome = true →
        ∀ p ∈ E.rows s.table, some p.1 = K.aId opened.1 → s.record p.1 = opened.2
  | _ => True

def IdCurrent (w : World E) : Event E → Prop
  | .website event => ScreenCurrent w.websites event
  | .bankCard event => ScreenCurrent w.bankCards event
  | .restore _ => True

theorem othersKept_self (s : Screens K) (record : ℕ) : OthersKept s s record :=
  ⟨rfl, fun _ => rfl⟩

/-- An update gives no new ids. -/
theorem keys_update {model : K.Model} {t t' : E.Table} (h : K.update model t = some t') :
    ∀ p' ∈ E.rows t', ∃ p ∈ E.rows t, p.1 = p'.1 := by
  intro p' hp'
  rw [K.rows_update h] at hp'
  obtain ⟨p, hp, rfl⟩ := List.mem_map.mp hp'
  exact ⟨p, hp, by split_ifs <;> rfl⟩

/-- A deletion gives no new ids. -/
theorem keys_delete {model : K.Model} {t t' : E.Table} (h : K.delete model t = some t') :
    ∀ p' ∈ E.rows t', ∃ p ∈ E.rows t, p.1 = p'.1 := by
  intro p' hp'
  rw [K.rows_delete h] at hp'
  exact ⟨p', List.mem_of_mem_filter hp', rfl⟩

/-- A statement that gives no new ids keeps the others, if it keeps their rows. -/
theorem othersKept_completed_iff {s s₀ : Screens K} {t : E.Table} {record : ℕ}
    (hkeys : ∀ p' ∈ E.rows t, ∃ p ∈ E.rows s.table, p.1 = p'.1) :
    OthersKept s (completed s₀ (some t)) record ↔
      (E.rows t).filter (fun p => s.record p.1 ≠ record) =
        (E.rows s.table).filter (fun p => s.record p.1 ≠ record) :=
  ⟨fun h => h.1, fun h =>
    ⟨h, fun hall => eq_of_filter_eq (P := fun id => s.record id ≠ record) hkeys h hall⟩⟩

theorem othersKept_update_iff {s s₀ : Screens K} {model : K.Model} {t : E.Table} {record : ℕ}
    (h : K.update model s.table = some t) :
    OthersKept s (completed s₀ (some t)) record ↔
      ∀ p ∈ E.rows s.table, some p.1 = K.aId model →
        s.record p.1 = record ∨ K.write model p.2 = p.2 := by
  rw [othersKept_completed_iff (keys_update h), K.rows_update h,
    filter_modify_eq_iff (P := fun id => s.record id ≠ record)]
  refine forall₂_congr fun p _ => forall_congr' fun _ => ?_
  rw [or_iff_not_imp_left]

theorem othersKept_delete_iff {s s₀ : Screens K} {model : K.Model} {t : E.Table} {record : ℕ}
    (h : K.delete model s.table = some t) :
    OthersKept s (completed s₀ (some t)) record ↔
      ∀ p ∈ E.rows s.table, some p.1 = K.aId model → s.record p.1 = record := by
  rw [othersKept_completed_iff (keys_delete h), K.rows_delete h,
    filter_erase_eq_iff (P := fun id => s.record id ≠ record)]
  simp only [not_not]

theorem screenSafe_finish_iff (s : Screens K) (k : ℕ) (form : K.Form) :
    ScreenSafe s (.finish k form) ↔ ScreenCurrent s (.finish k form) := by
  refine forall₂_congr fun opened hopened => ?_
  obtain ⟨model, record⟩ := opened
  have hget : s.opened[k]? = some (model, record) := hopened
  unfold finishEditing
  rw [hget]
  cases hfinish : K.finish model form with
  | none => simpa [hfinish] using othersKept_self s record
  | some model' =>
      cases hupdate : K.update model' s.table with
      | none =>
          -- the model of the screen has changed, the table has not
          simp only [hfinish, hupdate, completed_none]
          exact iff_of_true ⟨rfl, fun _ => rfl⟩ (by simp [hupdate])
      | some t =>
          simp only [hfinish, hupdate]
          rw [othersKept_update_iff hupdate, K.aId_finish hfinish]
          simp [hupdate]

theorem screenSafe_delete_iff (s : Screens K) (k : ℕ) (index : ℤ) :
    ScreenSafe s (.delete k index) ↔ ScreenCurrent s (.delete k index) := by
  refine forall₂_congr fun opened hopened => ?_
  obtain ⟨model, record⟩ := opened
  have hget : s.opened[k]? = some (model, record) := hopened
  unfold deleteRecord
  rw [hget]
  by_cases hindex : index = 1
  · cases hdelete : K.delete model s.table with
    | none => simpa [hindex, hdelete] using othersKept_self s record
    | some t =>
        simp only [if_pos hindex]
        rw [hdelete, othersKept_delete_iff hdelete]
        simp [hindex]
  · simpa [hindex] using othersKept_self s record

theorem screenSafe_iff (s : Screens K) (event : ScreenEvent K) :
    ScreenSafe s event ↔ ScreenCurrent s event := by
  cases event with
  | finish k form => exact screenSafe_finish_iff s k form
  | delete k index => exact screenSafe_delete_iff s k index
  | _ => exact Iff.rfl

theorem noCrossWrite_iff_idCurrent (w : World E) (event : Event E) :
    NoCrossWrite w event ↔ IdCurrent w event := by
  cases event with
  | website event => exact (and_iff_left rfl).trans (screenSafe_iff w.websites event)
  | bankCard event => exact (and_iff_left rfl).trans (screenSafe_iff w.bankCards event)
  | restore backup => exact Iff.rfl

/-- No confirmation of a run is a cross-record write exactly if each finds the opened record, or no
record, or what it writes, under the id. -/
theorem noCrossWrite_iff (w : World E) (es : List (Event E)) :
    Guarded step NoCrossWrite w es ↔ Guarded step IdCurrent w es :=
  guarded_congr_of_iff noCrossWrite_iff_idCurrent

/-- A record with an account and a password. -/
def websiteOf (account : String) : PPWebsiteModel where
  aId := none
  iconImg := none
  account := some account
  password := some "secret"
  title := none
  link := none
  describe := none
  cTime := 0

/-- An app without records, in memory. -/
def emptyWorld : World (Engine.memory Row) where
  websites :=
    { table := (emptyDatabase (Engine.memory Row)).website
      record := fun _ => 0
      dataArray := []
      opened := [] }
  bankCards :=
    { table := (emptyDatabase (Engine.memory Row)).bankcard
      record := fun _ => 0
      dataArray := []
      opened := [] }

/-- The backup of another device, with one record. -/
def otherBackup : Backup (Engine.memory Row) where
  dataBase :=
    { emptyDatabase (Engine.memory Row) with
      website :=
        ((insertWebsiteWithModel (websiteOf "mary") 0 (Engine.memory Row).create).getD
          (Engine.memory Row).create) }
  websiteRecord := fun _ => 2
  bankCardRecord := fun _ => 0

/-- A record is inserted and opened, and a restore ends. -/
def restoredWhileOpen : List (Event (Engine.memory Row)) :=
  [.website (.insert (websiteOf "john") 0 1), .website (.select 0), .restore (some otherBackup)]

/-- Confirming the deletion of the record that was opened removes the one from the backup. -/
theorem not_noCrossWrite_restoredWhileOpen :
    ¬ Guarded step NoCrossWrite emptyWorld
      (restoredWhileOpen ++ [.website (.delete 0 1)]) := by
  intro h
  have hsafe := (guarded_iff_split.mp h restoredWhileOpen (.website (.delete 0 1)) [] rfl).1
  have hopened : (run step emptyWorld restoredWhileOpen).websites.opened[0]? =
      some ({ websiteOf "john" with aId := some 1 }, 1) := by decide +kernel
  obtain ⟨hkept, -⟩ := hsafe _ hopened
  revert hkept
  decide +kernel

/-! ## Without a restore -/

/-- A listed or opened model has the id of a row that was given out, and the row is of its record.
-/
def Known (s : Screens K) (q : K.Model × ℕ) : Prop :=
  ∀ id, K.aId q.1 = some id → id ≤ E.sequence s.table ∧ s.record id = q.2

/-- The ids of the rows were given out, and all models are known. -/
structure Sound (s : Screens K) : Prop where
  keys : ∀ p ∈ E.rows s.table, p.1 ≤ E.sequence s.table
  listed : ∀ q ∈ s.dataArray, Known s q
  opened : ∀ q ∈ s.opened, Known s q

/-- Every row is read with its own id. -/
def IdsExact (s : Screens K) : Prop :=
  ∀ p ∈ E.rows s.table, intForColumn (resultSet p.1 p.2) "id" = p.1

theorem sound_refreshData {s : Screens K}
    (hkeys : ∀ p ∈ E.rows s.table, p.1 ≤ E.sequence s.table) (hopened : ∀ q ∈ s.opened, Known s q)
    (hexact : IdsExact s) : Sound (refreshData s) where
  keys := hkeys
  listed := by
    intro q hq id hid
    obtain ⟨p, hp, hread⟩ := List.mem_filterMap.mp hq
    obtain ⟨model, hmodel, rfl⟩ := Option.map_eq_some_iff.mp hread
    have hown : K.aId model = some p.1 := by rw [K.aId_read hmodel, hexact p hp]
    obtain rfl : p.1 = id := Option.some.inj (hown.symm.trans hid)
    exact ⟨hkeys p hp, rfl⟩
  opened := hopened

/-- A statement that gives no new ids keeps the models known. -/
theorem Sound.completed {s : Screens K} (h : Sound s) {t : E.Table}
    (hkeys : ∀ p' ∈ E.rows t, ∃ p ∈ E.rows s.table, p.1 = p'.1)
    (hsequence : E.sequence t = E.sequence s.table) (hexact : IdsExact (completed s (some t))) :
    Sound (completed s (some t)) := by
  refine sound_refreshData ?_ ?_ hexact
  · intro p' hp'
    obtain ⟨p, hp, hkey⟩ := hkeys p' hp'
    rw [← hkey]
    exact (h.keys p hp).trans hsequence.ge
  · intro q hq id hid
    obtain ⟨hle, hrecord⟩ := h.opened q hq id hid
    exact ⟨hle.trans hsequence.ge, hrecord⟩

theorem Sound.insertRecord {s : Screens K} (h : Sound s) {model : K.Model} {cTime : ℤ} {record : ℕ}
    (hexact : IdsExact (insertRecord s model cTime record)) :
    Sound (insertRecord s model cTime record) := by
  unfold Sessions.insertRecord at hexact ⊢
  cases hinsert : K.insert model cTime s.table with
  | none => exact h
  | some t =>
      simp only [hinsert] at hexact
      have hsequence := K.sequence_insert hinsert
      obtain ⟨row, hrows⟩ := K.rows_insert hinsert
      refine sound_refreshData ?_ ?_ hexact
      · intro p hp
        show p.1 ≤ E.sequence t
        rcases List.mem_append.mp (hrows ▸ hp) with hold | hnew
        · have hle := h.keys p hold
          omega
        · rw [List.mem_singleton.mp hnew]
          dsimp only
          omega
      · intro q hq id hid
        obtain ⟨hle, hrecord⟩ := h.opened q hq id hid
        -- the new record gets an id beyond all known ones
        have hne : id ≠ E.sequence s.table + 1 := by omega
        refine ⟨?_, (Function.update_of_ne hne _ _).trans hrecord⟩
        show id ≤ E.sequence t
        omega

theorem Sound.finishEditing {s : Screens K} (h : Sound s) {k : ℕ} {form : K.Form}
    (hexact : IdsExact (finishEditing s k form)) : Sound (finishEditing s k form) := by
  unfold Sessions.finishEditing at hexact ⊢
  cases hget : s.opened[k]? with
  | none => exact h
  | some q =>
      obtain ⟨model, record⟩ := q
      cases hfinish : K.finish model form with
      | none => simpa only [hfinish] using h
      | some model' =>
          simp only [hget, hfinish] at hexact ⊢
          have hedited : Sound { s with opened := s.opened.set k (model', record) } := by
            refine ⟨h.keys, h.listed, fun q hq => ?_⟩
            rcases List.mem_or_eq_of_mem_set hq with hold | rfl
            · exact h.opened q hold
            · intro id hid
              rw [K.aId_finish hfinish] at hid
              exact h.opened _ (List.mem_of_getElem? hget) id hid
          cases hupdate : K.update model' s.table with
          | none => exact hedited
          | some t =>
              rw [hupdate] at hexact
              exact hedited.completed (keys_update hupdate) (K.sequence_update hupdate) hexact

theorem Sound.deleteRecord {s : Screens K} (h : Sound s) {k : ℕ} {index : ℤ}
    (hexact : IdsExact (deleteRecord s k index)) : Sound (deleteRecord s k index) := by
  unfold Sessions.deleteRecord at hexact ⊢
  cases hget : s.opened[k]? with
  | none => exact h
  | some q =>
      simp only [hget] at hexact ⊢
      split_ifs at hexact ⊢
      · cases hdelete : K.delete q.1 s.table with
        | none => exact h
        | some t =>
            rw [hdelete] at hexact
            exact h.completed (keys_delete hdelete) (K.sequence_delete hdelete) hexact
      · exact h

theorem Sound.screenStep {s : Screens K} (h : Sound s) (event : ScreenEvent K)
    (hexact : IdsExact (screenStep s event)) : Sound (screenStep s event) := by
  cases event with
  | insert model cTime record => exact h.insertRecord hexact
  | refreshData => exact sound_refreshData h.keys h.opened hexact
  | select row =>
      refine ⟨h.keys, h.listed, fun q hq => ?_⟩
      rcases List.mem_append.mp hq with hold | hnew
      · exact h.opened q hold
      · exact h.listed q (List.mem_of_getElem? (Option.mem_toList.mp hnew))
  | finish k form => exact h.finishEditing hexact
  | delete k index => exact h.deleteRecord hexact

/-- While the models are known, the row with an opened model's id is the opened record. -/
theorem Sound.screenSafe {s : Screens K} (h : Sound s) (event : ScreenEvent K) :
    ScreenSafe s event := by
  rw [screenSafe_iff]
  cases event with
  | finish k form =>
      intro q hq model' _ _ p _ hid
      exact Or.inl (h.opened q (List.mem_of_getElem? hq) p.1 hid.symm).2
  | delete k index =>
      intro q hq _ _ p _ hid
      exact (h.opened q (List.mem_of_getElem? hq) p.1 hid.symm).2
  | _ => trivial

/-- The event puts no other database under the screens, and all ids are read exactly after it. -/
def KeepsDatabase (w : World E) (event : Event E) : Prop :=
  (∀ backup, event ≠ .restore (some backup)) ∧ IdsExact (step w event).websites ∧
    IdsExact (step w event).bankCards

/-- As long as no restore succeeds and the ids are read exactly, no confirmation is a cross-record
write. -/
theorem noCrossWrite_of_keepsDatabase {w : World E} {es : List (Event E)}
    (hwebsites : Sound w.websites) (hbankCards : Sound w.bankCards)
    (h : Guarded step KeepsDatabase w es) : Guarded step NoCrossWrite w es := by
  have hstep (w : World E) (event : Event E) (hw : Sound w.websites ∧ Sound w.bankCards)
      (hkeeps : KeepsDatabase w event) :
      Sound (step w event).websites ∧ Sound (step w event).bankCards := by
    obtain ⟨hrestore, hexactWebsites, hexactCards⟩ := hkeeps
    cases event with
    | website event => exact ⟨hw.1.screenStep event hexactWebsites, hw.2⟩
    | bankCard event => exact ⟨hw.1, hw.2.screenStep event hexactCards⟩
    | restore backup =>
        cases backup with
        | none => exact hw
        | some backup => exact absurd rfl (hrestore backup)
  refine h.imp hstep (fun w event hw _ => ?_) ⟨hwebsites, hbankCards⟩
  cases event with
  | website event => exact ⟨hw.1.screenSafe event, rfl⟩
  | bankCard event => exact ⟨hw.2.screenSafe event, rfl⟩
  | restore backup => trivial

end PasswordPackage.Sessions
