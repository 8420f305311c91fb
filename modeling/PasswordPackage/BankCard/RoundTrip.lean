import PasswordPackage.BankCard.InputCart
import PasswordPackage.Data.Schema

/-!
# From the card form to the table and back

Confirming the form copies its fields into a model by one list of assignments for a new card and by
another one for an edited card, and the model goes through a statement and a decoder. The second
list has no expiry date.
-/

namespace PasswordPackage.InputCart

open FMDB KeyedTable DataManager

variable {E : Engine Row}

/-! ## Saving -/

/-- What a press of the confirm button leaves in the table, `none` when nothing is saved. -/
def save (form : Form) (cTime : ℤ) (table : E.Table) : Option E.Table :=
  match (pressedConfirmButton form).2 with
  | .showError _ => none
  | .update id model => updateBackCardWithId (id.getD 0) model table
  | .insert model => insertBackCardWithModel model cTime table

/-- The id under which a form is saved. -/
def savedId (form : Form) (table : E.Table) : Option ℤ :=
  match form.editModel with
  | some model => model.aId
  | none => some (E.sequence table + 1)

/-- The model has the values of the form. -/
structure ShowsForm (form : Form) (model : PPBankCardModel) : Prop where
  type : model.type = segmentType form.typeSegment
  account : model.account = some form.accountTF
  password : model.password = some form.passwordTF
  expireDate : model.expireDate = some form.expireDateTF
  cvvCode : model.cvvCode = some form.cvvTF
  pin : model.pin = some form.pinTF
  describe : model.describe = some form.describe

/-- The record read back from the table has the values of the form that was saved. -/
def RoundTrips (form : Form) (table table' : E.Table) : Prop :=
  ∃ id row model, savedId form table = some id ∧ (id, row) ∈ E.rows table' ∧
    backcardFromResult (resultSet id row) = some model ∧ ShowsForm form model

/-! ## What is read of what was bound -/

/-- The number that is bound for a type and read back as one. -/
def storedType (type : ℕ) : ℕ :=
  ((bindObject (some (.number type))).int % 2 ^ 64).toNat

/-- A selected segment comes back when its index fits into 32 bits. -/
theorem storedType_segmentType_iff {index : ℤ} :
    storedType (segmentType index) = segmentType index ↔ InInt32 (index.bmod (2 ^ 64)) := by
  have hbound : (bindObject (some (.number (segmentType index)))).int =
      (index.bmod (2 ^ 64)).bmod (2 ^ 32) := by
    have hwrap : (segmentType index : ℤ) = index % 2 ^ 64 := by
      unfold segmentType
      omega
    rw [hwrap]
    show ((index % 2 ^ 64).bmod (2 ^ 64)).bmod (2 ^ 32) = _
    exact congrArg (Int.bmod · (2 ^ 32)) (Int.emod_bmod ..)
  have hmod : index.bmod (2 ^ 64) % 2 ^ 64 = index % 2 ^ 64 := Int.bmod_emod ..
  have hlow := Int.le_bmod (x := index) (m := 2 ^ 64) (by decide)
  have hhigh := Int.bmod_lt (x := index) (m := 2 ^ 64) (by decide)
  have hlow' := Int.le_bmod (x := index.bmod (2 ^ 64)) (m := 2 ^ 32) (by decide)
  have hhigh' := Int.bmod_lt (x := index.bmod (2 ^ 64)) (m := 2 ^ 32) (by decide)
  rw [← bmod_eq_self_iff, storedType, hbound, segmentType, ← hmod]
  omega

/-- A bank card as it comes back from the row it was bound to. -/
theorem backcardFromResult_bound (id : ℤ) (model : PPBankCardModel) (ctime : SqlValue) :
    backcardFromResult (resultSet id
        { insertedBankCard model 0 with ctime := ctime }.row) =
      model.account.bind fun account =>
        model.password.bind fun password =>
          model.logoImageUrl.map fun logoImageUrl =>
            { aId := some (id.bmod (2 ^ 32))
              frontImg := (blobCell model.frontImg).data
              backImg := none
              type := storedType model.type
              expireDate := model.expireDate.map cString
              account := some (cString account)
              password := some (cString password)
              cvvCode := model.cvvCode.map cString
              pin := model.pin.map cString
              describe := model.describe.map cString
              logoImageUrl := some (cString logoImageUrl)
              cTime := 0 } := by
  rw [backcardFromResult_row]
  simp only [insertedBankCard, BankCardCells.model, string_bindObject, bindObject_data, storedType]
  cases model.account <;> cases model.password <;> cases model.logoImageUrl <;> rfl

/-! ## Forms that come back -/

/-- The values that both lists copy can be stored: no text has a zero character, and the index of
the segment fits into 32 bits. -/
structure FormStorable (form : Form) : Prop where
  type : InInt32 (form.typeSegment.bmod (2 ^ 64))
  account : NoNul form.accountTF
  password : NoNul form.passwordTF
  cvvCode : NoNul form.cvvTF
  pin : NoNul form.pinTF
  describe : NoNul form.describe

/-- The list for a new card assigns two more fields than the list for an edited one. -/
theorem newCard_eq_editedCard (form : Form) :
    form.newCard = form.editedCard
      { form.bankCardModel with
        expireDate := some form.expireDateTF
        logoImageUrl := form.logoImageUrl } := rfl

/-- An edited card comes back with the values of the form exactly when they can be stored, the card
has a logo address, and its expiry date was the one of the form before. -/
theorem readsBack_iff (form : Form) (id : ℤ) (model : PPBankCardModel) (ctime : SqlValue) :
    (∃ model', backcardFromResult (resultSet id
        { insertedBankCard (form.editedCard model) 0 with ctime := ctime }.row) = some model' ∧
          ShowsForm form model') ↔
      FormStorable form ∧ model.logoImageUrl ≠ none ∧
        model.expireDate.map cString = some form.expireDateTF := by
  rw [backcardFromResult_bound]
  cases hlogo : model.logoImageUrl with
  | none => simp [Form.editedCard, hlogo]
  | some logoImageUrl =>
      simp only [Form.editedCard, hlogo, Option.bind_some, Option.map_some, Option.some.injEq]
      constructor
      · -- each field of the form is the part of it before a zero
        rintro ⟨model', rfl, h⟩
        have htype := h.type
        dsimp only at htype
        refine ⟨⟨?_, ?_, ?_, ?_, ?_, ?_⟩, by simp, h.expireDate⟩
        · exact storedType_segmentType_iff.mp htype
        · exact cString_eq_self_iff.mp (Option.some.inj h.account)
        · exact cString_eq_self_iff.mp (Option.some.inj h.password)
        · exact cString_eq_self_iff.mp (Option.some.inj h.cvvCode)
        · exact cString_eq_self_iff.mp (Option.some.inj h.pin)
        · exact cString_eq_self_iff.mp (Option.some.inj h.describe)
      · rintro ⟨h, -, hexpire⟩
        refine ⟨_, rfl, ?_, ?_, ?_, hexpire, ?_, ?_, ?_⟩
        · dsimp only
          exact storedType_segmentType_iff.mpr h.type
        · exact congrArg some (cString_eq_self h.account)
        · exact congrArg some (cString_eq_self h.password)
        · exact congrArg some (cString_eq_self h.cvvCode)
        · exact congrArg some (cString_eq_self h.pin)
        · exact congrArg some (cString_eq_self h.describe)

/-- When a form that was saved comes back. -/
def ComesBack (form : Form) (table : E.Table) : Prop :=
  FormStorable form ∧
    match form.editModel with
    | none => form.logoImageUrl ≠ none ∧ NoNul form.expireDateTF
    | some model =>
        (∃ p ∈ E.rows table, some p.1 = model.aId) ∧ model.logoImageUrl ≠ none ∧
          model.expireDate.map cString = some form.expireDateTF

/-- The only row under a new id is the one that was inserted. -/
theorem mem_rows_insert_iff {table table' : E.Table} (hshape : Shaped bankcardColumns table)
    {model : PPBankCardModel} {cTime : ℤ}
    (hinsert : insertBackCardWithModel model cTime table = some table') (row : Row) :
    (E.sequence table + 1, row) ∈ E.rows table' ↔ row = (insertedBankCard model cTime).row := by
  rw [rows_insertBackCard hinsert, List.mem_append, List.mem_singleton]
  constructor
  · rintro (hold | hnew)
    · have hle := hshape.le_sequence _ hold
      dsimp only at hle
      omega
    · exact congrArg Prod.snd hnew
  · rintro rfl
    exact Or.inr rfl

/-- The rows under the id of an update are the ones it has set. -/
theorem mem_rows_update_iff {table table' : E.Table} {aId id : ℤ} {model : PPBankCardModel}
    (hid : model.aId = some id) (hupdate : updateBackCardWithId aId model table = some table')
    (row : Row) :
    (id, row) ∈ E.rows table' ↔ ∃ old, (id, old) ∈ E.rows table ∧ row = setBankCard model old := by
  rw [rows_updateBackCard hupdate, hid, mem_modify_iff]
  simp only [if_pos]

/-- A filled form for a new card. -/
def filledForm : Form :=
  { viewDidLoad none with
    accountTF := "6222 0000"
    passwordTF := "123456"
    expireDateTF := "12/30" }

/-- The card of that form, as the list shows it. -/
def storedCard : PPBankCardModel :=
  { filledForm.newCard with aId := some 1 }

/-- The table with that card. -/
def cardTable : (Engine.memory Row).Table :=
  ([(1, (insertedBankCard filledForm.newCard 0).row)], 1)

example : getAllBackCard (E := Engine.memory Row) cardTable = [storedCard] := by decide +kernel

/-- The form for the stored card, with another expiry date. -/
def renewedForm : Form :=
  { viewDidLoad (some storedCard) with expireDateTF := "01/31" }

end PasswordPackage.InputCart
