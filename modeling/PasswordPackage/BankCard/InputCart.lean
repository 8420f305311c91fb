import Mathlib.Data.List.DropRight
import Mathlib.Tactic.SplitIfs
import PasswordPackage.Data.Model

/-!
# The bank card form

`InputCartViewController` fills in a new card or edits a stored one. The account and expiry fields
regroup their digits on every edit, a lookup of the account number sets the logo and the card type,
and confirming hands a model to the data manager. Texts are lists of characters, one for each unit
that the source counts.
-/

namespace PasswordPackage.InputCart

/-! ## Grouped digits -/

structure NSRange where
  location : ℕ
  length : ℕ
deriving DecidableEq

/-- `stringByReplacingCharactersInRange:withString:`. -/
def replaceRange (text : List Char) (range : NSRange) (string : List Char) : List Char :=
  text.take range.location ++ string ++ text.drop (range.location + range.length)

/-- Membership in the set of the characters of `"0123456789\b"`. -/
def inCharacterSet (c : Char) : Bool :=
  ['0', '1', '2', '3', '4', '5', '6', '7', '8', '9', '\x08'].contains c

/-- `stringByTrimmingCharactersInSet:` with the inverted set. -/
def trim (text : List Char) : List Char :=
  (text.dropWhile fun c => !inCharacterSet c).rdropWhile fun c => !inCharacterSet c

/-- One turn of the loop that regroups a text: the rest of the text, and `newString`. -/
def groupTurn (separator : Char) (size : ℕ) (text newString : List Char) :
    List Char × List Char :=
  let subString := text.take (min text.length size)
  let newString := newString ++ subString
  (text.drop (min text.length size),
    if subString.length = size then newString ++ [separator] else newString)

/-- The loop, for a number of turns. -/
def groupLoop (separator : Char) (size : ℕ) : ℕ → List Char → List Char → List Char × List Char
  | 0, text, newString => (text, newString)
  | turns + 1, text, newString =>
      if text.length > 0 then
        let next := groupTurn separator size text newString
        groupLoop separator size turns next.1 next.2
      else (text, newString)

/-- The loop ends: no text is left after as many turns as there are characters. -/
theorem groupLoop_text (separator : Char) {size : ℕ} (hsize : 0 < size) {turns : ℕ}
    {text : List Char} (hturns : text.length ≤ turns) (newString : List Char) :
    (groupLoop separator size turns text newString).1 = [] := by
  induction turns generalizing text newString with
  | zero => exact List.length_eq_zero_iff.mp (Nat.le_zero.mp hturns)
  | succ turns ih =>
      rw [groupLoop]
      split
      · apply ih
        simp only [groupTurn, List.length_drop]
        omega
      · next hempty => exact List.length_eq_zero_iff.mp (Nat.eq_zero_of_not_pos hempty)

/-- A branch of `textField:shouldChangeCharactersInRange:replacementString:`, for a field that
groups `size` digits between separators and has fewer than `limit` of them. -/
def regroup (separator : Char) (size limit : ℕ) (text : List Char) (range : NSRange)
    (string : List Char) : List Char :=
  let string := string.filter (· ≠ separator)
  if !string.all inCharacterSet then text
  else
    let digits := (replaceRange text range string).filter (· ≠ separator)
    let newString := trim (groupLoop separator size digits.length digits []).2
    if (newString.filter (· ≠ separator)).length ≥ limit then text else newString

/-- The branch of `accountTF`. -/
def regroupAccount : List Char → NSRange → List Char → List Char :=
  regroup ' ' 4 20

/-- The branch of `expireDateTF`. -/
def regroupExpireDate : List Char → NSRange → List Char → List Char :=
  regroup '/' 2 5

example : regroupAccount "6222 02".toList ⟨7, 0⟩ "001".toList = "6222 0200 1".toList := by decide

/-! ## The form -/

/-- The text fields. -/
inductive TextField where
  | account
  | password
  | pin
  | cvv
  | expireDate
deriving DecidableEq

/-- The controls of the form, the address of the logo, and the models: the record being edited, if
any, and the new one. -/
structure Form where
  accountTF : String
  passwordTF : String
  pinTF : String
  cvvTF : String
  expireDateTF : String
  describe : String
  typeSegment : ℤ
  logoImageUrl : Option String
  editModel : Option PPBankCardModel
  bankCardModel : PPBankCardModel
deriving DecidableEq

/-- `[[PPBankCardModel alloc] init]`. -/
def newBankCardModel : PPBankCardModel where
  aId := none
  frontImg := none
  backImg := none
  type := 0
  expireDate := none
  account := none
  password := none
  cvvCode := none
  pin := none
  describe := none
  logoImageUrl := none
  cTime := 0

/-- `viewDidLoad`. A field whose text is set to nil is empty. -/
def viewDidLoad (editModel : Option PPBankCardModel) : Form :=
  match editModel with
  | some model =>
      { accountTF := model.account.getD ""
        passwordTF := model.password.getD ""
        pinTF := model.pin.getD ""
        cvvTF := model.cvvCode.getD ""
        expireDateTF := model.expireDate.getD ""
        describe := model.describe.getD ""
        typeSegment := model.type
        logoImageUrl := none
        editModel := some model
        bankCardModel := newBankCardModel }
  | none =>
      { accountTF := ""
        passwordTF := ""
        pinTF := ""
        cvvTF := ""
        expireDateTF := ""
        describe := ""
        typeSegment := 0
        logoImageUrl := some ""
        editModel := none
        bankCardModel := newBankCardModel }

/-- The user replaces a range of a field: the two grouping fields set their text themselves, the
others take the change and are cut by `textFieldDidChange:`. -/
def changeCharacters (form : Form) (field : TextField) (range : NSRange) (string : String) : Form :=
  match field with
  | .account =>
      { form with
        accountTF := String.ofList (regroupAccount form.accountTF.toList range string.toList) }
  | .expireDate =>
      { form with
        expireDateTF :=
          String.ofList (regroupExpireDate form.expireDateTF.toList range string.toList) }
  | .password =>
      { form with
        passwordTF :=
          String.ofList ((replaceRange form.passwordTF.toList range string.toList).take 6) }
  | .pin =>
      { form with
        pinTF := String.ofList ((replaceRange form.pinTF.toList range string.toList).take 6) }
  | .cvv =>
      { form with
        cvvTF := String.ofList ((replaceRange form.cvvTF.toList range string.toList).take 3) }

/-- `accountTF.text` without its spaces. -/
def Form.cardNumber (form : Form) : String :=
  String.ofList (form.accountTF.toList.filter (· ≠ ' '))

/-! ## Confirming -/

/-- What `pressedConfirmButton:` ends in. -/
inductive Confirmation where
  | showError (message : String)
  | update (id : Option ℤ) (model : PPBankCardModel)
  | insert (model : PPBankCardModel)
deriving DecidableEq

/-- The type of a selected segment: a negative index wraps around. -/
def segmentType (index : ℤ) : ℕ :=
  (index % 2 ^ 64).toNat

/-- What confirming assigns to the record being edited. -/
def Form.editedCard (form : Form) (model : PPBankCardModel) : PPBankCardModel :=
  { model with
    type := segmentType form.typeSegment
    account := some form.accountTF
    password := some form.passwordTF
    cvvCode := some form.cvvTF
    pin := some form.pinTF
    describe := some form.describe }

/-- What confirming assigns to the new card. -/
def Form.newCard (form : Form) : PPBankCardModel :=
  { form.bankCardModel with
    type := segmentType form.typeSegment
    account := some form.accountTF
    expireDate := some form.expireDateTF
    password := some form.passwordTF
    cvvCode := some form.cvvTF
    pin := some form.pinTF
    describe := some form.describe
    logoImageUrl := form.logoImageUrl }

/-- `pressedConfirmButton:`. Both branches change the model in place. -/
def pressedConfirmButton (form : Form) : Form × Confirmation :=
  if form.accountTF.length = 0 then (form, .showError "请输入银行卡号!")
  else if form.passwordTF.length = 0 then (form, .showError "请输入密码!")
  else
    match form.editModel with
    | some model =>
        ({ form with editModel := some (form.editedCard model) },
          .update model.aId (form.editedCard model))
    | none => ({ form with bankCardModel := form.newCard }, .insert form.newCard)

/-- A card is inserted from a form for a new card that has an account and a password. -/
theorem pressedConfirmButton_insert_iff {form : Form} {model : PPBankCardModel} :
    (pressedConfirmButton form).2 = .insert model ↔
      form.editModel = none ∧ form.accountTF.length ≠ 0 ∧ form.passwordTF.length ≠ 0 ∧
        model = form.newCard := by
  unfold pressedConfirmButton
  by_cases haccount : form.accountTF.length = 0
  · simp [haccount]
  by_cases hpassword : form.passwordTF.length = 0
  · simp [haccount, hpassword]
  rw [if_neg haccount, if_neg hpassword]
  cases form.editModel with
  | none => simp [haccount, hpassword, eq_comm]
  | some edit => simp

/-- A card is updated from a form for it that has an account and a password. -/
theorem pressedConfirmButton_update_iff {form : Form} {id : Option ℤ} {model' : PPBankCardModel} :
    (pressedConfirmButton form).2 = .update id model' ↔
      ∃ model, form.editModel = some model ∧ form.accountTF.length ≠ 0 ∧
        form.passwordTF.length ≠ 0 ∧ model.aId = id ∧ form.editedCard model = model' := by
  unfold pressedConfirmButton
  by_cases haccount : form.accountTF.length = 0
  · simp [haccount]
  by_cases hpassword : form.passwordTF.length = 0
  · simp [haccount, hpassword]
  rw [if_neg haccount, if_neg hpassword]
  cases form.editModel with
  | none => simp
  | some model => simp [haccount, hpassword]

/-- Confirming does not change the mode of the form, nor its logo. -/
theorem pressedConfirmButton_new {form : Form} (hnew : form.editModel = none) :
    (pressedConfirmButton form).1.editModel = none ∧
      (pressedConfirmButton form).1.logoImageUrl = form.logoImageUrl := by
  unfold pressedConfirmButton
  simp only [hnew]
  split_ifs
  · exact ⟨hnew, rfl⟩
  · exact ⟨hnew, rfl⟩
  · exact ⟨rfl, rfl⟩

end PasswordPackage.InputCart
