import PasswordPackage.Data.Model
import PasswordPackage.Site.SearchItem

/-!
# The website form

`InputWebsiteViewController` fills in a new website record or edits a stored one. Finishing changes
the model in place and hands it to the data manager.
-/

namespace PasswordPackage.InputWebsite

open FMDB SearchItem

/-- The controls of the form, and the models: the record being edited, if any, and the new one.
`iconImage` is the PNG representation of the image that is shown. -/
structure Form where
  accountTF : String
  passwordTF : String
  websiteTF : String
  describeTextView : String
  iconLabel : Option String
  iconImage : Option NSData
  websiteModel : Option PPWebsiteModel
  insertModel : PPWebsiteModel
deriving DecidableEq

/-- `[[PPWebsiteModel alloc] init]`. -/
def newWebsiteModel : PPWebsiteModel where
  aId := none
  iconImg := none
  account := none
  password := none
  title := none
  link := none
  describe := none
  cTime := 0

/-- `viewDidLoad`. A field whose text is set to nil is empty, a label stays without a text. `png` is
the PNG representation of the image with the given data, and `bundled` the one of the image in a
file of the bundle. The names of bundled sites have no capital letters beyond `A` to `Z`. -/
def viewDidLoad (png : NSData → Option NSData) (bundled : String → Option NSData)
    (websiteModel : Option PPWebsiteModel) (webSiteName : String) : Form :=
  match websiteModel with
  | some model =>
      { accountTF := model.account.getD ""
        passwordTF := model.password.getD ""
        websiteTF := model.link.getD ""
        describeTextView := model.describe.getD ""
        iconLabel := model.title.map descriptionWithName
        iconImage := model.iconImg.bind png
        websiteModel := some model
        insertModel := newWebsiteModel }
  | none =>
      let address := "https://www." ++ lowercaseString webSiteName
      let icon := bundled ("/website/" ++ webSiteName ++ "@2x.png")
      { accountTF := ""
        passwordTF := ""
        websiteTF := if webSiteName.toList.contains '.' then address else address ++ ".com"
        describeTextView := ""
        iconLabel := some (descriptionWithName webSiteName)
        iconImage := icon
        websiteModel := none
        insertModel := { newWebsiteModel with title := some webSiteName, iconImg := icon } }

/-- What `pressedFinishButton:` ends in. -/
inductive Confirmation where
  | showError (message : String)
  | update (id : Option ℤ) (model : PPWebsiteModel)
  | insert (model : PPWebsiteModel)
deriving DecidableEq

/-- What finishing assigns to the record being edited. -/
def Form.editedWebsite (form : Form) (model : PPWebsiteModel) : PPWebsiteModel :=
  { model with
    title := form.iconLabel
    account := some form.accountTF
    password := some form.passwordTF
    link := some form.websiteTF
    describe := some form.describeTextView
    iconImg := form.iconImage }

/-- What finishing assigns to the new record. -/
def Form.newWebsite (form : Form) : PPWebsiteModel :=
  { form.insertModel with
    account := some form.accountTF
    password := some form.passwordTF
    link := some form.websiteTF
    describe := some form.describeTextView }

/-- `pressedFinishButton:`. Both branches change the model in place. -/
def pressedFinishButton (form : Form) : Form × Confirmation :=
  if form.accountTF.length = 0 then (form, .showError "请输入账户名!")
  else if form.passwordTF.length = 0 then (form, .showError "请输入密码!")
  else
    match form.websiteModel with
    | some model =>
        ({ form with websiteModel := some (form.editedWebsite model) },
          .update model.aId (form.editedWebsite model))
    | none => ({ form with insertModel := form.newWebsite }, .insert form.newWebsite)

/-- A record is updated from a form for it that has an account and a password. -/
theorem pressedFinishButton_update_iff {form : Form} {id : Option ℤ} {model' : PPWebsiteModel} :
    (pressedFinishButton form).2 = .update id model' ↔
      ∃ model, form.websiteModel = some model ∧ form.accountTF.length ≠ 0 ∧
        form.passwordTF.length ≠ 0 ∧ model.aId = id ∧ form.editedWebsite model = model' := by
  unfold pressedFinishButton
  by_cases haccount : form.accountTF.length = 0
  · simp [haccount]
  by_cases hpassword : form.passwordTF.length = 0
  · simp [haccount, hpassword]
  rw [if_neg haccount, if_neg hpassword]
  cases form.websiteModel with
  | none => simp
  | some model => simp [haccount, hpassword]

end PasswordPackage.InputWebsite
