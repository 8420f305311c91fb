import PasswordPackage.BankCard.InputCart
import PasswordPackage.Common.Run

/-!
# Looking up the bank of a card

Every end of editing of the account field asks a server for the bank of the number that stands
there. An answer does not say which number it is for: the form takes the logo of any bank that is
named, whenever it is, and keeps it when a later answer names none or never comes.
-/

namespace PasswordPackage.InputCart

open Machine

/-! ## The logo address -/

/-- `xorString`: the bytes are overwritten up to the first that becomes zero. `none` is a walk past
the end of the buffer. -/
def xorString (key : UInt8) : List UInt8 → Option (List UInt8)
  | [] => none
  | byte :: rest =>
      if byte ^^^ key = 0 then some ((byte ^^^ key) :: rest)
      else (xorString key rest).map ((byte ^^^ key) :: ·)

/-- `XOR_KEY`. -/
def xorKey : UInt8 := 0xBB

/-- The buffer of `testFunction`. -/
def testBuffer : List UInt8 :=
  ['a', 'l', 'i', 'p', 'a', 'y', '\x00'].map fun c => xorKey ^^^ UInt8.ofNat c.toNat

/-- `testFunction`: the bytes before the zero, as characters. -/
def testFunction : String :=
  String.ofList ((((xorString xorKey testBuffer).getD []).takeWhile (· ≠ 0)).map
    fun byte => Char.ofNat byte.toNat)

/-- The address that `setBankLoginWithBankName:` builds. -/
def imageUrl (bankName : String) : String :=
  "https://apimg." ++ testFunction ++ ".com/combo.png?d=cashier&t=" ++ bankName

example : imageUrl "ICBC" = "https://apimg.alipay.com/combo.png?d=cashier&t=ICBC" := by decide

theorem imageUrl_injective {bank bank' : String} (h : imageUrl bank = imageUrl bank') :
    bank = bank' :=
  (String.append_right_inj _).mp h

theorem imageUrl_ne_empty (bank : String) : imageUrl bank ≠ "" := by
  intro h
  obtain ⟨haddress, -⟩ := String.append_eq_empty_iff.mp h
  obtain ⟨hhost, -⟩ := String.append_eq_empty_iff.mp haddress
  obtain ⟨hscheme, -⟩ := String.append_eq_empty_iff.mp hhost
  exact absurd hscheme (by decide)

/-! ## Answers -/

/-- The fields of a response that are read. All of them are optional. -/
structure BankCardResponse where
  cardType : Option String
  bank : Option String
deriving DecidableEq

/-- How a lookup ends: the request or the import of its response fails, or there is a response. -/
inductive Reply where
  | failed
  | response (model : BankCardResponse)
deriving DecidableEq

/-- The bank of a response, when its name has characters. -/
def BankCardResponse.namedBank (model : BankCardResponse) : Option String :=
  model.bank.filter fun bank => bank.length ≠ 0

/-- The bank that a reply names. -/
def Reply.namedBank : Reply → Option String
  | .failed => none
  | .response model => model.namedBank

/-- `setBankLoginWithBankName:`. -/
def setBankLoginWithBankName (form : Form) (bankName : String) : Form :=
  { form with logoImageUrl := some (imageUrl bankName) }

/-- The completion of `getCardInfoWithBankNumber:completion:`. -/
def completion (form : Form) : Reply → Form
  | .failed => form
  | .response model =>
      let form :=
        match model.namedBank with
        | some bank => setBankLoginWithBankName form bank
        | none => form
      match model.cardType with
      | some "DC" => { form with typeSegment := 0 }
      | some "CC" => { form with typeSegment := 1 }
      | _ => form

/-! ## The screen with its lookups -/

/-- The form, and the numbers of the requests that are still out. `named` is not data of the app: it
lists the numbers for which a bank was named and those banks, the last one first. -/
structure Screen where
  form : Form
  lookups : List String
  named : List (String × String)
deriving DecidableEq

inductive Event where
  | changeCharacters (field : TextField) (range : NSRange) (string : String)
  | changeDescribe (text : String)
  | selectSegment (index : ℤ)
  | endEditing (field : TextField)
  | reply (i : ℕ) (reply : Reply)
  | confirm
deriving DecidableEq

/-- `textFieldDidEndEditing:reason:`. -/
def textFieldDidEndEditing (s : Screen) (field : TextField) : Screen :=
  if field = .account then { s with lookups := s.lookups ++ [s.form.cardNumber] } else s

/-- The `i`-th request that is out gets its reply. -/
def receive (s : Screen) (i : ℕ) (reply : Reply) : Screen :=
  match s.lookups[i]? with
  | none => s
  | some number =>
      { form := completion s.form reply
        lookups := s.lookups.eraseIdx i
        named := (reply.namedBank.map fun bank => (number, bank)).toList ++ s.named }

def step (s : Screen) : Event → Screen
  | .changeCharacters field range string =>
      { s with form := changeCharacters s.form field range string }
  | .changeDescribe text => { s with form := { s.form with describe := text } }
  | .selectSegment index => { s with form := { s.form with typeSegment := index } }
  | .endEditing field => textFieldDidEndEditing s field
  | .reply i reply => receive s i reply
  | .confirm => { s with form := (pressedConfirmButton s.form).1 }

/-- The form for a new card. -/
def newCard : Screen :=
  { form := viewDidLoad none, lookups := [], named := [] }

/-! ## Consistency of the saved logo -/

/-- A card that is saved has no logo, or that of a bank named for its own number. -/
def LogoConsistent (s : Screen) : Event → Prop
  | .confirm =>
      ∀ model, (pressedConfirmButton s.form).2 = .insert model →
        model.logoImageUrl = some "" ∨
          ∃ account bank, model.account = some account ∧
            (String.ofList (account.toList.filter (· ≠ ' ')), bank) ∈ s.named ∧
            model.logoImageUrl = some (imageUrl bank)
  | _ => True

/-- At a confirmation with an account and a password, the bank that was named last, if any, was also
named for the number in the form. -/
def LastNamedForNumber (s : Screen) : Event → Prop
  | .confirm =>
      s.form.accountTF.length ≠ 0 → s.form.passwordTF.length ≠ 0 →
        ∀ number bank, s.named.head? = some (number, bank) → (s.form.cardNumber, bank) ∈ s.named
  | _ => True

/-- The form is for a new card, and shows the logo of the bank that was named last. -/
structure Inv (s : Screen) : Prop where
  isNew : s.form.editModel = none
  logo : s.form.logoImageUrl = some ((s.named.head?.map fun last => imageUrl last.2).getD "")

theorem inv_newCard : Inv newCard where
  isNew := rfl
  logo := rfl

/-- What a completion does to the logo, and that it leaves the mode alone. -/
theorem completion_eq (form : Form) (reply : Reply) :
    (completion form reply).editModel = form.editModel ∧
      (completion form reply).logoImageUrl =
        (reply.namedBank.map imageUrl).or form.logoImageUrl := by
  cases reply with
  | failed => exact ⟨rfl, rfl⟩
  | response model =>
      dsimp only [completion, Reply.namedBank]
      cases model.namedBank with
      | none => split <;> exact ⟨rfl, rfl⟩
      | some bank => split <;> exact ⟨rfl, rfl⟩

theorem Inv.receive {s : Screen} (h : Inv s) (i : ℕ) (reply : Reply) : Inv (receive s i reply) := by
  unfold InputCart.receive
  split
  · exact h
  · next number _ =>
      obtain ⟨hedit, hlogo⟩ := completion_eq s.form reply
      refine ⟨hedit.trans h.isNew, ?_⟩
      show (completion s.form reply).logoImageUrl = _
      rw [hlogo, h.logo]
      cases reply.namedBank <;> rfl

theorem Inv.changeCharacters {s : Screen} (h : Inv s) (field : TextField) (range : NSRange)
    (string : String) : Inv { s with form := changeCharacters s.form field range string } := by
  cases field <;> exact ⟨h.isNew, h.logo⟩

theorem Inv.confirm {s : Screen} (h : Inv s) :
    Inv { s with form := (pressedConfirmButton s.form).1 } := by
  obtain ⟨hedit, hlogo⟩ := pressedConfirmButton_new h.isNew
  exact ⟨hedit, hlogo.trans h.logo⟩

theorem Inv.step {s : Screen} (h : Inv s) (e : Event) : Inv (step s e) := by
  cases e with
  | changeCharacters field range string => exact h.changeCharacters field range string
  | changeDescribe text => exact ⟨h.isNew, h.logo⟩
  | selectSegment index => exact ⟨h.isNew, h.logo⟩
  | endEditing field =>
      show Inv (textFieldDidEndEditing s field)
      unfold textFieldDidEndEditing
      split
      · exact ⟨h.isNew, h.logo⟩
      · exact h
  | reply i reply => exact h.receive i reply
  | confirm => exact h.confirm

theorem Inv.logoConsistent_iff_lastNamed {s : Screen} (h : Inv s) (e : Event) :
    LogoConsistent s e ↔ LastNamedForNumber s e := by
  cases e with
  | confirm =>
      constructor
      · intro hconsistent haccount hpassword number bank hlast
        -- the logo is that of the bank named last, and the address tells the banks apart
        have hsaved := pressedConfirmButton_insert_iff.mpr ⟨h.isNew, haccount, hpassword, rfl⟩
        have hlogo : s.form.newCard.logoImageUrl = some (imageUrl bank) := by
          show s.form.logoImageUrl = _
          rw [h.logo, hlast]
          rfl
        rcases hconsistent s.form.newCard hsaved with
          hempty | ⟨account, bank', haccount', hmem, hsame⟩
        · rw [hlogo] at hempty
          exact absurd (Option.some.inj hempty) (imageUrl_ne_empty bank)
        · obtain rfl := Option.some.inj haccount'
          rw [hlogo] at hsame
          rwa [imageUrl_injective (Option.some.inj hsame)]
      · intro hnamed model hmodel
        obtain ⟨-, haccount, hpassword, rfl⟩ := pressedConfirmButton_insert_iff.mp hmodel
        show s.form.logoImageUrl = some "" ∨ _
        rw [h.logo]
        cases hlast : s.named.head? with
        | none => exact .inl rfl
        | some last =>
            have hmem := hnamed haccount hpassword last.1 last.2 hlast
            refine .inr ⟨s.form.accountTF, last.2, rfl, hmem, ?_⟩
            exact h.logo.trans (by rw [hlast]; rfl)
  | _ => exact Iff.rfl

/-- Every card saved has no logo or the one named for its number exactly in the runs in which, at
every confirmation, the last bank named was named for the number in the form. -/
theorem logoConsistent_iff (es : List Event) :
    Guarded step LogoConsistent newCard es ↔ Guarded step LastNamedForNumber newCard es :=
  guarded_congr (fun _ e h _ => Inv.step h e) (fun _ e h => Inv.logoConsistent_iff_lastNamed h e)
    inv_newCard

/-- A number is looked up and its bank named; then the number is replaced, and the lookup of the new
one fails. -/
def replacedNumber : List Event :=
  [.changeCharacters .account ⟨0, 0⟩ "62220200", .endEditing .account,
    .reply 0 (.response { cardType := some "DC", bank := some "ICBC" }),
    .changeCharacters .account ⟨0, 9⟩ "45637", .endEditing .account, .reply 0 .failed,
    .changeCharacters .password ⟨0, 0⟩ "123456"]

/-- The card is saved with the logo of the first number's bank. -/
theorem not_logoConsistent_replacedNumber :
    ¬ Guarded step LogoConsistent newCard (replacedNumber ++ [.confirm]) := by
  intro h
  have hconsistent := guarded_iff_split.mp h replacedNumber .confirm [] rfl
  have hsaved : (pressedConfirmButton (run step newCard replacedNumber).form).2 =
      .insert (run step newCard replacedNumber).form.newCard := by decide +kernel
  rcases hconsistent _ hsaved with hempty | ⟨account, bank, haccount, hmem, -⟩
  · revert hempty
    decide +kernel
  · have hnamed : (run step newCard replacedNumber).named = [("62220200", "ICBC")] := by
      decide +kernel
    have hform : (run step newCard replacedNumber).form.newCard.account = some "4563 7" := by
      decide +kernel
    rw [hform] at haccount
    obtain rfl := Option.some.inj haccount
    rw [hnamed, List.mem_singleton] at hmem
    obtain ⟨hnumber, -⟩ := Prod.mk.inj hmem
    exact absurd hnumber (by decide)

end PasswordPackage.InputCart
