import Mathlib.Data.Rat.Floor
import Mathlib.Tactic.SplitIfs
import PasswordPackage.Common.Run
import PasswordPackage.Generator.PasswordCreator

/-!
# The generator screen

`CreatePasswordViewController` shows nine switches, a slider and a length label, and keeps three
modes that the creator reads. Seven handlers update switches and modes by hand, and three of them
lose the connection: switching all-number off shows upper-case letters without setting the mode, and
switching letters on from all-number does not bring a letter switch back.
-/

namespace PasswordPackage.CreatePassword

open Machine PasswordCreator

/-! ## The screen -/

/-- The nine switches. -/
inductive Switch where
  | length8
  | length16
  | allNumber
  | allLetter
  | numberAndLetter
  | upLetter
  | lowLetter
  | upAndLetter
  | otherCharacter
deriving DecidableEq

/-- The controls of the screen, and the modes behind them. -/
structure Screen where
  lengthLabel : String
  lengthSlider : ℚ
  length8 : Bool
  length16 : Bool
  allNumber : Bool
  allLetter : Bool
  numberAndLetter : Bool
  upLetter : Bool
  lowLetter : Bool
  upAndLetter : Bool
  otherCharacter : Bool
  currentNumberType : PPNumberType
  currentLetterType : PPLetterType
  isOtherCharacter : Bool
deriving DecidableEq

/-- The storyboard's controls after `viewDidLoad`. -/
def viewDidLoad : Screen :=
  { lengthLabel := "8位"
    lengthSlider := 8
    length8 := true
    length16 := false
    allNumber := false
    allLetter := false
    numberAndLetter := true
    upLetter := false
    lowLetter := false
    upAndLetter := true
    otherCharacter := false
    currentNumberType := .numberAndLetter
    currentLetterType := .upAndLowLetter
    isOtherCharacter := false }

/-- The slider keeps its value between `minimumValue` and `maximumValue`. -/
def clamp (value : ℚ) : ℚ :=
  max 6 (min value 32)

/-- `(NSInteger)slider.value`, which is not negative. -/
def Screen.length (s : Screen) : ℤ :=
  ⌊s.lengthSlider⌋

/-- The label text for a slider value. -/
def lengthText (value : ℚ) : String :=
  s!"{⌊value⌋}位"

/-! ## Handlers -/

/-- The user moves the slider. -/
def Screen.moveSlider (s : Screen) (value : ℚ) : Screen :=
  { s with lengthSlider := clamp value }

/-- `lengthSliderAction:`, with the value that the slider has by then. -/
def lengthSliderAction (s : Screen) : Screen :=
  { s with
    lengthLabel := lengthText s.lengthSlider
    length8 := s.length = 8
    length16 := s.length = 16 }

def length8SwitchAction (s : Screen) : Screen :=
  let value := if s.length8 then 8 else 16
  { s with length16 := !s.length8, lengthSlider := value, lengthLabel := lengthText value }

def length16SwitchAction (s : Screen) : Screen :=
  let value := if s.length16 then 16 else 8
  { s with length8 := !s.length16, lengthSlider := value, lengthLabel := lengthText value }

def allNumberSwitchAction (s : Screen) : Screen :=
  if s.allNumber then
    { s with
      allLetter := false
      numberAndLetter := false
      upLetter := false
      lowLetter := false
      upAndLetter := false
      currentNumberType := .allNumber }
  else
    { s with
      allLetter := true
      numberAndLetter := false
      upLetter := true
      lowLetter := false
      upAndLetter := false
      currentNumberType := .allLetter }

def allLetterSwitchAction (s : Screen) : Screen :=
  if s.allLetter then
    { s with allNumber := false, numberAndLetter := false, currentNumberType := .allLetter }
  else
    { s with allNumber := true, numberAndLetter := false, currentNumberType := .allNumber }

def numberAndLetterSwitchAction (s : Screen) : Screen :=
  if s.numberAndLetter then
    { s with allLetter := false, allNumber := false, currentNumberType := .numberAndLetter }
  else
    { s with allLetter := true, allNumber := false, currentNumberType := .allLetter }

def upLetterSwitchAction (s : Screen) : Screen :=
  if s.upLetter then
    { s with lowLetter := false, upAndLetter := false, currentLetterType := .upLetter }
  else
    { s with lowLetter := true, upAndLetter := false, currentLetterType := .lowLetter }

def lowLetterSwitchAction (s : Screen) : Screen :=
  if s.lowLetter then
    { s with upLetter := false, upAndLetter := false, currentLetterType := .lowLetter }
  else
    { s with upLetter := true, upAndLetter := false, currentLetterType := .upLetter }

def upAndLowLetterSwitchAction (s : Screen) : Screen :=
  if s.upAndLetter then
    { s with lowLetter := false, upLetter := false, currentLetterType := .upAndLowLetter }
  else
    { s with lowLetter := true, upLetter := false, currentLetterType := .lowLetter }

def otherCharacterSwitchAction (s : Screen) : Screen :=
  { s with isOtherCharacter := s.otherCharacter }

/-- The user flips a switch, and its handler runs. Switches the handlers set do not call theirs. -/
def toggle (s : Screen) : Switch → Screen
  | .length8 => length8SwitchAction { s with length8 := !s.length8 }
  | .length16 => length16SwitchAction { s with length16 := !s.length16 }
  | .allNumber => allNumberSwitchAction { s with allNumber := !s.allNumber }
  | .allLetter => allLetterSwitchAction { s with allLetter := !s.allLetter }
  | .numberAndLetter => numberAndLetterSwitchAction { s with numberAndLetter := !s.numberAndLetter }
  | .upLetter => upLetterSwitchAction { s with upLetter := !s.upLetter }
  | .lowLetter => lowLetterSwitchAction { s with lowLetter := !s.lowLetter }
  | .upAndLetter => upAndLowLetterSwitchAction { s with upAndLetter := !s.upAndLetter }
  | .otherCharacter => otherCharacterSwitchAction { s with otherCharacter := !s.otherCharacter }

/-- `pressedCreateButton:`, with the random numbers of the moment. -/
def pressedCreateButton (s : Screen) (arc4random : ℕ → UInt32) : Option String :=
  createPasswordWithLength s.length s.currentNumberType s.currentLetterType s.isOtherCharacter
    arc4random

inductive Event where
  | toggle (switch : Switch)
  | slide (value : ℚ)
deriving DecidableEq

def step (s : Screen) : Event → Screen
  | .toggle switch => toggle s switch
  | .slide value => lengthSliderAction (s.moveSlider value)

/-! ## What the screen shows -/

/-- Exactly one of three switches is on. -/
def ExactlyOne (a b c : Bool) : Prop :=
  (a, b, c) = (true, false, false) ∨ (a, b, c) = (false, true, false) ∨
    (a, b, c) = (false, false, true)

/-- A switch that offers letters is on. -/
def Screen.LettersEnabled (s : Screen) : Prop :=
  s.allLetter = true ∨ s.numberAndLetter = true

/-- The character belongs to a class whose switch is shown on. -/
def Screen.Shows (s : Screen) (c : Char) : Prop :=
  (c.isDigit = true ∧ (s.allNumber = true ∨ s.numberAndLetter = true)) ∨
    (c.isUpper = true ∧ s.LettersEnabled ∧ (s.upLetter = true ∨ s.upAndLetter = true)) ∨
    (c.isLower = true ∧ s.LettersEnabled ∧ (s.lowLetter = true ∨ s.upAndLetter = true)) ∨
    (c.isAlphanum = false ∧ s.otherCharacter = true)

/-- The switches are consistent, and no password that pressing create can produce contains a
character of a class that is not shown. -/
structure Faithful (s : Screen) : Prop where
  number : ExactlyOne s.allNumber s.allLetter s.numberAndLetter
  letter : s.LettersEnabled → ExactlyOne s.upLetter s.lowLetter s.upAndLetter
  password : ∀ arc4random password, pressedCreateButton s arc4random = some password →
    ∀ c ∈ password.toList, s.Shows c

/-- The screen is faithful in every state of the run. -/
def FaithfulRun (es : List Event) : Prop :=
  Always step Faithful viewDidLoad es

/-! ## The invariant and the steps that keep it -/

/-- The number switches show the number mode. -/
def Screen.NumberShown (s : Screen) : Prop :=
  s.allNumber = decide (s.currentNumberType = .allNumber) ∧
    s.allLetter = decide (s.currentNumberType = .allLetter) ∧
    s.numberAndLetter = decide (s.currentNumberType = .numberAndLetter)

/-- The letter switches show the letter mode. -/
def Screen.LetterShown (s : Screen) : Prop :=
  s.upLetter = decide (s.currentLetterType = .upLetter) ∧
    s.lowLetter = decide (s.currentLetterType = .lowLetter) ∧
    s.upAndLetter = decide (s.currentLetterType = .upAndLowLetter)

/-- The letter switches are all off. -/
def Screen.LettersOff (s : Screen) : Prop :=
  s.upLetter = false ∧ s.lowLetter = false ∧ s.upAndLetter = false

/-- Modes and switches agree; the letter switches may be off while only digits are asked for. -/
structure Inv (s : Screen) : Prop where
  number : s.NumberShown
  letter : s.LetterShown ∨ s.LettersOff ∧ s.currentNumberType = .allNumber
  other : s.otherCharacter = s.isOtherCharacter
  slider : 6 ≤ s.lengthSlider

/-- The toggles that keep the screen faithful: all-number is switched off only while the mode behind
the letters is upper-case, and letters are switched on from all-number only while a letter switch is
on. -/
def Keeps (s : Screen) : Event → Prop
  | .toggle .allNumber => s.allNumber = true → s.currentLetterType = .upLetter
  | .toggle .allLetter | .toggle .numberAndLetter => s.allNumber = true → ¬ s.LettersOff
  | _ => True

theorem inv_viewDidLoad : Inv viewDidLoad where
  number := ⟨rfl, rfl, rfl⟩
  letter := Or.inl ⟨rfl, rfl, rfl⟩
  other := rfl
  slider := by decide

theorem six_le_clamp (value : ℚ) : 6 ≤ clamp value :=
  le_max_left _ _

/-- Letters come back into play with their switches on. -/
theorem Inv.letterShown_of_keeps {s : Screen} (h : Inv s)
    (hkeeps : s.allNumber = true → ¬ s.LettersOff) : s.LetterShown := by
  rcases h.letter with hshown | ⟨hoff, hnumber⟩
  · exact hshown
  · exact absurd hoff (hkeeps (by rw [h.number.1, hnumber]; rfl))

/-- Switched off, all-number shows upper-case letters and leaves the letter mode as it was. -/
theorem Inv.allNumber {s : Screen} (h : Inv s)
    (hkeeps : s.allNumber = true → s.currentLetterType = .upLetter) :
    Inv (toggle s .allNumber) := by
  unfold toggle allNumberSwitchAction
  split_ifs with hon
  · exact ⟨⟨hon, rfl, rfl⟩, Or.inr ⟨⟨rfl, rfl, rfl⟩, rfl⟩, h.other, h.slider⟩
  · simp only [Bool.not_eq_true, Bool.not_eq_false'] at hon
    -- the handler sets the switches for upper-case letters; the mode has to be that already
    have htype := hkeeps hon
    refine ⟨⟨by simp [hon], rfl, rfl⟩, Or.inl ?_, h.other, h.slider⟩
    simp only [Screen.LetterShown, htype]
    decide

theorem Inv.allLetter {s : Screen} (h : Inv s)
    (hkeeps : s.allNumber = true → ¬ s.LettersOff) : Inv (toggle s .allLetter) := by
  unfold toggle allLetterSwitchAction
  split_ifs with hon
  · exact ⟨⟨rfl, hon, rfl⟩, Or.inl (h.letterShown_of_keeps hkeeps), h.other, h.slider⟩
  · refine ⟨⟨rfl, by simpa using hon, rfl⟩, ?_, h.other, h.slider⟩
    exact h.letter.imp_right fun hoff => ⟨hoff.1, rfl⟩

theorem Inv.numberAndLetter {s : Screen} (h : Inv s)
    (hkeeps : s.allNumber = true → ¬ s.LettersOff) : Inv (toggle s .numberAndLetter) := by
  have hshown := h.letterShown_of_keeps hkeeps
  unfold toggle numberAndLetterSwitchAction
  split_ifs with hon
  · exact ⟨⟨rfl, rfl, hon⟩, Or.inl hshown, h.other, h.slider⟩
  · exact ⟨⟨rfl, rfl, by simpa using hon⟩, Or.inl hshown, h.other, h.slider⟩

/-- Flipping a letter switch leaves exactly one of them on, and sets the mode to it. -/
theorem Inv.letterSwitch {s s' : Screen} (h : Inv s) (hletter : s'.LetterShown)
    (hnumber : (s'.allNumber, s'.allLetter, s'.numberAndLetter, s'.currentNumberType) =
      (s.allNumber, s.allLetter, s.numberAndLetter, s.currentNumberType))
    (hother : (s'.otherCharacter, s'.isOtherCharacter) = (s.otherCharacter, s.isOtherCharacter))
    (hslider : s'.lengthSlider = s.lengthSlider) : Inv s' := by
  simp only [Prod.mk.injEq] at hnumber hother
  obtain ⟨h1, h2, h3, h4⟩ := hnumber
  refine ⟨?_, Or.inl hletter, ?_, hslider ▸ h.slider⟩
  · unfold Screen.NumberShown
    rw [h1, h2, h3, h4]
    exact h.number
  · rw [hother.1, hother.2]
    exact h.other

theorem Inv.toggle_letter {s : Screen} (h : Inv s) {switch : Switch}
    (hswitch : switch = .upLetter ∨ switch = .lowLetter ∨ switch = .upAndLetter) :
    Inv (toggle s switch) := by
  rcases hswitch with rfl | rfl | rfl
  all_goals
    refine h.letterSwitch ?_ ?_ ?_ ?_
    all_goals
      simp only [toggle, upLetterSwitchAction, lowLetterSwitchAction, upAndLowLetterSwitchAction]
      split_ifs with hon <;> simp_all [Screen.LetterShown]

/-- The length controls do not touch the groups. -/
theorem Inv.length {s : Screen} (h : Inv s) {value : ℚ} (hvalue : 6 ≤ value) (label : String)
    (length8 length16 : Bool) :
    Inv { s with
      lengthSlider := value
      lengthLabel := label
      length8 := length8
      length16 := length16 } :=
  ⟨h.number, h.letter, h.other, hvalue⟩

theorem six_le_ite (b : Bool) : 6 ≤ (if b then 8 else 16 : ℚ) ∧ 6 ≤ (if b then 16 else 8 : ℚ) := by
  cases b <;> decide

/-- The steps that keep the screen faithful keep the invariant. -/
theorem Inv.step {s : Screen} (h : Inv s) {e : Event} (hkeeps : Keeps s e) :
    Inv (CreatePassword.step s e) := by
  cases e with
  | slide value => exact h.length (six_le_clamp value) _ _ _
  | toggle switch =>
      cases switch with
      | length8 => exact h.length (six_le_ite _).1 _ _ _
      | length16 => exact h.length (six_le_ite _).2 _ _ _
      | allNumber => exact h.allNumber hkeeps
      | allLetter => exact h.allLetter hkeeps
      | numberAndLetter => exact h.numberAndLetter hkeeps
      | upLetter => exact h.toggle_letter (Or.inl rfl)
      | lowLetter => exact h.toggle_letter (Or.inr (Or.inl rfl))
      | upAndLetter => exact h.toggle_letter (Or.inr (Or.inr rfl))
      | otherCharacter => exact ⟨h.number, h.letter, rfl, h.slider⟩

/-! ## The invariant makes the screen faithful -/

theorem isDigit_of_mem_numberArray : ∀ c ∈ numberArray, c.isDigit = true :=
  List.all_eq_true.mp (by decide)

theorem isUpper_of_mem_upLetterArray : ∀ c ∈ upLetterArray, c.isUpper = true :=
  List.all_eq_true.mp (by decide)

theorem isLower_of_mem_lowLetterArray : ∀ c ∈ lowLetterArray, c.isLower = true :=
  List.all_eq_true.mp (by decide)

theorem isAlphanum_of_mem_otherCharacter :
    ∀ c ∈ PasswordCreator.otherCharacter, c.isAlphanum = false := by
  have hall : (PasswordCreator.otherCharacter.all fun c => !c.isAlphanum) = true := by decide
  simpa using hall

theorem Inv.lettersEnabled_iff {s : Screen} (h : Inv s) :
    s.LettersEnabled ↔
      s.currentNumberType = .allLetter ∨ s.currentNumberType = .numberAndLetter := by
  obtain ⟨-, h2, h3⟩ := h.number
  unfold Screen.LettersEnabled
  rw [h2, h3, decide_eq_true_iff, decide_eq_true_iff]

theorem Inv.letterShown {s : Screen} (h : Inv s) (hletters : s.LettersEnabled) :
    s.LetterShown := by
  rcases h.letter with hshown | ⟨-, hnumber⟩
  · exact hshown
  · rw [h.lettersEnabled_iff, hnumber] at hletters
    exact absurd hletters (by decide)

/-- A letter of the current mode is of a case whose switch is on. -/
theorem Inv.shows_of_mem_letters {s : Screen} (h : Inv s) (hletters : s.LettersEnabled) {c : Char}
    (hc : c ∈ letters s.currentLetterType) : s.Shows c := by
  obtain ⟨hup, hlow, hboth⟩ := h.letterShown hletters
  have hupper (hmem : c ∈ upLetterArray) (hon : s.upLetter = true ∨ s.upAndLetter = true) :
      s.Shows c := Or.inr (Or.inl ⟨isUpper_of_mem_upLetterArray c hmem, hletters, hon⟩)
  have hlower (hmem : c ∈ lowLetterArray) (hon : s.lowLetter = true ∨ s.upAndLetter = true) :
      s.Shows c := Or.inr (Or.inr (Or.inl ⟨isLower_of_mem_lowLetterArray c hmem, hletters, hon⟩))
  cases htype : s.currentLetterType with
  | upLetter =>
      rw [htype] at hc hup
      exact hupper hc (Or.inl hup)
  | lowLetter =>
      rw [htype] at hc hlow
      exact hlower hc (Or.inl hlow)
  | upAndLowLetter =>
      rw [htype] at hc hboth
      rcases List.mem_append.mp hc with hmem | hmem
      · exact hupper hmem (Or.inr hboth)
      · exact hlower hmem (Or.inr hboth)

theorem Inv.shows_of_mem_tempArray {s : Screen} (h : Inv s) {c : Char}
    (hc : c ∈ tempArray s.currentNumberType s.currentLetterType s.isOtherCharacter) :
    s.Shows c := by
  obtain ⟨hn1, -, hn3⟩ := h.number
  simp only [tempArray, List.mem_append, List.mem_ite_nil_right] at hc
  rcases hc with (⟨hother, hmem⟩ | ⟨htype, hmem⟩) | ⟨htype, hmem⟩
  · exact Or.inr (Or.inr (Or.inr ⟨isAlphanum_of_mem_otherCharacter c hmem, h.other.trans hother⟩))
  · refine Or.inl ⟨isDigit_of_mem_numberArray c hmem, ?_⟩
    rw [hn1, hn3, decide_eq_true_iff, decide_eq_true_iff]
    exact htype
  · exact h.shows_of_mem_letters (h.lettersEnabled_iff.mpr htype) hmem

theorem Inv.faithful {s : Screen} (h : Inv s) : Faithful s where
  number := by
    obtain ⟨h1, h2, h3⟩ := h.number
    rw [h1, h2, h3]
    cases s.currentNumberType <;> simp [ExactlyOne]
  letter := by
    intro hletters
    obtain ⟨h1, h2, h3⟩ := h.letterShown hletters
    rw [h1, h2, h3]
    cases s.currentLetterType <;> simp [ExactlyOne]
  password := fun _ _ hpassword _ hc => h.shows_of_mem_tempArray (mem_tempArray_of_mem hpassword hc)

/-! ## The other steps are visible -/

/-- While lower-case letters are among the candidates, some random number picks one. -/
theorem exists_pick_lower {letterType : PPLetterType} (htype : letterType ≠ .upLetter)
    (isOtherCharacter : Bool) :
    ∃ r, pick (tempArray .allLetter letterType isOtherCharacter) r = some 'a' := by
  cases letterType with
  | upLetter => exact absurd rfl htype
  | lowLetter =>
      cases isOtherCharacter with
      | false => exact ⟨0, by decide⟩
      | true => exact ⟨26, by decide⟩
  | upAndLowLetter =>
      cases isOtherCharacter with
      | false => exact ⟨25, by decide⟩
      | true => exact ⟨51, by decide⟩

theorem Inv.length_pos {s : Screen} (h : Inv s) : 0 < s.length := by
  have hfloor : (6 : ℤ) ≤ s.length := Int.le_floor.mpr (by exact_mod_cast h.slider)
  omega

/-- Upper-case letters are shown, and a lower-case one is generated. -/
theorem Inv.not_faithful_allNumber {s : Screen} (h : Inv s) (hon : s.allNumber = true)
    (htype : s.currentLetterType ≠ .upLetter) : ¬ Faithful (toggle s .allNumber) := by
  intro hfaithful
  obtain ⟨r, hr⟩ := exists_pick_lower htype s.isOtherCharacter
  obtain ⟨password, hpassword, hmem⟩ := exists_mem_password h.length_pos _ _ _ hr
  have hstate : toggle s .allNumber =
      { s with
        allNumber := false
        allLetter := true
        numberAndLetter := false
        upLetter := true
        lowLetter := false
        upAndLetter := false
        currentNumberType := .allLetter } := by
    simp [toggle, allNumberSwitchAction, hon]
  rw [hstate] at hfaithful
  have hshows := hfaithful.password (fun _ => r) password hpassword 'a' hmem
  -- `a` is neither a digit nor an upper-case letter
  simp [Screen.Shows] at hshows

/-- Letters are enabled, and none of their switches is on. -/
theorem not_faithful_of_lettersOff {s : Screen} (hletters : s.LettersEnabled)
    (hoff : s.LettersOff) : ¬ Faithful s := by
  intro hfaithful
  have hone := hfaithful.letter hletters
  obtain ⟨h1, h2, h3⟩ := hoff
  rw [h1, h2, h3] at hone
  exact absurd hone (by simp [ExactlyOne])

/-- While all-number is on, the two switches that offer letters are off. -/
theorem Inv.lettersDisabled {s : Screen} (h : Inv s) (hon : s.allNumber = true) :
    s.allLetter = false ∧ s.numberAndLetter = false := by
  obtain ⟨hn1, hn2, hn3⟩ := h.number
  have htype : s.currentNumberType = .allNumber := by simpa [hn1] using hon
  rw [hn2, hn3, htype]
  exact ⟨rfl, rfl⟩

/-- Switching letters on from all-number does not bring a letter switch back. -/
theorem Inv.not_faithful_letters {s : Screen} (h : Inv s) (hon : s.allNumber = true)
    (hoff : s.LettersOff) {switch : Switch}
    (hswitch : switch = .allLetter ∨ switch = .numberAndLetter) :
    ¬ Faithful (toggle s switch) := by
  obtain ⟨hletter, hboth⟩ := h.lettersDisabled hon
  rcases hswitch with rfl | rfl
  · refine not_faithful_of_lettersOff ?_ ?_
    · simp [toggle, allLetterSwitchAction, hletter, Screen.LettersEnabled]
    · simpa [toggle, allLetterSwitchAction, hletter, Screen.LettersOff] using hoff
  · refine not_faithful_of_lettersOff ?_ ?_
    · simp [toggle, numberAndLetterSwitchAction, hboth, Screen.LettersEnabled]
    · simpa [toggle, numberAndLetterSwitchAction, hboth, Screen.LettersOff] using hoff

theorem Inv.not_faithful {s : Screen} (h : Inv s) {e : Event} (hbreaks : ¬ Keeps s e) :
    ¬ Faithful (CreatePassword.step s e) := by
  cases e with
  | slide value => exact absurd trivial hbreaks
  | toggle switch =>
      cases switch with
      | allNumber =>
          obtain ⟨hon, htype⟩ := Classical.not_imp.mp hbreaks
          exact h.not_faithful_allNumber hon htype
      | allLetter =>
          obtain ⟨hon, hoff⟩ := Classical.not_imp.mp hbreaks
          exact h.not_faithful_letters hon (not_not.mp hoff) (Or.inl rfl)
      | numberAndLetter =>
          obtain ⟨hon, hoff⟩ := Classical.not_imp.mp hbreaks
          exact h.not_faithful_letters hon (not_not.mp hoff) (Or.inr rfl)
      | _ => exact absurd trivial hbreaks

/-- The screen shows what it generates exactly in the runs whose toggles all keep it so. -/
theorem faithfulRun_iff (es : List Event) :
    FaithfulRun es ↔ Guarded step Keeps viewDidLoad es :=
  always_iff_guarded (fun _ _ h hkeeps => h.step hkeeps)
    (fun _ _ h hbreaks => h.not_faithful hbreaks) (fun _ h => h.faithful) inv_viewDidLoad

/-- All-number is switched on and off again. -/
def allNumberOnAndOff : List Event :=
  [.toggle .allNumber, .toggle .allNumber]

/-- The screen shows upper-case letters only, and pressing create can produce `aaaaaaaa`. -/
theorem not_faithfulRun_allNumberOnAndOff : ¬ FaithfulRun allNumberOnAndOff := by
  rintro ⟨-, -, hfaithful⟩
  have hshows := hfaithful.password (fun _ => 25) "aaaaaaaa" (by decide +kernel) 'a' (by decide)
  revert hshows
  simp [Screen.Shows, Screen.LettersEnabled, step, toggle, allNumberSwitchAction, viewDidLoad]

end PasswordPackage.CreatePassword
