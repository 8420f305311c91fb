import PasswordPackage.Generator.CreatePassword

/-!
# The length controls

The slider, the length label and two switches all stand for one number, and each of three handlers
rewrites the others by hand. Unlike the groups of the screen they never disagree, and the number
they show is the length of the password.
-/

namespace PasswordPackage.CreatePassword

open Machine PasswordCreator

/-! ## What the length controls show -/

/-- The label and the switches show the integer part of the slider. -/
structure LengthShown (s : Screen) : Prop where
  slider : 6 ≤ s.lengthSlider ∧ s.lengthSlider ≤ 32
  label : s.lengthLabel = lengthText s.lengthSlider
  switch8 : s.length8 = true ↔ s.length = 8
  switch16 : s.length16 = true ↔ s.length = 16

/-- The screen with other options. -/
def Screen.withOptions (s : Screen) (numberType : PPNumberType) (letterType : PPLetterType)
    (isOtherCharacter : Bool) : Screen :=
  { s with
    currentNumberType := numberType
    currentLetterType := letterType
    isOtherCharacter := isOtherCharacter }

/-- The generator's loop divides by a positive number, and indexes its candidates in range. -/
structure SafeDraws (candidates : List Char) : Prop where
  divisor : 0 < candidates.length - 1
  index : ∀ arc4random : UInt32, arc4random.toNat % (candidates.length - 1) < candidates.length

/-- Pressing create gives a password of the length shown, whatever the options and the random
numbers are. -/
structure LengthFaithful (s : Screen) : Prop extends LengthShown s where
  draws : ∀ numberType letterType isOtherCharacter,
    SafeDraws (tempArray numberType letterType isOtherCharacter)
  password : ∀ numberType letterType isOtherCharacter arc4random, ∃ password,
    pressedCreateButton (s.withOptions numberType letterType isOtherCharacter) arc4random =
        some password ∧
      (password.toList.length : ℤ) = s.length ∧
      ∀ c ∈ password.toList, c ∈ tempArray numberType letterType isOtherCharacter

/-! ## The handlers keep them together -/

theorem clamp_le (value : ℚ) : clamp value ≤ 32 :=
  max_le (by decide) (min_le_right _ _)

theorem lengthShown_viewDidLoad : LengthShown viewDidLoad where
  slider := by decide
  label := by decide +kernel
  switch8 := by decide +kernel
  switch16 := by decide +kernel

/-- The handler shows where the slider is. -/
theorem lengthShown_lengthSliderAction {s : Screen}
    (h : 6 ≤ s.lengthSlider ∧ s.lengthSlider ≤ 32) : LengthShown (lengthSliderAction s) where
  slider := h
  label := rfl
  switch8 := decide_eq_true_iff
  switch16 := decide_eq_true_iff

theorem length_length8SwitchAction (s : Screen) :
    (length8SwitchAction s).length = if s.length8 then 8 else 16 := by
  simp only [length8SwitchAction, Screen.length, apply_ite Int.floor, Int.floor_ofNat]

theorem length_length16SwitchAction (s : Screen) :
    (length16SwitchAction s).length = if s.length16 then 16 else 8 := by
  simp only [length16SwitchAction, Screen.length, apply_ite Int.floor, Int.floor_ofNat]

theorem lengthShown_length8SwitchAction (s : Screen) : LengthShown (length8SwitchAction s) := by
  refine ⟨?_, rfl, ?_, ?_⟩
  · simp only [length8SwitchAction]
    split_ifs <;> decide
  all_goals
    rw [length_length8SwitchAction]
    simp only [length8SwitchAction]
    cases s.length8 <;> decide

theorem lengthShown_length16SwitchAction (s : Screen) : LengthShown (length16SwitchAction s) := by
  refine ⟨?_, rfl, ?_, ?_⟩
  · simp only [length16SwitchAction]
    split_ifs <;> decide
  all_goals
    rw [length_length16SwitchAction]
    simp only [length16SwitchAction]
    cases s.length16 <;> decide

/-- The values of the length controls. -/
def Screen.lengthControls (s : Screen) : ℚ × String × Bool × Bool :=
  (s.lengthSlider, s.lengthLabel, s.length8, s.length16)

theorem LengthShown.congr {s s' : Screen} (h : LengthShown s)
    (heq : s'.lengthControls = s.lengthControls) : LengthShown s' := by
  simp only [Screen.lengthControls, Prod.mk.injEq] at heq
  obtain ⟨hslider, hlabel, h8, h16⟩ := heq
  have hlength : s'.length = s.length := by rw [Screen.length, hslider, Screen.length]
  refine ⟨?_, ?_, ?_, ?_⟩
  · rw [hslider]
    exact h.slider
  · rw [hlabel, hslider]
    exact h.label
  · rw [h8, hlength]
    exact h.switch8
  · rw [h16, hlength]
    exact h.switch16

/-- The handlers of the groups leave the length controls alone. -/
theorem lengthControls_toggle (s : Screen) {switch : Switch} (h8 : switch ≠ .length8)
    (h16 : switch ≠ .length16) : (toggle s switch).lengthControls = s.lengthControls := by
  rcases switch with _ | _ | _ | _ | _ | _ | _ | _ | _
  · exact absurd rfl h8
  · exact absurd rfl h16
  all_goals
    simp only [toggle, allNumberSwitchAction, allLetterSwitchAction, numberAndLetterSwitchAction,
      upLetterSwitchAction, lowLetterSwitchAction, upAndLowLetterSwitchAction,
      otherCharacterSwitchAction]
    try split_ifs
    all_goals rfl

theorem LengthShown.step {s : Screen} (h : LengthShown s) (e : Event) :
    LengthShown (CreatePassword.step s e) := by
  rcases e with switch | value
  · by_cases h8 : switch = .length8
    · rw [h8]
      exact lengthShown_length8SwitchAction _
    · by_cases h16 : switch = .length16
      · rw [h16]
        exact lengthShown_length16SwitchAction _
      · exact h.congr (lengthControls_toggle s h8 h16)
  · exact lengthShown_lengthSliderAction ⟨six_le_clamp value, clamp_le value⟩

/-! ## One number -/

/-- The length that a control asks for on a screen of length `length`. -/
def chosenLength (length : ℤ) : Event → ℤ
  | .slide value => ⌊clamp value⌋
  | .toggle .length8 => if length = 8 then 16 else 8
  | .toggle .length16 => if length = 16 then 8 else 16
  | .toggle _ => length

/-- A flipped switch asks for the other length. -/
theorem ite_not_eq {b : Bool} {p : Prop} [Decidable p] (h : b = true ↔ p) (m n : ℤ) :
    (if !b then m else n) = if p then n else m := by
  by_cases hp : p
  · rw [if_pos hp, h.mpr hp]
    rfl
  · have hb : b = false := Bool.eq_false_iff.mpr fun hb => hp (h.mp hb)
    rw [if_neg hp, hb]
    rfl

theorem LengthShown.length_step {s : Screen} (h : LengthShown s) (e : Event) :
    (CreatePassword.step s e).length = chosenLength s.length e := by
  rcases e with switch | value
  · by_cases h8 : switch = .length8
    · rw [h8]
      exact (length_length8SwitchAction _).trans (ite_not_eq h.switch8 8 16)
    · by_cases h16 : switch = .length16
      · rw [h16]
        exact (length_length16SwitchAction _).trans (ite_not_eq h.switch16 16 8)
      · -- the other switches move nothing, and ask for nothing
        have hslider := congrArg Prod.fst (lengthControls_toggle s h8 h16)
        have hchosen : chosenLength s.length (.toggle switch) = s.length := by
          cases switch <;> first | rfl | contradiction
        rw [hchosen]
        exact congrArg Int.floor hslider
  · rfl

theorem lengthShown_run (es : List Event) : LengthShown (run step viewDidLoad es) :=
  run_invariant (fun _ e h => h.step e) lengthShown_viewDidLoad es

/-- Four controls are one number: what each asks for is what the screen shows and generates next. -/
theorem length_run (es : List Event) : (run step viewDidLoad es).length = run chosenLength 8 es := by
  induction es using List.reverseRecOn with
  | nil => decide +kernel
  | append_singleton es e ih =>
      rw [run_append, run_append, run_cons, run_nil, run_cons, run_nil, ← ih]
      exact (lengthShown_run es).length_step e

/-! ## The password has the length shown -/

theorem safeDraws_tempArray (numberType : PPNumberType) (letterType : PPLetterType)
    (isOtherCharacter : Bool) : SafeDraws (tempArray numberType letterType isOtherCharacter) := by
  have hten := ten_le_length_tempArray numberType letterType isOtherCharacter
  refine ⟨by omega, fun arc4random => ?_⟩
  have hlt := Nat.mod_lt arc4random.toNat
    (show 0 < (tempArray numberType letterType isOtherCharacter).length - 1 by omega)
  omega

theorem length_eq_of_createPasswordWithLength {length : ℤ} (hlength : 0 ≤ length)
    {numberType : PPNumberType} {letterType : PPLetterType} {isOtherCharacter : Bool}
    {arc4random : ℕ → UInt32} {password : String}
    (h : createPasswordWithLength length numberType letterType isOtherCharacter arc4random =
      some password) : (password.toList.length : ℤ) = length := by
  obtain ⟨password', hsome, hmap⟩ := createPasswordWithLength_eq_some length numberType letterType
    isOtherCharacter arc4random
  obtain rfl := Option.some.inj (h.symm.trans hsome)
  have hcount := congrArg List.length hmap
  simp only [List.length_map, List.length_range] at hcount
  omega

theorem LengthShown.length_nonneg {s : Screen} (h : LengthShown s) : 0 ≤ s.length := by
  have hfloor : (6 : ℤ) ≤ s.length := Int.le_floor.mpr (by exact_mod_cast h.slider.1)
  omega

theorem LengthShown.faithful {s : Screen} (h : LengthShown s) : LengthFaithful s where
  toLengthShown := h
  draws := safeDraws_tempArray
  password := by
    intro numberType letterType isOtherCharacter arc4random
    obtain ⟨password, hsome, -⟩ := createPasswordWithLength_eq_some s.length numberType letterType
      isOtherCharacter arc4random
    exact ⟨password, hsome, length_eq_of_createPasswordWithLength h.length_nonneg hsome,
      fun c hc => mem_tempArray_of_mem hsome hc⟩

/-- In every state of every run the length controls agree, and the password has their length. -/
theorem always_lengthFaithful (es : List Event) : Always step LengthFaithful viewDidLoad es := by
  rw [always_iff_run]
  intro pre _
  exact (lengthShown_run pre).faithful

end PasswordPackage.CreatePassword
