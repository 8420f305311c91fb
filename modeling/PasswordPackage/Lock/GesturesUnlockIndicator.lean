import PasswordPackage.Lock.CreateGesture

/-!
# The indicator of the gesture password

Above the gesture view nine small buttons show the stroke that waits to be repeated. They are only
ever selected one by one, and deselected all at once when the indicator is handed the empty string,
so they show one stroke only if a press of the redraw button comes between two.
-/

namespace PasswordPackage.GesturesUnlockIndicator

open Machine GesturesUnlockView CreateGesture
open GesturesUnlock (Shared)

/-! ## The indicator -/

/-- The `selected` flags of the nine buttons. -/
abbrev Indicator : Type := Button → Bool

/-- `setup`. -/
def setup : Indicator :=
  fun _ => false

/-- `integerValue` of a string of one character. -/
def integerValue (c : Char) : ℕ :=
  if c.isDigit then c.toNat - 48 else 0

/-- `setSelected:` of one of `buttons`; an index beyond them raises an exception. -/
def setSelected (indicator : Indicator) (c : Char) : Option Indicator :=
  if h : integerValue c < 9 then some (Function.update indicator ⟨integerValue c, h⟩ true)
  else none

/-- `setGesturesPassword:`. -/
def setGesturesPassword (indicator : Indicator) (gesturesPassword : String) : Option Indicator :=
  if gesturesPassword.length = 0 then some fun _ => false
  else gesturesPassword.toList.foldlM setSelected indicator

/-! ## The screen -/

/-- What an event hands to the indicator: in `createGesturesPassword:` and in
`resetGesturePassword:`. -/
def handed (frames : Button → CGRect) (s : Screen) : Event → Option String
  | .pan e =>
      match s.controller.unlockType with
      | .createPwd =>
          (stroke frames s (.pan e)).filter fun gesturesPassword =>
            (s.controller.lastGesturePassword.getD "").length = 0 ∧
              ¬ gesturesPassword.length < 4
      | .validatePwd => none
  | .resetGesturePassword => if s.controller.resetHidden then none else some ""

/-- A lock screen and the buttons of its indicator. There are none after an exception. -/
structure Panel where
  screen : Screen
  indicator : Option Indicator

def step (frames : Button → CGRect) (p : Panel) (e : Event) : Panel :=
  { screen := CreateGesture.step frames p.screen e
    indicator := p.indicator.bind fun indicator =>
      match handed frames p.screen e with
      | none => some indicator
      | some gesturesPassword => setGesturesPassword indicator gesturesPassword }

/-- The panel when it is shown to create a password. -/
def createPanel (shared : Shared) : Panel :=
  { screen := createScreen shared, indicator := some setup }

/-- The buttons of a stroke, lit. -/
def lit (gesturesPassword : String) : Indicator :=
  fun button => decide (button.digit ∈ gesturesPassword.toList)

/-! ## What the indicator is handed -/

theorem integerValue_digit (button : Button) : integerValue button.digit = button := by
  revert button
  decide

theorem setSelected_digit (indicator : Indicator) (button : Button) :
    setSelected indicator button.digit = some (Function.update indicator button true) := by
  have hval : integerValue button.digit = button := integerValue_digit button
  have hlt : integerValue button.digit < 9 := by omega
  have hfin : (⟨integerValue button.digit, hlt⟩ : Button) = button := Fin.ext hval
  rw [setSelected, dif_pos hlt, hfin]

/-- Buttons are selected one after the other, and none is out of range. -/
theorem foldlM_setSelected (btns : List Button) (indicator : Indicator) :
    (btns.map Button.digit).foldlM setSelected indicator =
      some fun button => indicator button || decide (button ∈ btns) := by
  induction btns generalizing indicator with
  | nil =>
      rw [List.map_nil, List.foldlM_nil]
      apply congrArg some
      funext button
      simp
  | cons first btns ih =>
      rw [List.map_cons, List.foldlM_cons, setSelected_digit, Option.bind_eq_bind,
        Option.bind_some, ih]
      apply congrArg some
      funext button
      by_cases heq : button = first
      · simp [heq]
      · simp [heq]

theorem lit_empty : lit "" = setup := by
  funext button
  simp [lit, setup]

/-- A stroke is lit when nothing was lit before. -/
theorem setGesturesPassword_gesturePwd {btns : List Button}
    (hlong : 4 ≤ (gesturePwd btns).length) :
    setGesturesPassword setup (gesturePwd btns) = some (lit (gesturePwd btns)) := by
  have hne : ¬ (gesturePwd btns).length = 0 := by omega
  rw [setGesturesPassword, if_neg hne, toList_gesturePwd, foldlM_setSelected]
  apply congrArg some
  funext button
  have hmem : button.digit ∈ btns.map Button.digit ↔ button ∈ btns :=
    List.mem_map_of_injective Button.digit_injective
  simp [lit, setup, toList_gesturePwd, hmem]

/-- In create mode a stroke is handed on if it is the first long one since the last press of the
redraw button. -/
theorem handed_pan {frames : Button → CGRect} {s : Screen} {d : Drawn} (h : Creating s d)
    (e : PanEvent) :
    handed frames s (.pan e) = if d.firstLong = none then
      (stroke frames s (.pan e)).filter (fun g => 4 ≤ g.length) else none := by
  simp only [handed, h.unlockType, h.pending]
  cases hfirst : d.firstLong with
  | none =>
      rw [if_pos rfl]
      apply congrArg (fun p => Option.filter p (stroke frames s (.pan e)))
      funext g
      simp
  | some p =>
      have hlong := Drawn.four_le_of_firstLong hfirst
      have hne : ¬ p.length = 0 := by omega
      rw [if_neg (Option.some_ne_none p)]
      apply Option.filter_eq_none_iff.mpr
      intro g _
      simp [hne]

/-! ## What it shows -/

variable (frames : Button → CGRect)

theorem run_screen (shared : Shared) (history : List Event) :
    (run (step frames) (createPanel shared) history).screen =
      run (CreateGesture.step frames) (createScreen shared) history := by
  induction history using List.reverseRecOn with
  | nil => rfl
  | append_singleton history e ih =>
      rw [run_append, run_append, run_cons, run_nil, run_cons, run_nil, ← ih]
      rfl

/-- The string handed to the indicator is the one that the controller's model keeps for it. -/
theorem indicator_controller_step (s : Screen) (e : Event) :
    (CreateGesture.step frames s e).controller.indicator =
      (handed frames s e).getD s.controller.indicator := by
  cases e with
  | resetGesturePassword =>
      simp only [CreateGesture.step, GesturesUnlock.resetGesturePassword, handed]
      split_ifs <;> rfl
  | pan e =>
      cases hstroke : stroke frames s (.pan e) with
      | none =>
          rw [step_of_no_stroke hstroke, handed, hstroke]
          cases s.controller.unlockType <;> rfl
      | some g =>
          rw [step_of_stroke hstroke, handed, hstroke]
          unfold receive GesturesUnlock.drawRectFinished
          cases htype : s.controller.unlockType with
          | createPwd =>
              simp only [GesturesUnlock.createGesturesPassword, Option.filter_some]
              split_ifs <;> simp_all
          | validatePwd =>
              simp only [GesturesUnlock.validateGesturesPassword]
              split_ifs <;> rfl

/-- The indicator is handed nothing, the empty string when the pending stroke is forgotten, or a
stroke that becomes the pending one. -/
theorem handed_cases (shared : Shared) (before : List Event) (e : Event) :
    let given := handed frames (run (CreateGesture.step frames) (createScreen shared) before) e
    let pending := (drawn frames before).firstLong
    let pending' := (drawn frames (before ++ [e])).firstLong
    given = none ∧ pending' = pending ∨ given = some "" ∧ pending' = none ∨
      ∃ btns, given = some (gesturePwd btns) ∧ 4 ≤ (gesturePwd btns).length ∧ pending = none ∧
        pending' = some (gesturePwd btns) := by
  dsimp only
  have hcreating := creating_run frames shared before
  cases e with
  | resetGesturePassword =>
      have hnone : (drawn frames (before ++ [.resetGesturePassword])).firstLong = none := by
        rw [drawn_concat]
        rfl
      rw [hnone, handed]
      split_ifs with hhidden
      · -- the button is hidden, so no stroke is pending
        exact Or.inl ⟨rfl, (hcreating.resetHidden hhidden).symm⟩
      · exact Or.inr (Or.inl ⟨rfl, rfl⟩)
  | pan e =>
      rw [handed_pan hcreating]
      cases hstroke : stroke frames (run (CreateGesture.step frames) (createScreen shared) before)
          (.pan e) with
      | none =>
          refine Or.inl ⟨by simp, ?_⟩
          rw [stroke, hcreating.view] at hstroke
          simp [drawn_concat, Drawn.next, Drawn.firstLong, hstroke]
      | some g =>
          obtain ⟨⟨btns, -, rfl⟩, -, hfirst⟩ := drawn_of_stroke frames hstroke
          rw [hfirst]
          cases hpending : (drawn frames before).firstLong with
          | some p => exact Or.inl ⟨if_neg (Option.some_ne_none p), rfl⟩
          | none =>
              rw [if_pos rfl, Option.filter_some]
              by_cases hlong : 4 ≤ (gesturePwd btns).length
              · refine Or.inr (Or.inr ⟨btns, if_pos (by simpa using hlong), hlong, rfl, ?_⟩)
                rw [if_pos hlong]
                rfl
              · refine Or.inl ⟨if_neg (by simpa using hlong), ?_⟩
                rw [if_neg hlong]
                rfl

/-- What the controller keeps for the indicator is the pending stroke. -/
theorem indicator_controller_run (shared : Shared) (history : List Event) :
    (run (CreateGesture.step frames) (createScreen shared) history).controller.indicator =
      (drawn frames history).firstLong.getD "" := by
  induction history using List.reverseRecOn with
  | nil => rfl
  | append_singleton history e ih =>
      rw [run_append, run_cons, run_nil, indicator_controller_step, ih]
      rcases handed_cases frames shared history e with
        ⟨hnone, hsame⟩ | ⟨hempty, hforgotten⟩ | ⟨btns, hgiven, -, -, hpending⟩
      · rw [hnone, hsame, Option.getD_none]
      · rw [hempty, hforgotten, Option.getD_some, Option.getD_none]
      · rw [hgiven, hpending, Option.getD_some, Option.getD_some]

/-- One event lights the new pending stroke, or leaves the old one lit. -/
theorem indicator_step (shared : Shared) (before : List Event) (e : Event) :
    (match handed frames (run (CreateGesture.step frames) (createScreen shared) before) e with
      | none => some (lit ((drawn frames before).firstLong.getD ""))
      | some g => setGesturesPassword (lit ((drawn frames before).firstLong.getD "")) g) =
      some (lit ((drawn frames (before ++ [e])).firstLong.getD "")) := by
  rcases handed_cases frames shared before e with
    ⟨hnone, hsame⟩ | ⟨hempty, hforgotten⟩ | ⟨btns, hgiven, hlong, hnothing, hpending⟩
  · rw [hnone, hsame]
  · rw [hempty, hforgotten, Option.getD_none, lit_empty]
    rfl
  · rw [hgiven, hnothing, hpending, Option.getD_none, Option.getD_some, lit_empty]
    exact setGesturesPassword_gesturePwd hlong

/-- Whatever is drawn, and whenever the redraw button is pressed, no button is out of range and the
indicator shows the pending stroke and nothing else: the first of length at least 4 since the last
press of the button. -/
theorem indicator_eq_lit (shared : Shared) (history : List Event) :
    (run (step frames) (createPanel shared) history).indicator =
      some (lit ((drawn frames history).firstLong.getD "")) := by
  induction history using List.reverseRecOn with
  | nil => exact congrArg some lit_empty.symm
  | append_singleton history e ih =>
      rw [run_append, run_cons, run_nil, step, ih, run_screen]
      exact indicator_step frames shared history e

end PasswordPackage.GesturesUnlockIndicator
