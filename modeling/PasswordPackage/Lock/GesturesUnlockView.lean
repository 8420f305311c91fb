import Mathlib.Data.Fintype.Basic
import Mathlib.Data.Rat.Defs
import PasswordPackage.Common.FirstOccurrence
import PasswordPackage.Common.Run

/-!
# The gesture view

`WUGesturesUnlockView` shows nine buttons and listens to a pan recognizer. Every callback selects
the buttons under the finger; the callback in state `ended` sends the selected tags, in order, to
the delegate. Selection is kept twice, in the `selected` flag of each button and in `selectedBtns`,
and both are cleared in the `ended` branch only.
-/

namespace PasswordPackage.GesturesUnlockView

open Machine FirstOccurrence

/-! ## Geometry -/

structure CGPoint where
  x : ℚ
  y : ℚ
deriving DecidableEq

structure CGRect where
  x : ℚ
  y : ℚ
  width : ℚ
  height : ℚ
deriving DecidableEq

/-- `CGRectContainsPoint`: the left and top edges belong to the rectangle, the others do not. -/
def CGRect.contains (r : CGRect) (p : CGPoint) : Bool :=
  decide (r.x ≤ p.x ∧ p.x < r.x + r.width ∧ r.y ≤ p.y ∧ p.y < r.y + r.height)

/-- A button is named by its position in `subviews`. -/
abbrev Button := Fin 9

/-- `btn.tag`, as `setup` assigns it. -/
def Button.tag (i : Button) : ℕ := 1000 + i

/-- The frames `layoutSubviews` gives the buttons in a view of the given width. -/
def layoutSubviews (boundsWidth screenWidth screenHeight : ℚ) (i : Button) : CGRect :=
  let cols : ℕ := 3
  let w : ℚ := if screenWidth = 320 then 50 else 58
  let h := w
  let margin := (boundsWidth - cols * w) / (cols + 1)
  let col : ℚ := (i.val % cols : ℕ)
  let row : ℚ := (i.val / cols : ℕ)
  { x := margin + (w + margin) * col
    y := if screenHeight = 480 then (w + margin) * row else margin + (w + margin) * row
    width := w
    height := h }

/-! ## The recognizer callback -/

/-- The states a pan recognizer reports. -/
inductive PanState where
  | began
  | changed
  | ended
  | cancelled
  | failed
deriving DecidableEq

/-- One callback: the recognizer's state and the finger's location in the view. -/
structure PanEvent where
  state : PanState
  point : CGPoint
deriving DecidableEq

/-- What the view remembers between callbacks. -/
structure View where
  selected : Button → Bool
  selectedBtns : List Button

/-- The view after `setup`: nothing is selected. -/
def setup : View :=
  { selected := fun _ => false, selectedBtns := [] }

/-- The body of the loop over `subviews`, for one button. -/
def touch (frames : Button → CGRect) (point : CGPoint) (v : View) (button : Button) : View :=
  if (frames button).contains point && v.selected button == false then
    { selected := Function.update v.selected button true
      selectedBtns := v.selectedBtns ++ [button] }
  else v

/-- `gesturePwd`: the tags of the buttons, less 1000, one after the other. -/
def gesturePwd (btns : List Button) : String :=
  btns.foldl (fun pwd button => pwd ++ toString (button.tag - 1000)) ""

/-- `pan:`. The second component is the string handed to the delegate, if any. -/
def pan (frames : Button → CGRect) (v : View) (e : PanEvent) : View × Option String :=
  let v := (List.finRange 9).foldl (touch frames e.point) v
  if e.state = .ended then
    ({ selected := fun button => if button ∈ v.selectedBtns then false else v.selected button
       selectedBtns := [] },
      some (gesturePwd v.selectedBtns))
  else (v, none)

/-- The view after one callback. -/
def panStep (frames : Button → CGRect) (v : View) (e : PanEvent) : View :=
  (pan frames v e).1

/-! ## What a gesture is -/

/-- The points reported since the last delivered stroke: those of gestures that were interrupted,
and those of the gesture in progress. -/
structure Reported where
  interrupted : List CGPoint
  current : List CGPoint

/-- A gesture opens with `began`; `ended`, `cancelled` and `failed` close it. -/
def Reported.next (r : Reported) (e : PanEvent) : Reported :=
  match e.state with
  | .began => { interrupted := r.interrupted ++ r.current, current := [e.point] }
  | .changed => { r with current := r.current ++ [e.point] }
  | .ended => { interrupted := [], current := [] }
  | .cancelled | .failed =>
      { interrupted := r.interrupted ++ (r.current ++ [e.point]), current := [] }

/-- What the recognizer has reported by the end of a history. -/
def reported (history : List PanEvent) : Reported :=
  history.foldl Reported.next { interrupted := [], current := [] }

/-- The buttons under one point, in the order of `subviews`. -/
def buttonsAt (frames : Button → CGRect) (p : CGPoint) : List Button :=
  (List.finRange 9).filter fun button => (frames button).contains p

/-- The buttons hit by a list of points, in first-touch order. -/
def buttonsHit (frames : Button → CGRect) (points : List CGPoint) : List Button :=
  (points.flatMap (buttonsAt frames)).eraseDups

/-- Every stroke delivered by the run lists the buttons hit by its own gesture and nothing else. -/
def GestureIsolated (frames : Button → CGRect) (es : List PanEvent) : Prop :=
  ∀ before p after, es = before ++ ⟨.ended, p⟩ :: after →
    (pan frames (run (panStep frames) setup before) ⟨.ended, p⟩).2 =
      some (gesturePwd (buttonsHit frames ((reported before).current ++ [p])))

/-! ## The delivered string determines the buttons -/

theorem gesturePwd_concat (btns : List Button) (button : Button) :
    gesturePwd (btns ++ [button]) = gesturePwd btns ++ toString (button.tag - 1000) := by
  simp [gesturePwd, List.foldl_append]

/-- The decimal digit of a button. -/
def Button.digit (i : Button) : Char :=
  Char.ofNat (48 + i)

theorem toString_tag (i : Button) : (toString (i.tag - 1000)).toList = [i.digit] := by
  revert i
  decide

theorem Button.digit_injective : Function.Injective Button.digit := by
  unfold Function.Injective
  decide

/-- The password has one digit for each selected button. -/
theorem toList_gesturePwd (btns : List Button) :
    (gesturePwd btns).toList = btns.map Button.digit := by
  induction btns using List.reverseRecOn with
  | nil => rfl
  | append_singleton btns button ih =>
      rw [gesturePwd_concat, String.toList_append, ih, toString_tag, List.map_append,
        List.map_singleton]

theorem gesturePwd_injective : Function.Injective gesturePwd := by
  intro btns btns' h
  have hlist := congrArg String.toList h
  rw [toList_gesturePwd, toList_gesturePwd] at hlist
  exact Button.digit_injective.list_map hlist

/-! ## The selection between two delivered strokes -/

/-- The two records of the selection agree, and hold the first touches of `seen`. -/
structure Collected (v : View) (seen : List Button) : Prop where
  selectedBtns_eq : v.selectedBtns = seen.eraseDups
  selected_iff : ∀ button, v.selected button = true ↔ button ∈ v.selectedBtns

theorem collected_setup : Collected setup [] where
  selectedBtns_eq := rfl
  selected_iff := by simp [setup]

/-- One pass of the loop body records the button if the point lies in its frame. -/
theorem Collected.touch {v : View} {seen : List Button} (h : Collected v seen)
    (frames : Button → CGRect) (p : CGPoint) (button : Button) :
    Collected (touch frames p v button)
      (seen ++ if (frames button).contains p then [button] else []) := by
  have hmem : v.selected button = true ↔ button ∈ seen := by
    rw [h.selected_iff, h.selectedBtns_eq, List.mem_eraseDups]
  unfold GesturesUnlockView.touch
  by_cases hin : (frames button).contains p = true
  · by_cases hsel : v.selected button = true
    · -- a button that is selected already is passed over
      have hseen := hmem.mp hsel
      rw [if_neg (by simp [hsel]), if_pos hin]
      exact ⟨by rw [h.selectedBtns_eq, eraseDups_concat, if_pos hseen], h.selected_iff⟩
    · have hseen : button ∉ seen := fun hb => hsel (hmem.mpr hb)
      rw [if_pos (by simp [hin, hsel]), if_pos hin]
      refine ⟨by simp only [h.selectedBtns_eq, eraseDups_concat, if_neg hseen], fun b => ?_⟩
      by_cases hb : b = button
      · simp [hb]
      · simp [hb, h.selected_iff]
  · rw [if_neg (by simp [hin]), if_neg hin, List.append_nil]
    exact h

/-- The loop records the buttons under the point. -/
theorem Collected.loop {v : View} {seen : List Button} (h : Collected v seen)
    (frames : Button → CGRect) (p : CGPoint) (btns : List Button) :
    Collected (btns.foldl (GesturesUnlockView.touch frames p) v)
      (seen ++ btns.filter fun button => (frames button).contains p) := by
  induction btns generalizing v seen with
  | nil => simpa using h
  | cons button btns ih =>
      have hrest := ih (h.touch frames p button)
      rw [List.append_assoc] at hrest
      by_cases hin : (frames button).contains p = true
      · simpa [hin] using hrest
      · simpa [hin] using hrest

/-- All points reported since the last delivered stroke, in order. -/
def Reported.points (r : Reported) : List CGPoint :=
  r.interrupted ++ r.current

theorem Reported.points_next (r : Reported) (e : PanEvent) :
    (r.next e).points = if e.state = .ended then [] else r.points ++ [e.point] := by
  obtain ⟨state, point⟩ := e
  cases state <;> simp [Reported.next, Reported.points]

theorem buttonsHit_append (frames : Button → CGRect) (ps qs : List CGPoint) :
    buttonsHit frames (ps ++ qs) =
      (ps.flatMap (buttonsAt frames) ++ qs.flatMap (buttonsAt frames)).eraseDups := by
  rw [buttonsHit, List.flatMap_append]

/-- One callback keeps the selection equal to the first touches since the last delivered stroke,
whichever gestures these touches belong to. -/
theorem Collected.panStep {v : View} {r : Reported} {frames : Button → CGRect}
    (h : Collected v (r.points.flatMap (buttonsAt frames))) (e : PanEvent) :
    Collected (panStep frames v e) ((r.next e).points.flatMap (buttonsAt frames)) := by
  have hloop := h.loop frames e.point (List.finRange 9)
  rw [Reported.points_next]
  unfold GesturesUnlockView.panStep pan
  by_cases hend : e.state = .ended
  · -- the `ended` branch clears both records
    rw [if_pos hend, if_pos hend]
    refine ⟨rfl, fun button => ?_⟩
    have hiff := hloop.selected_iff button
    simp only [List.not_mem_nil, iff_false]
    split
    · simp
    · next hmem => exact fun hsel => hmem (hiff.mp hsel)
  · rw [if_neg hend, if_neg hend, List.flatMap_append]
    simpa [buttonsAt] using hloop

/-- After any history the view holds the first touches since the last delivered stroke. -/
theorem collected_run (frames : Button → CGRect) (history : List PanEvent) :
    Collected (run (panStep frames) setup history)
      ((reported history).points.flatMap (buttonsAt frames)) := by
  induction history using List.reverseRecOn with
  | nil => exact collected_setup
  | append_singleton history e ih =>
      rw [run_append, reported, List.foldl_append]
      exact ih.panStep e

/-- The delivered stroke lists, in first-touch order, the buttons hit since the last delivered
stroke, those of interrupted gestures included. -/
theorem pan_ended (frames : Button → CGRect) (history : List PanEvent) (p : CGPoint) :
    (pan frames (run (panStep frames) setup history) ⟨.ended, p⟩).2 =
      some (gesturePwd (buttonsHit frames ((reported history).points ++ [p]))) := by
  have hloop := (collected_run frames history).loop frames p (List.finRange 9)
  have heq := hloop.selectedBtns_eq
  rw [buttonsHit_append]
  simp only [pan, if_true, heq, List.flatMap_cons, List.flatMap_nil, List.append_nil]
  rfl

/-- A run delivers isolated strokes exactly when, at every delivered stroke, the buttons hit by the
gestures interrupted since the stroke before are, in first-touch order, the ones this gesture itself
begins with. In particular nothing is lost when no interrupted gesture hit a button. -/
theorem gestureIsolated_iff (frames : Button → CGRect) (es : List PanEvent) :
    GestureIsolated frames es ↔
      ∀ before p after, es = before ++ ⟨.ended, p⟩ :: after →
        buttonsHit frames (reported before).interrupted <+:
          buttonsHit frames ((reported before).current ++ [p]) := by
  have hstroke : ∀ (before : List PanEvent) (p : CGPoint),
      (pan frames (run (panStep frames) setup before) ⟨.ended, p⟩).2 =
          some (gesturePwd (buttonsHit frames ((reported before).current ++ [p]))) ↔
        buttonsHit frames (reported before).interrupted <+:
          buttonsHit frames ((reported before).current ++ [p]) := by
    intro before p
    -- the string determines the buttons, so compare the two lists of first touches
    rw [pan_ended, Option.some_inj, gesturePwd_injective.eq_iff, Reported.points,
      List.append_assoc, buttonsHit_append]
    exact eraseDups_append_eq_right_iff _ _
  simp only [GestureIsolated, hstroke]

/-- A cancelled touch of button 0 followed by a stroke over button 1 alone. -/
def interruptedStroke : List PanEvent :=
  [⟨.began, ⟨70, 70⟩⟩, ⟨.cancelled, ⟨70, 70⟩⟩, ⟨.began, ⟨190, 70⟩⟩, ⟨.ended, ⟨190, 70⟩⟩]

/-- The stroke over button 1 is delivered as `01`. -/
theorem not_gestureIsolated_interruptedStroke :
    ¬ GestureIsolated (layoutSubviews 414 414 896) interruptedStroke := by
  intro h
  have hstroke := h (interruptedStroke.take 3) ⟨190, 70⟩ [] rfl
  revert hstroke
  decide +kernel

end PasswordPackage.GesturesUnlockView
