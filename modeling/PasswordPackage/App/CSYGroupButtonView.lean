import Mathlib.Data.List.Find
import Mathlib.Tactic.Linarith
import Mathlib.Tactic.Ring
import PasswordPackage.Lock.GesturesUnlockView

/-!
# The group button

The button in the corner of the main screen opens a column of further buttons above itself. To
receive their touches the view has to grow upwards, which moves its own coordinates, so every press
recomputes all frames from those of the press before. What a user sees is simpler: a menu that is
open or closed, with each button in a place of its own.
-/

namespace PasswordPackage.CSYGroupButtonView

open GesturesUnlockView (CGPoint CGRect)

/-! ## The view -/

/-- A button, with its frame in the coordinates of the view. -/
structure UIButton where
  frame : CGRect
  isHidden : Bool
  isSelected : Bool
deriving DecidableEq

/-- The view, with its frame in the coordinates of the screen. -/
structure GroupButtonView where
  frame : CGRect
  rectFrame : CGRect
  spaceDistance : ℚ
  mainButton : UIButton
  otherButtons : List UIButton
deriving DecidableEq

/-- The bounds of a view or button. -/
def bounds (frame : CGRect) : CGRect :=
  { frame with x := 0, y := 0 }

def imagesArray : List String := ["create_password", "site", "bank"]

/-- `initWithFrame:mainButtonTitle:selectedTitle:otherButtonsTitle:`, with the number of titles.
Each takes the image at its index, and an index beyond the images raises an exception. -/
def initWithFrame (frame : CGRect) (count : ℕ) : Option GroupButtonView :=
  if count ≤ imagesArray.length then
    some
      { frame := frame
        rectFrame := frame
        spaceDistance := 10
        mainButton := { frame := bounds frame, isHidden := false, isSelected := false }
        otherButtons := List.replicate count
          { frame := bounds frame, isHidden := true, isSelected := false } }
  else none

/-- `move`. The buttons are laid out from the last one down. -/
def move (v : GroupButtonView) : GroupButtonView :=
  let count := v.otherButtons.length
  let main := v.mainButton.frame
  { v with
    frame :=
      { v.frame with
        y := v.frame.y - count * (v.frame.height + v.spaceDistance)
        height := (count + 1) * main.height + v.spaceDistance * count }
    mainButton :=
      { v.mainButton with
        frame := { main with y := main.y + count * (main.height + v.spaceDistance) } }
    otherButtons := v.otherButtons.mapIdx fun index button =>
      { button with
        isHidden := false
        frame :=
          { button.frame with
            y := (count - 1 - index : ℕ) * (button.frame.height + v.spaceDistance) } } }

/-- `back`. -/
def back (v : GroupButtonView) : GroupButtonView :=
  let mainBounds := bounds v.mainButton.frame
  { v with
    frame := v.rectFrame
    mainButton := { v.mainButton with frame := mainBounds }
    otherButtons := v.otherButtons.map fun button =>
      { button with
        frame := { mainBounds with y := mainBounds.y - mainBounds.height }
        isHidden := true } }

/-- `setAnimation`. -/
def setAnimation (v : GroupButtonView) : GroupButtonView :=
  let next := if v.mainButton.isSelected then back v else move v
  { next with
    mainButton := { next.mainButton with isSelected := !v.mainButton.isSelected } }

/-- `buttonClick:`, with the tag of the button: 0 for the main one, and one more than its index for
another. -/
def buttonClick (tag : ℕ) (v : GroupButtonView) : GroupButtonView :=
  let next := setAnimation v
  if tag = 0 then next
  else
    { next with
      otherButtons := next.otherButtons.modify (tag - 1) fun button =>
        { button with isSelected := true } }

/-! ## Touches -/

/-- A point of the screen in the coordinates of the view. -/
def convert (v : GroupButtonView) (p : CGPoint) : CGPoint :=
  { x := p.x - v.frame.x, y := p.y - v.frame.y }

/-- A button takes the touches in its frame unless it is hidden. -/
def UIButton.takes (button : UIButton) (p : CGPoint) : Bool :=
  !button.isHidden && button.frame.contains p

/-- The tag of the button that a touch goes to: the first in front, which are the main button and
then the others from the last one on. A touch beside the view goes to none. -/
def hitTest (v : GroupButtonView) (p : CGPoint) : Option ℕ :=
  if v.frame.contains p then
    if v.mainButton.takes (convert v p) then some 0
    else
      ((List.range v.otherButtons.length).reverse.find? fun index =>
        (v.otherButtons[index]?).any fun button => button.takes (convert v p)).map (· + 1)
  else none

/-- The view after a touch. -/
def touch (v : GroupButtonView) (p : CGPoint) : GroupButtonView :=
  match hitTest v p with
  | some tag => buttonClick tag v
  | none => v

/-- A frame of the view in the coordinates of the screen. -/
def onScreen (v : GroupButtonView) (frame : CGRect) : CGRect :=
  { frame with x := frame.x + v.frame.x, y := frame.y + v.frame.y }

/-- The buttons that can be seen, on the screen. -/
def visible (v : GroupButtonView) : List CGRect :=
  ((v.mainButton :: v.otherButtons).filter fun button => !button.isHidden).map fun button =>
    onScreen v button.frame

/-- What `ButtonClickBlock` is called with and what can be seen, touch after touch. -/
def trace (v : GroupButtonView) : List CGPoint → List (Option ℕ × List CGRect)
  | [] => []
  | p :: ps => (hitTest v p, visible (touch v p)) :: trace (touch v p) ps

/-! ## The menu -/

/-- The place of a button on the screen. -/
def place (rect : CGRect) (tag : ℕ) : CGRect :=
  { rect with y := rect.y - tag * (rect.height + 10) }

/-- The tags of the buttons that are there. -/
def tags (count : ℕ) (isOpen : Bool) : List ℕ :=
  if isOpen then List.range (count + 1) else [0]

/-- A menu takes a touch on one of its buttons, which opens or closes it. -/
def menuTrace (rect : CGRect) (count : ℕ) :
    Bool → List CGPoint → List (Option ℕ × List CGRect)
  | _, [] => []
  | isOpen, p :: ps =>
      let hit := (tags count isOpen).find? fun tag => (place rect tag).contains p
      let isOpen' := if hit.isSome then !isOpen else isOpen
      (hit, (tags count isOpen').map (place rect)) :: menuTrace rect count isOpen' ps

/-! ## The places of the buttons -/

theorem contains_iff {r : CGRect} {p : CGPoint} :
    r.contains p = true ↔ r.x ≤ p.x ∧ p.x < r.x + r.width ∧ r.y ≤ p.y ∧ p.y < r.y + r.height :=
  decide_eq_true_iff

/-- Two buttons do not overlap. -/
theorem place_disjoint {rect : CGRect} {p : CGPoint} {i j : ℕ}
    (hi : (place rect i).contains p = true) (hj : (place rect j).contains p = true) : i = j := by
  obtain ⟨-, -, hilow, hihigh⟩ := contains_iff.mp hi
  obtain ⟨-, -, hjlow, hjhigh⟩ := contains_iff.mp hj
  have hapart : ∀ a b : ℕ, a < b →
      rect.y - a * (rect.height + 10) ≤ p.y → p.y < rect.y - b * (rect.height + 10) + rect.height →
      p.y < rect.y - a * (rect.height + 10) + rect.height → False := by
    intro a b hlt hlow hhigh hheight
    have hcast : (a : ℚ) + 1 ≤ b := by exact_mod_cast hlt
    have hpos : 0 < rect.height := by linarith
    nlinarith
  rcases Nat.lt_trichotomy i j with hlt | heq | hgt
  · exact (hapart i j hlt hilow hjhigh hihigh).elim
  · exact heq
  · exact (hapart j i hgt hjlow hihigh hjhigh).elim

/-- The frame of the view in an open menu. -/
def openFrame (rect : CGRect) (count : ℕ) : CGRect :=
  { rect with
    y := rect.y - count * (rect.height + 10)
    height := (count + 1) * rect.height + 10 * count }

/-- The view holds all buttons of an open menu, so it receives their touches. -/
theorem contains_openFrame {rect : CGRect} {p : CGPoint} {count tag : ℕ} (hle : tag ≤ count)
    (h : (place rect tag).contains p = true) : (openFrame rect count).contains p = true := by
  obtain ⟨hleft, hright, hlow, hhigh⟩ := contains_iff.mp h
  have hlow' : rect.y - tag * (rect.height + 10) ≤ p.y := hlow
  have hhigh' : p.y < rect.y - tag * (rect.height + 10) + rect.height := hhigh
  have hcast : (tag : ℚ) ≤ count := by exact_mod_cast hle
  have hpos : 0 < rect.height := by linarith
  have htag : (0 : ℚ) ≤ tag := Nat.cast_nonneg tag
  apply contains_iff.mpr
  refine ⟨hleft, hright, ?_, ?_⟩
  · show rect.y - count * (rect.height + 10) ≤ p.y
    nlinarith
  · show p.y < rect.y - count * (rect.height + 10) + ((count + 1) * rect.height + 10 * count)
    nlinarith

/-! ## What every touch keeps -/

/-- The frames of a closed or open menu. -/
structure Laid (rect : CGRect) (count : ℕ) (isOpen : Bool) (v : GroupButtonView) : Prop where
  frame : v.frame = if isOpen then openFrame rect count else rect
  rectFrame : v.rectFrame = rect
  spaceDistance : v.spaceDistance = 10
  mainButton : v.mainButton =
    { frame := { bounds rect with y := if isOpen then count * (rect.height + 10) else 0 }
      isHidden := false
      isSelected := isOpen }
  length : v.otherButtons.length = count
  isHidden : ∀ button ∈ v.otherButtons, button.isHidden = !isOpen
  size : ∀ button ∈ v.otherButtons, button.frame = { bounds rect with y := button.frame.y }
  y : ∀ index button, v.otherButtons[index]? = some button → isOpen = true →
    button.frame.y = (count - 1 - index : ℕ) * (rect.height + 10)

variable {rect : CGRect} {count : ℕ} {isOpen : Bool} {v : GroupButtonView}

theorem laid_initWithFrame (h : initWithFrame rect count = some v) : Laid rect count false v := by
  unfold initWithFrame at h
  split_ifs at h
  cases h
  refine ⟨rfl, rfl, rfl, rfl, List.length_replicate, ?_, ?_, fun _ _ _ hopen => by cases hopen⟩
  · intro button hbutton
    rw [List.eq_of_mem_replicate hbutton]
    rfl
  · intro button hbutton
    rw [List.eq_of_mem_replicate hbutton]

theorem laid_move (h : Laid rect count false v) :
    Laid rect count true
      { move v with mainButton := { (move v).mainButton with isSelected := true } } := by
  have hframe : v.frame = rect := h.frame
  refine ⟨?_, h.rectFrame, h.spaceDistance, ?_, ?_, ?_, ?_, ?_⟩
  · simp [move, openFrame, bounds, h.mainButton, h.length, h.spaceDistance, hframe]
  · simp [move, bounds, h.mainButton, h.length, h.spaceDistance]
  · exact List.length_mapIdx.trans h.length
  · intro button hbutton
    obtain ⟨index, hindex, rfl⟩ := List.mem_mapIdx.mp hbutton
    rfl
  · intro button hbutton
    obtain ⟨index, hindex, rfl⟩ := List.mem_mapIdx.mp hbutton
    rw [h.size _ (List.getElem_mem hindex)]
  · intro index button hbutton _
    have hmapped : (move v).otherButtons[index]? = some button := hbutton
    simp only [move] at hmapped
    rw [List.getElem?_mapIdx] at hmapped
    obtain ⟨old, hold, rfl⟩ := Option.map_eq_some_iff.mp hmapped
    have hsize := congrArg CGRect.height (h.size old (List.mem_of_getElem? hold))
    simp only [h.length, h.spaceDistance, hsize, bounds]

theorem laid_back (h : Laid rect count true v) :
    Laid rect count false
      { back v with mainButton := { (back v).mainButton with isSelected := false } } := by
  refine ⟨h.rectFrame, h.rectFrame, h.spaceDistance, ?_, ?_, ?_, ?_,
    fun _ _ _ hopen => by cases hopen⟩
  · simp [back, bounds, h.mainButton]
  · exact (List.length_map _).trans h.length
  · intro button hbutton
    obtain ⟨old, -, rfl⟩ := List.mem_map.mp hbutton
    rfl
  · intro button hbutton
    obtain ⟨old, -, rfl⟩ := List.mem_map.mp hbutton
    simp [bounds, h.mainButton]

theorem laid_setAnimation (h : Laid rect count isOpen v) :
    Laid rect count (!isOpen) (setAnimation v) := by
  have hselected : v.mainButton.isSelected = isOpen := by rw [h.mainButton]
  cases isOpen with
  | false =>
      simp only [setAnimation, hselected]
      exact laid_move h
  | true =>
      simp only [setAnimation, hselected]
      exact laid_back h

/-- A button that stays selected keeps its place. -/
theorem laid_buttonClick (h : Laid rect count isOpen v) (tag : ℕ) :
    Laid rect count (!isOpen) (buttonClick tag v) := by
  have hnext := laid_setAnimation h
  unfold buttonClick
  dsimp only
  split_ifs
  · exact hnext
  · -- only the selection of a button changes, and no frame
    have hget : ∀ (index : ℕ) (button : UIButton),
        ((setAnimation v).otherButtons.modify (tag - 1) fun button =>
          { button with isSelected := true })[index]? = some button →
        ∃ old, (setAnimation v).otherButtons[index]? = some old ∧ button.frame = old.frame ∧
          button.isHidden = old.isHidden := by
      intro index button hbutton
      rw [List.getElem?_modify] at hbutton
      obtain ⟨old, hold, rfl⟩ := Option.map_eq_some_iff.mp hbutton
      refine ⟨old, hold, ?_, ?_⟩ <;> split_ifs <;> rfl
    refine ⟨hnext.frame, hnext.rectFrame, hnext.spaceDistance, hnext.mainButton, ?_, ?_, ?_, ?_⟩
    · exact (List.length_modify _ _ _).trans hnext.length
    · intro button hbutton
      obtain ⟨index, hindex⟩ := List.mem_iff_getElem?.mp hbutton
      obtain ⟨old, hold, -, hhidden⟩ := hget index button hindex
      rw [hhidden, hnext.isHidden old (List.mem_of_getElem? hold)]
    · intro button hbutton
      obtain ⟨index, hindex⟩ := List.mem_iff_getElem?.mp hbutton
      obtain ⟨old, hold, hframe, -⟩ := hget index button hindex
      rw [hframe]
      exact hnext.size old (List.mem_of_getElem? hold)
    · intro index button hbutton hopen
      obtain ⟨old, hold, hframe, -⟩ := hget index button hbutton
      rw [hframe]
      exact hnext.y index old hold hopen

/-! ## What a touch finds -/

theorem contains_convert (v : GroupButtonView) (frame : CGRect) (p : CGPoint) :
    frame.contains (convert v p) = (onScreen v frame).contains p := by
  apply Bool.eq_iff_iff.mpr
  rw [contains_iff, contains_iff]
  constructor
  · rintro ⟨hleft, hright, hlow, hhigh⟩
    refine ⟨?_, ?_, ?_, ?_⟩ <;> simp only [convert, onScreen] at * <;> linarith
  · rintro ⟨hleft, hright, hlow, hhigh⟩
    refine ⟨?_, ?_, ?_, ?_⟩ <;> simp only [convert, onScreen] at * <;> linarith

/-- The main button never moves. -/
theorem onScreen_mainButton (h : Laid rect count isOpen v) :
    onScreen v v.mainButton.frame = place rect 0 := by
  rw [onScreen, h.mainButton, h.frame]
  cases isOpen <;> simp [bounds, place, openFrame]

theorem onScreen_otherButtons (h : Laid rect count true v) {index : ℕ} {button : UIButton}
    (hbutton : v.otherButtons[index]? = some button) :
    onScreen v button.frame = place rect (index + 1) := by
  have hlt : index < count := h.length ▸ (List.getElem?_eq_some_iff.mp hbutton).1
  obtain ⟨below, rfl⟩ := Nat.exists_eq_add_of_lt hlt
  have hbelow : index + below + 1 - 1 - index = below := by omega
  have hframe : v.frame = openFrame rect (index + below + 1) := h.frame
  have hy := h.y index button hbutton rfl
  rw [hbelow] at hy
  rw [onScreen, h.size button (List.mem_of_getElem? hbutton), hy, hframe]
  simp only [bounds, openFrame, place, CGRect.mk.injEq, and_true, zero_add, true_and]
  push_cast
  ring

/-- Where only one entry can satisfy a predicate, it does not matter where the search begins. -/
theorem find?_eq_of_unique {l l' : List ℕ} {P : ℕ → Bool}
    (hunique : ∀ a b, P a = true → P b = true → a = b)
    (hmem : ∀ a, P a = true → (a ∈ l ↔ a ∈ l')) : l.find? P = l'.find? P := by
  cases hfind : l.find? P with
  | none =>
      apply Eq.symm
      apply List.find?_eq_none.mpr
      intro a ha hPa
      exact List.find?_eq_none.mp hfind a ((hmem a hPa).mpr ha) hPa
  | some a =>
      have hPa := List.find?_some hfind
      have hmem' := (hmem a hPa).mp (List.mem_of_find?_eq_some hfind)
      cases hfind' : l'.find? P with
      | none => exact absurd hPa (List.find?_eq_none.mp hfind' a hmem')
      | some b => rw [hunique a b hPa (List.find?_some hfind')]

/-- The buttons of an open menu, searched from the last one on. -/
theorem find?_otherButtons (h : Laid rect count true v) (p : CGPoint) :
    (((List.range v.otherButtons.length).reverse.find? fun index =>
      (v.otherButtons[index]?).any fun button => button.takes (convert v p)).map (· + 1)) =
      ((List.range count).reverse.map (· + 1)).find? fun tag => (place rect tag).contains p := by
  rw [List.find?_map, h.length]
  apply congrArg
  apply List.find?_congr
  intro index hindex
  have hlt : index < v.otherButtons.length := by
    rw [h.length]
    exact List.mem_range.mp (List.mem_reverse.mp hindex)
  have hbutton := List.getElem?_eq_getElem hlt
  have hshown := h.isHidden _ (List.getElem_mem hlt)
  rw [hbutton, Option.any_some, UIButton.takes, hshown, contains_convert,
    onScreen_otherButtons h hbutton]
  rfl

/-- A touch finds the button whose place it is in. -/
theorem hitTest_eq (h : Laid rect count isOpen v) (p : CGPoint) :
    hitTest v p = (tags count isOpen).find? fun tag => (place rect tag).contains p := by
  have hmain : v.mainButton.takes (convert v p) = (place rect 0).contains p := by
    rw [UIButton.takes, contains_convert, onScreen_mainButton h, h.mainButton]
    rfl
  rw [hitTest, hmain]
  cases isOpen with
  | false =>
      -- the view is as large as the main button, and the others are hidden
      have hframe : v.frame = place rect 0 := by
        rw [h.frame]
        simp [place]
      have hnone : ((List.range v.otherButtons.length).reverse.find? fun index =>
          (v.otherButtons[index]?).any fun button => button.takes (convert v p)) = none := by
        apply List.find?_eq_none.mpr
        intro index _ htakes
        obtain ⟨button, hbutton, htakes⟩ := (Option.any_eq_true _ _).mp htakes
        have hhidden := h.isHidden button (List.mem_of_getElem? hbutton)
        rw [UIButton.takes, hhidden] at htakes
        cases htakes
      rw [hframe, hnone]
      by_cases hin : (place rect 0).contains p = true
      · simp [tags, hin]
      · simp [tags, hin]
  | true =>
      -- the view holds every button, and the buttons lie apart
      have hframe : v.frame = openFrame rect count := h.frame
      rw [hframe, find?_otherButtons h]
      have hsucc : tags count true = List.range (count + 1) := rfl
      rw [hsucc]
      by_cases hin : (openFrame rect count).contains p = true
      · rw [if_pos hin]
        by_cases hzero : (place rect 0).contains p = true
        · rw [if_pos hzero, List.range_succ_eq_map]
          simp [hzero]
        · rw [if_neg hzero]
          apply find?_eq_of_unique (fun _ _ => place_disjoint)
          intro tag htag
          have hne : tag ≠ 0 := by
            rintro rfl
            exact hzero htag
          rw [List.mem_map, List.mem_range]
          constructor
          · rintro ⟨index, hindex, rfl⟩
            have hlt := List.mem_range.mp (List.mem_reverse.mp hindex)
            omega
          · intro hlt
            exact ⟨tag - 1, List.mem_reverse.mpr (List.mem_range.mpr (by omega)), by omega⟩
      · rw [if_neg hin]
        apply Eq.symm
        apply List.find?_eq_none.mpr
        intro tag htag hplace
        exact hin (contains_openFrame (by rw [List.mem_range] at htag; omega) hplace)

/-- The buttons that can be seen are in their places. -/
theorem visible_eq (h : Laid rect count isOpen v) :
    visible v = (tags count isOpen).map (place rect) := by
  have hshown : v.mainButton.isHidden = false := by rw [h.mainButton]
  rw [visible, List.filter_cons_of_pos (by simp [hshown]), List.map_cons, onScreen_mainButton h]
  cases isOpen with
  | false =>
      -- all the others are hidden
      have hnone : (v.otherButtons.filter fun button => !button.isHidden) = [] := by
        apply List.filter_eq_nil_iff.mpr
        intro button hbutton
        simp [h.isHidden button hbutton]
      rw [hnone]
      rfl
  | true =>
      -- all the others are shown, each in its place
      have hall : (v.otherButtons.filter fun button => !button.isHidden) = v.otherButtons := by
        apply List.filter_eq_self.mpr
        intro button hbutton
        simp [h.isHidden button hbutton]
      have hsucc : tags count true = List.range (count + 1) := rfl
      rw [hall, hsucc, List.range_succ_eq_map, List.map_cons, List.map_map]
      apply congrArg
      apply List.ext_getElem?
      intro index
      rw [List.getElem?_map, List.getElem?_map]
      by_cases hlt : index < count
      · have hbutton := List.getElem?_eq_getElem (h.length ▸ hlt : index < v.otherButtons.length)
        rw [hbutton, Option.map_some, onScreen_otherButtons h hbutton, List.getElem?_range hlt]
        rfl
      · rw [List.getElem?_eq_none (by rw [h.length]; omega),
          List.getElem?_eq_none (by rw [List.length_range]; omega)]
        rfl

theorem laid_touch (h : Laid rect count isOpen v) (p : CGPoint) :
    Laid rect count (if (hitTest v p).isSome then !isOpen else isOpen) (touch v p) := by
  unfold touch
  cases hitTest v p with
  | none => exact h
  | some tag => exact laid_buttonClick h tag

theorem trace_eq (h : Laid rect count isOpen v) (ps : List CGPoint) :
    trace v ps = menuTrace rect count isOpen ps := by
  induction ps generalizing isOpen v with
  | nil => rfl
  | cons p ps ih =>
      have hnext := laid_touch h p
      rw [trace, menuTrace, ih hnext, visible_eq hnext, hitTest_eq h]

/-- However the screen is touched, a group button with at most three further buttons is a menu: each
button is seen and touched in its own place, and a press on any of them opens or closes it. -/
theorem trace_initWithFrame (rect : CGRect) (count : ℕ) (ps : List CGPoint) :
    (initWithFrame rect count).map (fun v => trace v ps) =
      if count ≤ imagesArray.length then some (menuTrace rect count false ps) else none := by
  cases hinit : initWithFrame rect count with
  | none =>
      rw [if_neg fun hle => by simp [initWithFrame, hle] at hinit]
      rfl
  | some v =>
      have hle : count ≤ imagesArray.length := by
        by_contra hgt
        rw [initWithFrame, if_neg hgt] at hinit
        cases hinit
      rw [if_pos hle, Option.map_some, trace_eq (laid_initWithFrame hinit)]

end PasswordPackage.CSYGroupButtonView
