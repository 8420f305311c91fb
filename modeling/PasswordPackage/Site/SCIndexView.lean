import PasswordPackage.Common.Run
import PasswordPackage.Site.IndexLayout

/-!
# The index of the site directory

While no finger is on the index, each layout of the table lights the letter at the position of the
section at the top. A finger lights the letter under it, scrolls the table there, and shows the
letter in a larger view beside the index. There is one section more than there are letters.
-/

namespace PasswordPackage.SCIndexView

open Machine
open SearchItem (Name)

/-! ## The index view -/

/-- `SCIndexViewSearchSection`. -/
def searchSection : ℤ := -1

/-- `SCIndexViewInvalidSection`, as a signed integer. -/
def invalidSection : ℤ := -2

/-- The larger view of a letter. `fading` counts the animations that hide it and have not ended. -/
structure Indicator where
  text : Option Name
  hidden : Bool
  fading : ℕ
deriving DecidableEq

/-- The selected letters are those in the colours of the selection. -/
structure IndexView where
  currentSection : ℤ
  selected : ℕ → Bool
  touchingIndexView : Bool
  indicator : Indicator
  contentOffset : ℚ

inductive Event where
  | layoutSubviews (contentOffset : ℚ)
  | beginTracking (y : ℚ)
  | continueTracking (y : ℚ)
  | endTracking
  | animationEnds

variable (screen : Screen)

/-- `refreshTextLayer:`. -/
def refreshTextLayer (selected : Bool) (s : IndexView) : IndexView :=
  if s.currentSection < 0 ∨ (screen.dataSource.length : ℤ) ≤ s.currentSection then s
  else { s with selected := Function.update s.selected s.currentSection.toNat selected }

/-- `setCurrentSection:`. -/
def setCurrentSection (currentSection : ℤ) (s : IndexView) : IndexView :=
  if currentSection = s.currentSection then s
  else if (currentSection < 0 ∧ currentSection ≠ searchSection) ∨
      (screen.dataSource.length : ℤ) ≤ currentSection then refreshTextLayer screen false s
  else
    refreshTextLayer screen true
      { refreshTextLayer screen false s with currentSection := currentSection }

/-- `configCurrentSection`. The delegate leaves the section to the index, which starts with the first
section of the table and has no layer for the search. -/
def configCurrentSection (s : IndexView) : IndexView :=
  match screen.sectionFromVisible s.contentOffset with
  | some sec => setCurrentSection screen sec s
  | none => setCurrentSection screen invalidSection s

/-- `onActionWithScroll`. -/
def onActionWithScroll (s : IndexView) : IndexView :=
  if s.touchingIndexView then s else configCurrentSection screen s

/-- `onActionWithDidSelect`. -/
def onActionWithDidSelect (s : IndexView) : IndexView :=
  { s with
    contentOffset :=
      if (s.currentSection < 0 ∧ s.currentSection ≠ searchSection) ∨
          (screen.dataSource.length : ℤ) ≤ s.currentSection then s.contentOffset
      else if s.currentSection = searchSection then -screen.insetTop
      else if 0 ≤ s.currentSection ∧ s.currentSection < screen.rows.length ∧
          0 < screen.rowsIn s.currentSection.toNat then screen.scrollToRow s.currentSection.toNat
      else s.contentOffset }

/-- `hideIndicator:`. -/
def Indicator.hide (animated : Bool) (indicator : Indicator) : Indicator :=
  if indicator.hidden then indicator
  else if animated then { indicator with fading := indicator.fading + 1 }
  else { indicator with hidden := true }

/-- `showIndicator:`. -/
def showIndicator (animated : Bool) (s : IndexView) : IndexView :=
  { s with
    indicator :=
      if (screen.dataSource.length : ℤ) ≤ s.currentSection then s.indicator
      else if s.currentSection < 0 then
        if s.currentSection = searchSection then s.indicator.hide animated else s.indicator
      else
        { s.indicator with text := screen.dataSource[s.currentSection.toNat]?, hidden := false } }

/-- What a touch of a letter does. -/
def select (animated : Bool) (currentSection : ℕ) (s : IndexView) : IndexView :=
  onActionWithDidSelect screen
    (showIndicator screen animated (setCurrentSection screen currentSection s))

/-- `beginTrackingWithTouch:withEvent:`. -/
def beginTracking (y : ℚ) (s : IndexView) : IndexView :=
  let s := { s with touchingIndexView := true }
  let currentPosition := SCPositionOfTextLayerInY y (indexViewMargin screen) indexViewSpace
  if screen.dataSource.length ≤ currentPosition then s
  else select screen true currentPosition s

/-- `continueTrackingWithTouch:withEvent:`. -/
def continueTracking (y : ℚ) (s : IndexView) : IndexView :=
  let s := { s with touchingIndexView := true }
  let currentPosition := SCPositionOfTextLayerInY y (indexViewMargin screen) indexViewSpace
  let currentPosition :=
    if screen.dataSource.length ≤ currentPosition then screen.dataSource.length - 1
    else currentPosition
  if (currentPosition : ℤ) = s.currentSection then s
  else select screen false currentPosition s

/-- `endTrackingWithTouch:withEvent:` and `cancelTrackingWithEvent:`. -/
def endTracking (s : IndexView) : IndexView :=
  let s := { s with touchingIndexView := false }
  let oldCurrentPosition := s.currentSection
  let s := onActionWithScroll screen s
  let s := if oldCurrentPosition ≠ s.currentSection then showIndicator screen false s else s
  { s with indicator := s.indicator.hide true }

/-- The completion of an animation that hides the indicator. -/
def Indicator.animationEnds (indicator : Indicator) : Indicator :=
  if indicator.fading = 0 then indicator
  else { indicator with hidden := true, fading := indicator.fading - 1 }

/-- One finger at a time is tracked. -/
def step (s : IndexView) : Event → IndexView
  | .layoutSubviews contentOffset => onActionWithScroll screen { s with contentOffset }
  | .beginTracking y => if s.touchingIndexView then s else beginTracking screen y s
  | .continueTracking y => if s.touchingIndexView then continueTracking screen y s else s
  | .endTracking => if s.touchingIndexView then endTracking screen s else s
  | .animationEnds => { s with indicator := s.indicator.animationEnds }

/-- `setDataSource:` in `viewDidLoad`. -/
def start : IndexView :=
  configCurrentSection screen
    (setCurrentSection screen 0
      { currentSection := -1
        selected := fun _ => false
        touchingIndexView := false
        indicator := { text := none, hidden := true, fading := 0 }
        contentOffset := 0 })

/-! ## What a change of the section does -/

variable {screen} {s : IndexView} {i : ℕ}

/-- The current section has a letter, and no other letter is selected. -/
structure WellFormed (screen : Screen) (s : IndexView) : Prop where
  current : ∃ i < screen.dataSource.length, s.currentSection = i
  selected : ∀ i, s.selected i = true → s.currentSection = i

theorem WellFormed.refreshTextLayer_eq (h : WellFormed screen s) (selected : Bool) :
    refreshTextLayer screen selected s =
      { s with selected := Function.update s.selected s.currentSection.toNat selected } := by
  obtain ⟨c, hc, hcurrent⟩ := h.current
  rw [refreshTextLayer, if_neg (by omega)]

/-- Without its current letter, no letter is selected. -/
theorem WellFormed.refreshTextLayer_false (h : WellFormed screen s) :
    refreshTextLayer screen false s = { s with selected := fun _ => false } := by
  have hnone : Function.update s.selected s.currentSection.toNat false = fun _ => false := by
    funext j
    by_cases hj : j = s.currentSection.toNat
    · rw [hj, Function.update_self]
    · rw [Function.update_of_ne hj]
      by_contra hselected
      have hcurrent := h.selected j (Bool.eq_true_of_not_eq_false hselected)
      omega
  rw [h.refreshTextLayer_eq, hnone]

theorem WellFormed.setCurrentSection_eq (h : WellFormed screen s)
    (hi : i < screen.dataSource.length) (hne : s.currentSection ≠ i) :
    setCurrentSection screen i s =
      { s with currentSection := i, selected := fun j => decide (j = i) } := by
  have hvalid : ¬ (((i : ℤ) < 0 ∧ (i : ℤ) ≠ searchSection) ∨
      (screen.dataSource.length : ℤ) ≤ i) := by omega
  have hone : Function.update (fun _ => false) i true = fun j => decide (j = i) := by
    funext j
    by_cases hj : j = i
    · rw [hj, Function.update_self, decide_eq_true rfl]
    · rw [Function.update_of_ne hj, decide_eq_false hj]
  rw [setCurrentSection, if_neg hne.symm, if_neg hvalid, h.refreshTextLayer_false,
    refreshTextLayer, if_neg (by dsimp only; omega)]
  dsimp only
  rw [Int.toNat_natCast, hone]

theorem WellFormed.setCurrentSection_refused (h : WellFormed screen s) {sec : ℤ}
    (hsec : sec = invalidSection ∨ (screen.dataSource.length : ℤ) ≤ sec) :
    setCurrentSection screen sec s = { s with selected := fun _ => false } := by
  obtain ⟨c, hc, hcurrent⟩ := h.current
  have hne : ¬ sec = s.currentSection := by
    unfold invalidSection at hsec
    omega
  have hrefused : (sec < 0 ∧ sec ≠ searchSection) ∨ (screen.dataSource.length : ℤ) ≤ sec := by
    unfold invalidSection at hsec
    unfold searchSection
    omega
  rw [setCurrentSection, if_neg hne, if_pos hrefused, h.refreshTextLayer_false]

/-- A refresh finds the section it had, moves on to the letter of another one, or is refused because
the section at the top has no letter. -/
theorem WellFormed.configCurrentSection_cases (h : WellFormed screen s) :
    (∃ i < screen.dataSource.length, screen.topSection s.contentOffset = some i ∧
      s.currentSection = i ∧ configCurrentSection screen s = s) ∨
    (∃ i < screen.dataSource.length, screen.topSection s.contentOffset = some i ∧
      s.currentSection ≠ i ∧ configCurrentSection screen s =
        { s with currentSection := i, selected := fun j => decide (j = i) }) ∨
    ((∀ i < screen.dataSource.length, screen.topSection s.contentOffset ≠ some i) ∧
      configCurrentSection screen s = { s with selected := fun _ => false }) := by
  unfold configCurrentSection
  rw [Screen.sectionFromVisible_eq]
  cases htop : screen.topSection s.contentOffset with
  | none =>
      refine Or.inr (Or.inr ⟨fun i _ => by simp, ?_⟩)
      exact h.setCurrentSection_refused (Or.inl rfl)
  | some sec =>
      by_cases hlast : screen.dataSource.length ≤ sec
      · refine Or.inr (Or.inr ⟨fun i hi heq => ?_, ?_⟩)
        · have hsec : sec = i := Option.some.inj heq
          omega
        · exact h.setCurrentSection_refused (Or.inr (by exact_mod_cast hlast))
      · by_cases hsame : s.currentSection = sec
        · refine Or.inl ⟨sec, not_le.mp hlast, rfl, hsame, ?_⟩
          exact if_pos hsame.symm
        · exact Or.inr (Or.inl ⟨sec, not_le.mp hlast, rfl, hsame,
            h.setCurrentSection_eq (not_le.mp hlast) hsame⟩)

theorem WellFormed.configCurrentSection (h : WellFormed screen s) :
    WellFormed screen (configCurrentSection screen s) := by
  rcases h.configCurrentSection_cases with ⟨i, hi, -, -, heq⟩ | ⟨i, hi, -, -, heq⟩ | ⟨-, heq⟩
  · rwa [heq]
  · rw [heq]
    exact ⟨⟨i, hi, rfl⟩, fun j hj => by rw [of_decide_eq_true hj]⟩
  · rw [heq]
    exact ⟨h.current, fun j hj => absurd hj Bool.false_ne_true⟩

/-- A touch selects its letter, unless it was current before, and shows it. -/
theorem WellFormed.select_eq (h : WellFormed screen s) (hi : i < screen.dataSource.length)
    (animated : Bool) :
    select screen animated i s =
      { s with
        currentSection := i
        selected := if s.currentSection = i then s.selected else fun j => decide (j = i)
        indicator := { s.indicator with text := screen.dataSource[i]?, hidden := false }
        contentOffset := screen.scrollToRow i } := by
  -- the letter that was current keeps its colours
  have hset : setCurrentSection screen i s =
      { s with
        currentSection := i
        selected := if s.currentSection = i then s.selected else fun j => decide (j = i) } := by
    by_cases hsame : s.currentSection = i
    · rw [setCurrentSection, if_pos hsame.symm, if_pos hsame, ← hsame]
    · rw [if_neg hsame, h.setCurrentSection_eq hi hsame]
  -- every letter has a section with rows to scroll to
  have hrows : i < screen.rows.length := by
    rw [screen.length_rows]
    omega
  have hletter : ¬ (screen.dataSource.length : ℤ) ≤ i := by omega
  have hnonneg : ¬ (i : ℤ) < 0 := by omega
  have hsearch : ¬ (i : ℤ) = searchSection := by
    unfold searchSection
    omega
  have hvalid : ¬ (((i : ℤ) < 0 ∧ (i : ℤ) ≠ searchSection) ∨
      (screen.dataSource.length : ℤ) ≤ i) := by omega
  have hscroll : 0 ≤ (i : ℤ) ∧ (i : ℤ) < screen.rows.length ∧ 0 < screen.rowsIn i :=
    ⟨by omega, by omega, Screen.rowsIn_pos hrows⟩
  rw [select, hset, showIndicator, onActionWithDidSelect]
  dsimp only
  rw [Int.toNat_natCast, if_neg hletter, if_neg hnonneg, if_neg hvalid, if_neg hsearch,
    if_pos hscroll]

theorem WellFormed.configCurrentSection_keeps (h : WellFormed screen s) :
    (SCIndexView.configCurrentSection screen s).touchingIndexView = s.touchingIndexView ∧
      (SCIndexView.configCurrentSection screen s).indicator = s.indicator ∧
      (SCIndexView.configCurrentSection screen s).contentOffset = s.contentOffset := by
  rcases h.configCurrentSection_cases with ⟨i, -, -, -, heq⟩ | ⟨i, -, -, -, heq⟩ | ⟨-, heq⟩ <;>
  · rw [heq]
    exact ⟨rfl, rfl, rfl⟩

/-! ## What a touch does -/

/-- A finger at this height is on a letter. -/
def OnLetter (screen : Screen) (y : ℚ) : Prop :=
  ⌊(y - indexViewMargin screen) / indexViewSpace⌋₊ < screen.dataSource.length

/-- The letter at this height, or the last one above it. -/
def letterAt (screen : Screen) (y : ℚ) : ℕ :=
  min ⌊(y - indexViewMargin screen) / indexViewSpace⌋₊ (screen.dataSource.length - 1)

theorem letterAt_lt (screen : Screen) (y : ℚ) : letterAt screen y < screen.dataSource.length := by
  have hpos := List.length_pos_iff.mpr screen.dataSource_ne_nil
  unfold letterAt
  omega

/-- A finger has come to a letter. -/
def touched (screen : Screen) (i : ℕ) (s : IndexView) : IndexView where
  currentSection := i
  selected := if s.currentSection = i then s.selected else fun j => decide (j = i)
  touchingIndexView := true
  indicator := { s.indicator with text := screen.dataSource[i]?, hidden := false }
  contentOffset := screen.scrollToRow i

theorem WellFormed.touched (h : WellFormed screen s) (hi : i < screen.dataSource.length) :
    WellFormed screen (touched screen i s) := by
  refine ⟨⟨i, hi, rfl⟩, fun j hj => ?_⟩
  unfold SCIndexView.touched at hj ⊢
  dsimp only at hj ⊢
  split_ifs at hj with hsame
  · rw [← hsame, h.selected j hj]
  · rw [of_decide_eq_true hj]

theorem position_eq (screen : Screen) (y : ℚ) :
    SCPositionOfTextLayerInY y (indexViewMargin screen) indexViewSpace =
      ⌊(y - indexViewMargin screen) / indexViewSpace⌋₊ :=
  SCPositionOfTextLayerInY_eq y _ (by unfold indexViewSpace; norm_num)

theorem WellFormed.beginTracking_eq (h : WellFormed screen s) {y : ℚ} (hy : OnLetter screen y) :
    beginTracking screen y s = SCIndexView.touched screen (letterAt screen y) s := by
  have hletter : letterAt screen y = ⌊(y - indexViewMargin screen) / indexViewSpace⌋₊ := by
    unfold OnLetter at hy
    unfold letterAt
    omega
  have htouching : WellFormed screen { s with touchingIndexView := true } :=
    ⟨h.current, h.selected⟩
  unfold beginTracking
  rw [position_eq, ← hletter]
  dsimp only
  rw [if_neg (not_le.mpr (letterAt_lt screen y)), htouching.select_eq (letterAt_lt screen y)]
  rfl

theorem beginTracking_of_not_onLetter {y : ℚ} (hy : ¬ OnLetter screen y) :
    beginTracking screen y s = { s with touchingIndexView := true } := by
  unfold beginTracking
  rw [position_eq]
  exact if_pos (not_lt.mp hy)

theorem WellFormed.continueTracking_eq (h : WellFormed screen s) (y : ℚ) :
    continueTracking screen y s =
      if s.currentSection = letterAt screen y then { s with touchingIndexView := true }
      else SCIndexView.touched screen (letterAt screen y) s := by
  have hpos := List.length_pos_iff.mpr screen.dataSource_ne_nil
  have hletter : (if screen.dataSource.length ≤ ⌊(y - indexViewMargin screen) / indexViewSpace⌋₊
      then screen.dataSource.length - 1 else ⌊(y - indexViewMargin screen) / indexViewSpace⌋₊) =
      letterAt screen y := by
    unfold letterAt
    split_ifs <;> omega
  have htouching : WellFormed screen { s with touchingIndexView := true } :=
    ⟨h.current, h.selected⟩
  have hselect : select screen false (letterAt screen y) { s with touchingIndexView := true } =
      SCIndexView.touched screen (letterAt screen y) s :=
    htouching.select_eq (letterAt_lt screen y) false
  unfold continueTracking
  rw [position_eq]
  dsimp only
  rw [hletter, hselect]
  exact if_congr eq_comm rfl rfl

/-- Lifting the finger refreshes the section, and changes the indicator. -/
theorem endTracking_eq (screen : Screen) (s : IndexView) :
    ∃ indicator, endTracking screen s =
      { configCurrentSection screen { s with touchingIndexView := false } with indicator } := by
  unfold endTracking onActionWithScroll
  dsimp only
  rw [if_neg Bool.false_ne_true]
  split_ifs
  · exact ⟨_, rfl⟩
  · exact ⟨_, rfl⟩

theorem WellFormed.step (h : WellFormed screen s) (e : Event) :
    WellFormed screen (step screen s e) := by
  cases e with
  | layoutSubviews contentOffset =>
      have hscrolled : WellFormed screen { s with contentOffset } := ⟨h.current, h.selected⟩
      unfold SCIndexView.step onActionWithScroll
      dsimp only
      split_ifs
      · exact hscrolled
      · exact hscrolled.configCurrentSection
  | beginTracking y =>
      unfold SCIndexView.step
      dsimp only
      split_ifs
      · exact h
      · -- a finger beside the letters changes no section
        by_cases hy : OnLetter screen y
        · rw [h.beginTracking_eq hy]
          exact h.touched (letterAt_lt screen y)
        · rw [beginTracking_of_not_onLetter hy]
          exact ⟨h.current, h.selected⟩
  | continueTracking y =>
      unfold SCIndexView.step
      dsimp only
      split_ifs
      · rw [h.continueTracking_eq]
        split_ifs
        · exact ⟨h.current, h.selected⟩
        · exact h.touched (letterAt_lt screen y)
      · exact h
  | endTracking =>
      unfold SCIndexView.step
      dsimp only
      split_ifs
      · obtain ⟨indicator, heq⟩ := endTracking_eq screen s
        have hended : WellFormed screen { s with touchingIndexView := false } :=
          ⟨h.current, h.selected⟩
        rw [heq]
        exact ⟨hended.configCurrentSection.current, hended.configCurrentSection.selected⟩
      · exact h
  | animationEnds => exact ⟨h.current, h.selected⟩

/-! ## The lit letter -/

/-- The letter at the position of the section at the top is lit, and no other. -/
def Lights (screen : Screen) (s : IndexView) : Prop :=
  ∀ i < screen.dataSource.length,
    s.selected i = true ↔ screen.topSection s.contentOffset = some i

/-- Without a finger on it, the index shows where the table is. -/
def Faithful (screen : Screen) (s : IndexView) : Prop :=
  s.touchingIndexView = false → Lights screen s

/-- No letter is lit, although the section at the top has the current one. -/
def Stuck (screen : Screen) (s : IndexView) : Prop :=
  (∀ i, s.selected i = false) ∧
    ∃ i, screen.topSection s.contentOffset = some i ∧ s.currentSection = i

/-- A refresh does not come to the current section while no letter is lit. -/
def NotStuck (screen : Screen) (s : IndexView) : Event → Prop
  | .layoutSubviews contentOffset =>
      s.touchingIndexView = false → ¬ Stuck screen { s with contentOffset }
  | .endTracking => s.touchingIndexView = true → ¬ Stuck screen s
  | .beginTracking _ | .continueTracking _ | .animationEnds => True

theorem WellFormed.lights_configCurrentSection_iff (h : WellFormed screen s) :
    Lights screen (SCIndexView.configCurrentSection screen s) ↔ ¬ Stuck screen s := by
  rcases h.configCurrentSection_cases with
    ⟨i, hi, htop, hcurrent, heq⟩ | ⟨i, hi, htop, hcurrent, heq⟩ | ⟨htop, heq⟩
  · -- the section stays, and so do the colours
    rw [heq]
    constructor
    · rintro hlights ⟨hdark, -⟩
      have hlit := (hlights i hi).mpr htop
      rw [hdark i] at hlit
      exact Bool.false_ne_true hlit
    · intro hstuck j hj
      have hsome : ∃ k, s.selected k = true := by
        by_contra hnone
        refine hstuck ⟨fun k => ?_, i, htop, hcurrent⟩
        exact Bool.eq_false_iff.mpr fun hk => hnone ⟨k, hk⟩
      obtain ⟨k, hk⟩ := hsome
      have hki := h.selected k hk
      obtain rfl : k = i := by omega
      rw [htop, Option.some.injEq]
      constructor
      · intro hselected
        have hjk := h.selected j hselected
        omega
      · rintro rfl
        exact hk
  · rw [heq]
    refine iff_of_true (fun j hj => ?_) ?_
    · rw [htop, Option.some.injEq, decide_eq_true_eq, eq_comm]
    · rintro ⟨-, j, hj, hsame⟩
      rw [htop, Option.some.injEq] at hj
      exact hcurrent (hj ▸ hsame)
  · rw [heq]
    refine iff_of_true (fun j hj => ?_) ?_
    · exact iff_of_false Bool.false_ne_true (htop j hj)
    · rintro ⟨-, j, hj, hsame⟩
      obtain ⟨c, hc, hcurrent⟩ := h.current
      exact htop j (by omega) hj

/-- One event from a faithful index. -/
theorem WellFormed.faithful_step_iff (h : WellFormed screen s) (hfaithful : Faithful screen s)
    (e : Event) : Faithful screen (SCIndexView.step screen s e) ↔ NotStuck screen s e := by
  cases e with
  | layoutSubviews contentOffset =>
      -- the refresh of a layout
      have hscrolled : WellFormed screen { s with contentOffset, touchingIndexView := false } :=
        ⟨h.current, h.selected⟩
      unfold SCIndexView.step onActionWithScroll NotStuck
      dsimp only
      cases htouching : s.touchingIndexView with
      | true =>
          exact iff_of_true (fun hfree => absurd hfree (by simp)) fun hfree => absurd hfree (by simp)
      | false =>
          rw [if_neg Bool.false_ne_true, forall_prop_of_true rfl]
          refine (forall_prop_of_true ?_).trans hscrolled.lights_configCurrentSection_iff
          exact hscrolled.configCurrentSection_keeps.1
  | beginTracking y =>
      refine iff_of_true ?_ trivial
      unfold SCIndexView.step
      dsimp only
      split_ifs with htouching
      · exact hfaithful
      · -- under a finger the letters are free
        by_cases hy : OnLetter screen y
        · rw [h.beginTracking_eq hy]
          exact fun hfree => absurd hfree (by simp [SCIndexView.touched])
        · rw [beginTracking_of_not_onLetter hy]
          exact fun hfree => absurd hfree (by simp)
  | continueTracking y =>
      refine iff_of_true ?_ trivial
      unfold SCIndexView.step
      dsimp only
      split_ifs with htouching
      · rw [h.continueTracking_eq]
        split_ifs
        · exact fun hfree => absurd hfree (by simp)
        · exact fun hfree => absurd hfree (by simp [SCIndexView.touched])
      · exact hfaithful
  | endTracking =>
      -- the refresh that comes when the finger is lifted
      have hended : WellFormed screen { s with touchingIndexView := false } :=
        ⟨h.current, h.selected⟩
      obtain ⟨indicator, heq⟩ := endTracking_eq screen s
      unfold SCIndexView.step NotStuck
      dsimp only
      cases htouching : s.touchingIndexView with
      | false =>
          rw [if_neg Bool.false_ne_true]
          exact iff_of_true hfaithful fun hbusy => absurd hbusy (by decide)
      | true =>
          rw [if_pos rfl, heq, forall_prop_of_true rfl]
          refine (forall_prop_of_true ?_).trans hended.lights_configCurrentSection_iff
          exact hended.configCurrentSection_keeps.1
  | animationEnds => exact iff_of_true hfaithful trivial

theorem topSection_zero (screen : Screen) : screen.topSection 0 = some 0 := by
  have hlength := screen.length_rows
  have hrows : 0 < screen.rows.length := by omega
  have hnext : 161 ≤ screen.minY 1 := by
    have hpos := Screen.rowsIn_pos hrows
    have hheader : 64 ≤ screen.minY 0 := Nat.le_add_right tableHeaderHeight _
    rw [Screen.minY_succ hrows, sectionHeight, heightForHeaderInSection, rowHeight,
      sectionFooterHeight]
    omega
  have hcast : (161 : ℚ) ≤ screen.minY 1 := by exact_mod_cast hnext
  have hbar := screen.statusBarHeight_lt
  refine Screen.topSection_eq_some_iff.mpr ⟨hrows, ?_, Or.inl rfl⟩
  unfold Screen.insetTop
  linarith

theorem start_eq (screen : Screen) :
    start screen =
      { currentSection := 0
        selected := fun j => decide (j = 0)
        touchingIndexView := false
        indicator := { text := none, hidden := true, fading := 0 }
        contentOffset := 0 } := by
  have hpos := List.length_pos_iff.mpr screen.dataSource_ne_nil
  have hone : Function.update (fun _ => false) 0 true = fun j => decide (j = 0) := by
    funext j
    by_cases hj : j = 0
    · rw [hj, Function.update_self, decide_eq_true rfl]
    · rw [Function.update_of_ne hj, decide_eq_false hj]
  -- the first letter is lit by `setDataSource:`, and the refresh finds its section
  have hset : setCurrentSection screen 0
      { currentSection := -1
        selected := fun _ => false
        touchingIndexView := false
        indicator := { text := none, hidden := true, fading := 0 }
        contentOffset := 0 } =
      { currentSection := 0
        selected := fun j => decide (j = 0)
        touchingIndexView := false
        indicator := { text := none, hidden := true, fading := 0 }
        contentOffset := 0 } := by
    unfold setCurrentSection refreshTextLayer
    dsimp only
    rw [if_neg (by decide), if_neg (by omega), if_neg (by omega), if_pos (Or.inl (by decide))]
    exact congrArg (IndexView.mk 0 · false _ 0) hone
  unfold start configCurrentSection
  rw [hset, Screen.sectionFromVisible_eq]
  dsimp only
  rw [topSection_zero]
  exact if_pos rfl

theorem wellFormed_start (screen : Screen) : WellFormed screen (start screen) := by
  have hpos := List.length_pos_iff.mpr screen.dataSource_ne_nil
  rw [start_eq]
  exact ⟨⟨0, hpos, rfl⟩, fun j hj => by rw [of_decide_eq_true hj]; rfl⟩

theorem faithful_start (screen : Screen) : Faithful screen (start screen) := by
  intro _ i _
  rw [start_eq]
  dsimp only
  rw [topSection_zero, decide_eq_true_eq, Option.some.injEq, eq_comm]

/-- Whatever is scrolled and touched, the lit letter is the one at the position of the section at the
top whenever no finger is on the index, exactly when no refresh comes back to the current section
while no letter is lit. The section that has no letter puts the light out, and going back from it to
where one came from leaves it out. -/
theorem always_faithful_iff_notStuck (screen : Screen) (es : List Event) :
    Always (step screen) (Faithful screen) (start screen) es ↔
      Guarded (step screen) (NotStuck screen) (start screen) es := by
  have hkeeps : ∀ s e, WellFormed screen s ∧ Faithful screen s → NotStuck screen s e →
      WellFormed screen (step screen s e) ∧ Faithful screen (step screen s e) :=
    fun _ e h hmoves => ⟨h.1.step e, (h.1.faithful_step_iff h.2 e).mpr hmoves⟩
  have hbad : ∀ s e, WellFormed screen s ∧ Faithful screen s → ¬ NotStuck screen s e →
      ¬ Faithful screen (step screen s e) :=
    fun _ e h hstuck hfaithful => hstuck ((h.1.faithful_step_iff h.2 e).mp hfaithful)
  exact always_iff_guarded hkeeps hbad (fun _ h => h.2)
    ⟨wellFormed_start screen, faithful_start screen⟩

/-! ## A finger that is moved over the letters -/

/-- A finger holds a letter, and the table has been scrolled there. -/
structure Holds (screen : Screen) (i : ℕ) (s : IndexView) : Prop where
  touching : s.touchingIndexView = true
  current : s.currentSection = i
  contentOffset : s.contentOffset = screen.scrollToRow i

theorem holds_touched (screen : Screen) (i : ℕ) (s : IndexView) :
    Holds screen i (touched screen i s) := ⟨rfl, rfl, rfl⟩

/-- Nothing but the finger scrolls the table, which may be laid out where it is. -/
def Drags (s : IndexView) : Event → Prop
  | .layoutSubviews contentOffset => contentOffset = s.contentOffset
  | .continueTracking _ | .animationEnds => True
  | .beginTracking _ | .endTracking => False

instance (s : IndexView) : DecidablePred (Drags s)
  | .layoutSubviews contentOffset => inferInstanceAs (Decidable (contentOffset = s.contentOffset))
  | .continueTracking _ | .animationEnds => isTrue trivial
  | .beginTracking _ | .endTracking => isFalse id

/-- The last point of a finger that came down at `y`. -/
def lastPoint (y : ℚ) : List Event → ℚ
  | [] => y
  | .continueTracking y' :: es => lastPoint y' es
  | _ :: es => lastPoint y es

theorem WellFormed.holds_continueTracking (h : WellFormed screen s) (hholds : Holds screen i s)
    (y : ℚ) : Holds screen (letterAt screen y) (SCIndexView.step screen s (.continueTracking y)) := by
  unfold SCIndexView.step
  dsimp only
  rw [if_pos hholds.touching, h.continueTracking_eq]
  split_ifs with hsame
  · have hi : i = letterAt screen y := by
      have hcurrent := hholds.current
      omega
    exact ⟨rfl, hsame, hi ▸ hholds.contentOffset⟩
  · exact holds_touched screen _ s

/-- A layout comes to nothing under a finger. -/
theorem holds_layoutSubviews (hholds : Holds screen i s) :
    Holds screen i (SCIndexView.step screen s (.layoutSubviews s.contentOffset)) := by
  have hlayout : SCIndexView.step screen s (.layoutSubviews s.contentOffset) = s :=
    if_pos hholds.touching
  rwa [hlayout]

theorem WellFormed.holds_run (h : WellFormed screen s) {y : ℚ}
    (hholds : Holds screen (letterAt screen y) s) {es : List Event}
    (hdrags : Guarded (SCIndexView.step screen) Drags s es) :
    WellFormed screen (run (SCIndexView.step screen) s es) ∧
      Holds screen (letterAt screen (lastPoint y es)) (run (SCIndexView.step screen) s es) := by
  induction es generalizing s y with
  | nil => exact ⟨h, hholds⟩
  | cons e es ih =>
      obtain ⟨hdrag, hrest⟩ := hdrags
      rw [run_cons]
      cases e with
      | layoutSubviews contentOffset =>
          obtain rfl : contentOffset = s.contentOffset := hdrag
          exact ih (h.step _) (holds_layoutSubviews hholds) hrest
      | continueTracking y' => exact ih (h.step _) (h.holds_continueTracking hholds y') hrest
      | animationEnds =>
          exact ih (h.step _) ⟨hholds.touching, hholds.current, hholds.contentOffset⟩ hrest
      | beginTracking y' => exact hdrag.elim
      | endTracking => exact hdrag.elim

/-- Lifting a finger from a letter leaves its section at the top, or the last one that can be there. -/
theorem WellFormed.endTracking_holds (h : WellFormed screen s) (hholds : Holds screen i s)
    (hi : i < screen.dataSource.length) :
    (endTracking screen s).currentSection = (min i screen.lastTopSection : ℕ) ∧
      screen.topSection (endTracking screen s).contentOffset =
        some (min i screen.lastTopSection) := by
  have hended : WellFormed screen { s with touchingIndexView := false } := ⟨h.current, h.selected⟩
  have hrows : i < screen.rows.length := by
    rw [screen.length_rows]
    omega
  have htop : screen.topSection s.contentOffset = some (min i screen.lastTopSection) := by
    rw [hholds.contentOffset, Screen.topSection_scrollToRow hrows]
  obtain ⟨indicator, heq⟩ := endTracking_eq screen s
  rw [heq]
  dsimp only
  rw [hended.configCurrentSection_keeps.2.2]
  refine ⟨?_, htop⟩
  rcases hended.configCurrentSection_cases with
    ⟨j, -, hj, hcurrent, hsame⟩ | ⟨j, -, hj, -, hmoved⟩ | ⟨hnone, -⟩
  · rw [hsame, hcurrent, ← Option.some.inj (hj.symm.trans htop)]
  · rw [hmoved, ← Option.some.inj (hj.symm.trans htop)]
  · exact absurd htop (hnone _ (by omega))

/-- In any state of the index, a finger that comes down on a letter, is moved, and is lifted, leaves
the index and the table at the letter it was on last, as far as the table can be scrolled. The table
may be laid out and animations may end in between, as long as nothing else scrolls it. -/
theorem currentSection_drag (screen : Screen) (es : List Event)
    (hfree : (run (step screen) (start screen) es).touchingIndexView = false) (y : ℚ)
    (hy : OnLetter screen y) (moves : List Event)
    (hdrags : Guarded (step screen) Drags
      (run (step screen) (start screen) (es ++ [.beginTracking y])) moves) :
    let s := run (step screen) (start screen) (es ++ .beginTracking y :: (moves ++ [.endTracking]))
    s.currentSection = (min (letterAt screen (lastPoint y moves)) screen.lastTopSection : ℕ) ∧
      screen.topSection s.contentOffset =
        some (min (letterAt screen (lastPoint y moves)) screen.lastTopSection) := by
  dsimp only
  have hwell : WellFormed screen (run (step screen) (start screen) es) :=
    run_invariant (fun _ e h => h.step e) (wellFormed_start screen) es
  rw [run_append, run_cons, run_nil] at hdrags
  rw [run_append, run_cons, run_append]
  generalize run (step screen) (start screen) es = s at hfree hwell hdrags ⊢
  -- the finger comes down
  have hbegin : step screen s (.beginTracking y) = touched screen (letterAt screen y) s := by
    unfold step
    dsimp only
    rw [hfree, if_neg Bool.false_ne_true, hwell.beginTracking_eq hy]
  rw [hbegin] at hdrags ⊢
  -- it is moved
  obtain ⟨hmoved, hholds⟩ := (hwell.touched (letterAt_lt screen y)).holds_run
    (holds_touched screen _ s) hdrags
  rw [run_cons, run_nil]
  generalize run (step screen) (touched screen (letterAt screen y) s) moves = s' at hmoved hholds ⊢
  -- it is lifted
  have hend : step screen s' .endTracking = endTracking screen s' := if_pos hholds.touching
  rw [hend]
  exact hmoved.endTracking_holds hholds (letterAt_lt screen _)

/-- A directory with two letters. -/
def twoLetters : Screen where
  statusBarHeight := 44
  adjustedInsetBottom := 34
  boundsHeight := 896
  statusBarHeight_nonneg := by norm_num
  statusBarHeight_lt := by norm_num
  lt_boundsHeight := by norm_num
  dataSource := ["G".toList, "W".toList]
  rows := [13, 1, 1]
  dataSource_ne_nil := by decide
  length_rows := rfl
  rows_pos := by decide

/-- The finger comes down on the second letter while the indicator of an earlier touch fades, and is
moved to the first one. -/
theorem currentSection_drag_twoLetters :
    let s := run (step twoLetters) (start twoLetters)
      [.beginTracking 440, .endTracking, .beginTracking 450, .animationEnds, .continueTracking 440,
        .layoutSubviews (twoLetters.scrollToRow 0), .endTracking]
    s.currentSection = (min (letterAt twoLetters 440) twoLetters.lastTopSection : ℕ) ∧
      twoLetters.topSection s.contentOffset =
        some (min (letterAt twoLetters 440) twoLetters.lastTopSection) := by
  have hy : OnLetter twoLetters 450 := by
    apply (Nat.floor_lt' (by decide)).mpr
    norm_num [indexViewMargin, indexViewSpace, twoLetters]
  exact currentSection_drag twoLetters [.beginTracking 440, .endTracking] (by decide +kernel) 450 hy
    [.animationEnds, .continueTracking 440, .layoutSubviews (twoLetters.scrollToRow 0)]
    ⟨trivial, trivial, by decide +kernel, trivial⟩

/-- After the last section has been at the top, the letter before it stays dark. -/
example : ¬ Faithful twoLetters (run (step twoLetters) (start twoLetters)
    [.layoutSubviews 900, .layoutSubviews 1000, .layoutSubviews 900]) := by
  intro h
  exact absurd ((h (by decide +kernel) 1 (by decide)).mpr (by decide +kernel)) (by decide +kernel)

/-! ## The indicator -/

/-- The indicator shows the current letter. -/
def Shown (screen : Screen) (s : IndexView) : Prop :=
  s.indicator.hidden = false ∧ s.indicator.text = screen.dataSource[s.currentSection.toNat]?

/-- A finger on the index sees the letter it holds. -/
def Indicates (screen : Screen) (s : IndexView) : Prop :=
  s.touchingIndexView = true → Shown screen s

/-- A finger comes down on a letter, or where the indicator is still right, and no animation that
hides the indicator ends under a finger. -/
def Unhurried (screen : Screen) (s : IndexView) : Event → Prop
  | .beginTracking y => s.touchingIndexView = false → OnLetter screen y ∨ Shown screen s
  | .animationEnds => s.touchingIndexView = true → s.indicator.fading = 0
  | .layoutSubviews _ | .continueTracking _ | .endTracking => True

theorem shown_touched (screen : Screen) (i : ℕ) (s : IndexView) :
    Shown screen (touched screen i s) :=
  ⟨rfl, by rw [touched, Int.toNat_natCast]⟩

theorem WellFormed.indicates_step_iff (h : WellFormed screen s) (hshown : Indicates screen s)
    (e : Event) : Indicates screen (SCIndexView.step screen s e) ↔ Unhurried screen s e := by
  cases e with
  | layoutSubviews contentOffset =>
      refine iff_of_true ?_ trivial
      -- the indicator is not touched by a layout
      have hscrolled : WellFormed screen { s with contentOffset } := ⟨h.current, h.selected⟩
      unfold SCIndexView.step onActionWithScroll
      dsimp only
      split_ifs with htouching
      · exact hshown
      · intro hbusy
        rw [hscrolled.configCurrentSection_keeps.1] at hbusy
        exact absurd hbusy htouching
  | beginTracking y =>
      unfold SCIndexView.step Unhurried
      dsimp only
      cases htouching : s.touchingIndexView with
      | true =>
          rw [if_pos rfl]
          exact iff_of_true hshown fun hfree => absurd hfree (by decide)
      | false =>
          rw [if_neg Bool.false_ne_true, forall_prop_of_true rfl]
          -- a finger beside the letters leaves the indicator as it was
          by_cases hy : OnLetter screen y
          · rw [h.beginTracking_eq hy]
            exact iff_of_true (fun _ => shown_touched screen _ s) (Or.inl hy)
          · rw [beginTracking_of_not_onLetter hy, or_iff_right hy]
            exact forall_prop_of_true rfl
  | continueTracking y =>
      refine iff_of_true ?_ trivial
      unfold SCIndexView.step
      dsimp only
      split_ifs with htouching
      · rw [h.continueTracking_eq]
        split_ifs
        · exact fun _ => hshown htouching
        · exact fun _ => shown_touched screen _ s
      · exact hshown
  | endTracking =>
      refine iff_of_true ?_ trivial
      have hended : WellFormed screen { s with touchingIndexView := false } :=
        ⟨h.current, h.selected⟩
      obtain ⟨indicator, heq⟩ := endTracking_eq screen s
      unfold SCIndexView.step
      dsimp only
      split_ifs with htouching
      · rw [heq]
        intro hbusy
        exact absurd (hended.configCurrentSection_keeps.1.symm.trans hbusy) Bool.false_ne_true
      · exact hshown
  | animationEnds =>
      unfold SCIndexView.step Indicator.animationEnds Unhurried
      dsimp only
      -- an animation that ends hides what the finger sees
      by_cases hfading : s.indicator.fading = 0
      · rw [if_pos hfading]
        exact iff_of_true hshown fun _ => hfading
      · rw [if_neg hfading]
        refine forall_congr' fun _ => iff_of_false ?_ hfading
        exact fun hhidden => absurd hhidden.1 (by simp)

/-- Throughout, a finger on the index sees the letter it holds exactly when it comes down on one (or
where it is still shown) and no earlier animation hides the indicator under it. -/
theorem always_indicates_iff (screen : Screen) (es : List Event) :
    Always (step screen) (Indicates screen) (start screen) es ↔
      Guarded (step screen) (Unhurried screen) (start screen) es := by
  have hkeeps : ∀ s e, WellFormed screen s ∧ Indicates screen s → Unhurried screen s e →
      WellFormed screen (step screen s e) ∧ Indicates screen (step screen s e) :=
    fun _ e h hunhurried => ⟨h.1.step e, (h.1.indicates_step_iff h.2 e).mpr hunhurried⟩
  have hbad : ∀ s e, WellFormed screen s ∧ Indicates screen s → ¬ Unhurried screen s e →
      ¬ Indicates screen (step screen s e) :=
    fun _ e h hhurried hshown => hhurried ((h.1.indicates_step_iff h.2 e).mp hshown)
  have hstart : Indicates screen (start screen) := by
    rw [start_eq]
    exact fun hbusy => absurd hbusy (by simp)
  exact always_iff_guarded hkeeps hbad (fun _ h => h.2) ⟨wellFormed_start screen, hstart⟩

end PasswordPackage.SCIndexView
