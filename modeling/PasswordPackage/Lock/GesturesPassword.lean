import Mathlib.Algebra.Order.BigOperators.Group.Finset
import Mathlib.Data.Fintype.CardEmbedding
import Mathlib.Order.Interval.Finset.Nat
import Mathlib.Tactic.Linarith
import PasswordPackage.Lock.CreateGesture

/-!
# The gesture passwords there are

The buttons of the gesture view do not overlap, so a finger can touch any of them alone. Whatever was
drawn before, interrupted strokes included, every password of four to nine different buttons can
still be stored, and drawn to be let in again.
-/

namespace PasswordPackage.GesturesPassword

open Machine FirstOccurrence GesturesUnlockView GesturesUnlock CreateGesture

/-! ## The middle of a button -/

/-- `btn.center`. -/
def center (frame : CGRect) : CGPoint where
  x := frame.x + frame.width / 2
  y := frame.y + frame.height / 2

/-- In a row of cells, the middle of one is in no other. -/
theorem middle_mem_cell_iff {width margin : ℚ} (hwidth : 0 < width) (hmargin : 0 ≤ margin)
    (first : ℚ) (m n : ℕ) :
    first + (width + margin) * m ≤ first + (width + margin) * n + width / 2 ∧
        first + (width + margin) * n + width / 2 < first + (width + margin) * m + width ↔
      m = n := by
  constructor
  · rintro ⟨hleft, hright⟩
    rcases lt_trichotomy m n with hlt | heq | hlt
    · have hcells : ((m : ℚ) + 1) ≤ n := by exact_mod_cast hlt
      have hmul := mul_le_mul_of_nonneg_left hcells (by linarith : 0 ≤ width + margin)
      linarith
    · exact heq
    · have hcells : ((n : ℚ) + 1) ≤ m := by exact_mod_cast hlt
      have hmul := mul_le_mul_of_nonneg_left hcells (by linarith : 0 ≤ width + margin)
      linarith
  · rintro rfl
    constructor <;> linarith

/-- A frame of the grid that `layoutSubviews` lays out. -/
def cell (width margin top : ℚ) (button : Button) : CGRect where
  x := margin + (width + margin) * (button.val % 3 : ℕ)
  y := top + (width + margin) * (button.val / 3 : ℕ)
  width := width
  height := width

theorem contains_center_cell_iff {width margin : ℚ} (hwidth : 0 < width) (hmargin : 0 ≤ margin)
    (top : ℚ) (button button' : Button) :
    (cell width margin top button).contains (center (cell width margin top button')) = true ↔
      button = button' := by
  have hcol : _ ↔ button.val % 3 = button'.val % 3 :=
    middle_mem_cell_iff hwidth hmargin margin _ _
  have hrow : _ ↔ button.val / 3 = button'.val / 3 :=
    middle_mem_cell_iff hwidth hmargin top _ _
  have hsame : button = button' ↔
      button.val % 3 = button'.val % 3 ∧ button.val / 3 = button'.val / 3 := by
    rw [Fin.ext_iff]
    omega
  unfold CGRect.contains center cell
  rw [decide_eq_true_eq, hsame, ← hcol, ← hrow, and_assoc]

/-- The width of a button. -/
def buttonWidth (screenWidth : ℚ) : ℚ :=
  if screenWidth = 320 then 50 else 58

/-- `margin`. -/
def margin (boundsWidth screenWidth : ℚ) : ℚ :=
  (boundsWidth - (3 : ℕ) * buttonWidth screenWidth) / ((3 : ℕ) + 1)

theorem layoutSubviews_eq (boundsWidth screenWidth screenHeight : ℚ) (button : Button) :
    layoutSubviews boundsWidth screenWidth screenHeight button =
      cell (buttonWidth screenWidth) (margin boundsWidth screenWidth)
        (if screenHeight = 480 then 0 else margin boundsWidth screenWidth) button := by
  unfold layoutSubviews cell
  dsimp only
  rw [CGRect.mk.injEq]
  refine ⟨rfl, ?_, rfl, rfl⟩
  by_cases hheight : screenHeight = 480
  · rw [if_pos hheight, if_pos hheight, zero_add]
    rfl
  · rw [if_neg hheight, if_neg hheight]
    rfl

/-- In a view as wide as three buttons, the middle of one is in no other. -/
theorem contains_center_iff {boundsWidth : ℚ} (hwidth : 174 ≤ boundsWidth)
    (screenWidth screenHeight : ℚ) (button button' : Button) :
    (layoutSubviews boundsWidth screenWidth screenHeight button).contains
        (center (layoutSubviews boundsWidth screenWidth screenHeight button')) = true ↔
      button = button' := by
  have hbutton : 0 < buttonWidth screenWidth := by
    unfold buttonWidth
    split_ifs <;> norm_num
  have hmargin : 0 ≤ margin boundsWidth screenWidth := by
    unfold margin buttonWidth
    apply div_nonneg
    · push_cast
      split_ifs <;> linarith
    · norm_num
  rw [layoutSubviews_eq, layoutSubviews_eq]
  exact contains_center_cell_iff hbutton hmargin _ button button'

/-! ## Drawing a stroke -/

/-- The buttons lie apart. -/
def Apart (frames : Button → CGRect) : Prop :=
  ∀ button button', (frames button).contains (center (frames button')) = true ↔ button = button'

/-- The callbacks of a stroke over the middles of some buttons, before the last one. -/
def opening (frames : Button → CGRect) (first : Button) (btns : List Button) : List PanEvent :=
  ⟨.began, center (frames first)⟩ :: btns.map fun button => ⟨.changed, center (frames button)⟩

variable {frames : Button → CGRect}

theorem map_point_opening (first : Button) (btns : List Button) :
    (opening frames first btns).map PanEvent.point =
      (first :: btns).map fun button => center (frames button) := by
  rw [opening, List.map_cons, List.map_map]
  rfl

theorem not_ended_opening (first : Button) (btns : List Button) :
    ∀ e ∈ opening frames first btns, e.state ≠ .ended := by
  intro e he
  rcases List.mem_cons.mp he with rfl | hchanged
  · exact fun h => by cases h
  · obtain ⟨button, -, rfl⟩ := List.mem_map.mp hchanged
    exact fun h => by cases h

theorem Apart.buttonsAt (h : Apart frames) (button : Button) :
    buttonsAt frames (center (frames button)) = [button] := by
  have hsame : ∀ button' ∈ List.finRange 9,
      (frames button').contains (center (frames button)) = decide (button' = button) := by
    intro button' _
    rw [Bool.eq_iff_iff, h, decide_eq_true_eq]
  have hone : ∀ button : Button,
      (List.finRange 9).filter (fun button' => decide (button' = button)) = [button] := by
    decide
  rw [GesturesUnlockView.buttonsAt, List.filter_congr hsame, hone]

theorem Apart.buttonsHit (h : Apart frames) {btns : List Button} (hnodup : btns.Nodup) :
    buttonsHit frames (btns.map fun button => center (frames button)) = btns := by
  rw [GesturesUnlockView.buttonsHit, List.flatMap_map]
  simp only [h.buttonsAt, List.flatMap_singleton']
  exact eraseDups_of_nodup hnodup

theorem reported_concat (history : List PanEvent) (e : PanEvent) :
    reported (history ++ [e]) = (reported history).next e := by
  rw [reported, List.foldl_append]
  rfl

/-- Until a stroke is delivered, its points are kept. -/
theorem points_append (history : List PanEvent) {es : List PanEvent}
    (hes : ∀ e ∈ es, e.state ≠ .ended) :
    (reported (history ++ es)).points = (reported history).points ++ es.map PanEvent.point := by
  induction es using List.reverseRecOn with
  | nil => rw [List.append_nil, List.map_nil, List.append_nil]
  | append_singleton es e ih =>
      have he : e.state ≠ .ended := hes e (List.mem_append_right _ (List.mem_singleton_self e))
      rw [← List.append_assoc, reported_concat, Reported.points_next, if_neg he,
        ih fun e' he' => hes e' (List.mem_append_left _ he'), List.map_append, List.append_assoc]
      rfl

/-- After a delivered stroke nothing is left. -/
theorem points_concat_ended (history : List PanEvent) (point : CGPoint) :
    (reported (history ++ [⟨.ended, point⟩])).points = [] := by
  rw [reported_concat, Reported.points_next]
  rfl

/-- A stroke that begins when nothing is left over delivers its own buttons. -/
theorem Apart.pan_last (h : Apart frames) {history : List PanEvent}
    (hpoints : (reported history).points = []) {first last : Button} {btns : List Button}
    (hnodup : (first :: (btns ++ [last])).Nodup) :
    (pan frames (run (panStep frames) setup (history ++ opening frames first btns))
        ⟨.ended, center (frames last)⟩).2 =
      some (gesturePwd (first :: (btns ++ [last]))) := by
  rw [pan_ended, points_append history (not_ended_opening first btns), hpoints, List.nil_append,
    map_point_opening]
  have hbtns := h.buttonsHit hnodup
  rw [← List.cons_append, List.map_append, List.map_singleton] at hbtns
  rw [hbtns]
  rfl

/-! ## The passwords -/

/-- The strings of four to nine different buttons. -/
noncomputable def passwords : Finset String :=
  (Finset.Icc 4 9).biUnion fun n =>
    Finset.univ.image fun btns : Fin n ↪ Button => gesturePwd (List.ofFn btns)

theorem mem_passwords {p : String} :
    p ∈ passwords ↔ ∃ btns : List Button, btns.Nodup ∧ 4 ≤ btns.length ∧ p = gesturePwd btns := by
  unfold passwords
  rw [Finset.mem_biUnion]
  constructor
  · rintro ⟨n, hn, hp⟩
    obtain ⟨btns, -, rfl⟩ := Finset.mem_image.mp hp
    refine ⟨List.ofFn btns, List.nodup_ofFn.mpr btns.injective, ?_, rfl⟩
    rw [List.length_ofFn]
    exact (Finset.mem_Icc.mp hn).1
  · rintro ⟨btns, hnodup, hlong, rfl⟩
    have hshort : btns.length ≤ 9 := by simpa using hnodup.length_le_card
    refine ⟨btns.length, Finset.mem_Icc.mpr ⟨hlong, hshort⟩, Finset.mem_image.mpr ?_⟩
    refine ⟨⟨btns.get, List.nodup_iff_injective_get.mp hnodup⟩, Finset.mem_univ _, ?_⟩
    apply congrArg
    exact List.ofFn_get btns

theorem card_passwords : passwords.card = 985824 := by
  have hinjective : ∀ n, Function.Injective fun btns : Fin n ↪ Button =>
      gesturePwd (List.ofFn btns) := by
    intro n btns btns' heq
    exact DFunLike.coe_injective (List.ofFn_injective (gesturePwd_injective heq))
  unfold passwords
  rw [Finset.card_biUnion]
  · calc ∑ n ∈ Finset.Icc 4 9,
          (Finset.univ.image fun btns : Fin n ↪ Button => gesturePwd (List.ofFn btns)).card
        = ∑ n ∈ Finset.Icc 4 9, Nat.descFactorial 9 n := by
          apply Finset.sum_congr rfl
          intro n _
          rw [Finset.card_image_of_injective _ (hinjective n), Finset.card_univ,
            Fintype.card_embedding_eq, Fintype.card_fin, Fintype.card_fin]
      _ = 985824 := by decide
  · intro n _ n' _ hne
    rw [Function.onFun, Finset.disjoint_left]
    rintro p hp hp'
    obtain ⟨btns, -, rfl⟩ := Finset.mem_image.mp hp
    obtain ⟨btns', -, heq⟩ := Finset.mem_image.mp hp'
    have hlength := congrArg List.length (gesturePwd_injective heq)
    rw [List.length_ofFn, List.length_ofFn] at hlength
    exact hne hlength.symm

/-- A password has a first button and a last one. -/
theorem exists_ends {btns : List Button} (hlong : 4 ≤ btns.length) :
    ∃ first middle last, btns = first :: (middle ++ [last]) := by
  rcases btns with _ | ⟨first, rest⟩
  · exact absurd hlong (by decide)
  · rcases List.eq_nil_or_concat rest with rfl | ⟨middle, last, rfl⟩
    · exact absurd hlong (by simp)
    · exact ⟨first, middle, last, by rw [List.concat_eq_append]⟩

/-! ## Storing a password -/

theorem panEvents_append (history history' : List CreateGesture.Event) :
    panEvents (history ++ history') = panEvents history ++ panEvents history' :=
  List.filterMap_append

theorem panEvents_map_pan (es : List PanEvent) : panEvents (es.map .pan) = es := by
  rw [panEvents, List.filterMap_map]
  exact List.filterMap_some

theorem pan_of_not_ended {e : PanEvent} (he : e.state ≠ .ended) (v : View) :
    (pan frames v e).2 = none := by
  unfold pan
  rw [if_neg he]

/-- Until a stroke is delivered, nothing is drawn. -/
theorem sinceReset_append (history : List CreateGesture.Event) {es : List PanEvent}
    (hes : ∀ e ∈ es, e.state ≠ .ended) :
    (drawn frames (history ++ es.map .pan)).sinceReset = (drawn frames history).sinceReset := by
  induction es using List.reverseRecOn with
  | nil => rw [List.map_nil, List.append_nil]
  | append_singleton es e ih =>
      have he : e.state ≠ .ended := hes e (List.mem_append_right _ (List.mem_singleton_self e))
      rw [List.map_append, ← List.append_assoc, List.map_singleton, drawn_concat, Drawn.next,
        pan_of_not_ended he, Option.toList_none]
      dsimp only
      rw [List.append_nil]
      exact ih fun e' he' => hes e' (List.mem_append_left _ he')

variable {first last : Button} {btns : List Button}

/-- A stroke over some buttons, drawn on the screen when nothing is left over. -/
theorem Apart.stroke_last (h : Apart frames) {s : Screen}
    {history : List CreateGesture.Event}
    (hview : s.view = run (panStep frames) setup
      (panEvents (history ++ (opening frames first btns).map .pan)))
    (hpoints : (reported (panEvents history)).points = [])
    (hnodup : (first :: (btns ++ [last])).Nodup) :
    stroke frames s (.pan ⟨.ended, center (frames last)⟩) =
      some (gesturePwd (first :: (btns ++ [last]))) := by
  rw [stroke, hview, panEvents_append, panEvents_map_pan]
  exact h.pan_last hpoints hnodup

/-- Whatever was drawn, a password can still be stored: the redraw button makes the screen forget a
pending stroke, a touch of the view clears it, and two strokes follow. -/
theorem Apart.exists_stores (h : Apart frames) (shared : Shared)
    (before : List CreateGesture.Event) (hnodup : (first :: (btns ++ [last])).Nodup)
    (hlong : 4 ≤ (first :: (btns ++ [last])).length) :
    ∃ es e, stores frames (run (step frames) (createScreen shared) (before ++ es)) e =
      some (gesturePwd (first :: (btns ++ [last]))) := by
  let clear : List CreateGesture.Event :=
    [.resetGesturePassword, .pan ⟨.began, ⟨0, 0⟩⟩, .pan ⟨.ended, ⟨0, 0⟩⟩, .resetGesturePassword]
  let opened : List CreateGesture.Event := (opening frames first btns).map .pan
  let closed : CreateGesture.Event := .pan ⟨.ended, center (frames last)⟩
  have hstroke : ∀ history : List CreateGesture.Event,
      (reported (panEvents history)).points = [] →
        stroke frames (run (step frames) (createScreen shared) (history ++ opened)) closed =
          some (gesturePwd (first :: (btns ++ [last]))) := by
    intro history hpoints
    refine h.stroke_last ?_ hpoints hnodup
    rw [(creating_run frames shared _).view, drawn_view]
  -- nothing is left over, in the view and on the screen
  have hcleared : (reported (panEvents (before ++ clear))).points = [] := by
    have htouch : panEvents clear = [⟨.began, ⟨0, 0⟩⟩] ++ [⟨.ended, ⟨0, 0⟩⟩] := rfl
    rw [panEvents_append, htouch, ← List.append_assoc]
    exact points_concat_ended _ _
  have hforgotten : (drawn frames (before ++ clear)).sinceReset = [] := by
    have hlast : before ++ clear =
        before ++ [.resetGesturePassword, .pan ⟨.began, ⟨0, 0⟩⟩, .pan ⟨.ended, ⟨0, 0⟩⟩] ++
          [.resetGesturePassword] := by
      rw [List.append_assoc]
      rfl
    rw [hlast, drawn_concat]
    rfl
  have hfirst := hstroke (before ++ clear) hcleared
  -- the first stroke becomes the pending one
  have hpending : (drawn frames (before ++ clear ++ opened ++ [closed])).sinceReset =
      [gesturePwd (first :: (btns ++ [last]))] := by
    have hview := (creating_run frames shared (before ++ clear ++ opened)).view
    have hpan : (pan frames (drawn frames (before ++ clear ++ opened)).view
        ⟨.ended, center (frames last)⟩).2 = some (gesturePwd (first :: (btns ++ [last]))) := by
      rw [← hview]
      exact hfirst
    rw [drawn_concat, Drawn.next, hpan, Option.toList_some]
    dsimp only
    rw [sinceReset_append _ (not_ended_opening first btns), hforgotten]
    rfl
  have hclosed : (reported (panEvents (before ++ clear ++ opened ++ [closed]))).points = [] := by
    rw [panEvents_append]
    exact points_concat_ended _ _
  -- the second stroke repeats it
  have hsecond := hstroke _ hclosed
  refine ⟨clear ++ opened ++ [closed] ++ opened, closed, ?_⟩
  have hassoc : before ++ (clear ++ opened ++ [closed] ++ opened) =
      before ++ clear ++ opened ++ [closed] ++ opened := by
    simp only [List.append_assoc]
  rw [hassoc, (creating_run frames shared _).stores frames, hsecond]
  have hsame : (drawn frames (before ++ clear ++ opened ++ [closed] ++ opened)).firstLong =
      some (gesturePwd (first :: (btns ++ [last]))) := by
    have hlength : 4 ≤ (gesturePwd (first :: (btns ++ [last]))).length := by
      rwa [← String.length_toList, toList_gesturePwd, List.length_map]
    rw [Drawn.firstLong, sinceReset_append _ (not_ended_opening first btns), hpending]
    simp [hlength]
  rw [hsame]
  simp [Option.filter]

/-- What is stored is a password. -/
theorem mem_passwords_of_stores {shared : Shared} {history : List CreateGesture.Event}
    {e : CreateGesture.Event} {p : String}
    (h : stores frames (run (step frames) (createScreen shared) history) e = some p) :
    p ∈ passwords := by
  rw [(creating_run frames shared history).stores frames, Option.filter_eq_some_iff,
    decide_eq_true_eq] at h
  obtain ⟨hstroke, hfirst⟩ := h
  obtain ⟨⟨btns, hnodup, rfl⟩, -, -⟩ := drawn_of_stroke frames hstroke
  have hlong := Drawn.four_le_of_firstLong hfirst
  rw [← String.length_toList, toList_gesturePwd, List.length_map] at hlong
  exact mem_passwords.mpr ⟨btns, hnodup, hlong, rfl⟩

/-- There are 985824 passwords, and from any state of the screen that creates one, each of them and
nothing else can still be stored. -/
theorem card_passwords_and_exists_stores_iff {boundsWidth : ℚ} (hwidth : 174 ≤ boundsWidth)
    (screenWidth screenHeight : ℚ) (shared : Shared) (before : List CreateGesture.Event) :
    let frames := layoutSubviews boundsWidth screenWidth screenHeight
    passwords.card = 985824 ∧ ∀ p, p ∈ passwords ↔
      ∃ es e, stores frames (run (step frames) (createScreen shared) (before ++ es)) e = some p := by
  intro frames
  have hapart : Apart frames := contains_center_iff hwidth screenWidth screenHeight
  refine ⟨card_passwords, fun p => ⟨fun hp => ?_, ?_⟩⟩
  · obtain ⟨btns, hnodup, hlong, rfl⟩ := mem_passwords.mp hp
    obtain ⟨first, middle, last, rfl⟩ := exists_ends hlong
    exact hapart.exists_stores shared before hnodup hlong
  · rintro ⟨es, e, hstores⟩
    exact mem_passwords_of_stores hstores

/-- On a screen of 414 points. -/
theorem card_passwords_and_exists_stores_iff_wide :
    let frames := layoutSubviews 414 414 896
    passwords.card = 985824 ∧ ∀ p, p ∈ passwords ↔
      ∃ es e, stores frames (run (step frames) (createScreen ⟨none, 5⟩) ([] ++ es)) e = some p :=
  card_passwords_and_exists_stores_iff (by norm_num) 414 896 ⟨none, 5⟩ []

/-! ## Drawing the stored password -/

/-- The screen when it is shown to be unlocked. -/
def validateScreen (shared : Shared) : Screen where
  view := setup
  controller := initWithUnlockType .validatePwd
  shared := shared

/-- What holds of the lock screen while it checks the password `gesturesPassword`. -/
structure Checking (gesturesPassword : Option String) (s : Screen) : Prop where
  unlockType : s.controller.unlockType = .validatePwd
  stored : s.shared.gesturesPassword = gesturesPassword

theorem Checking.receive {gesturesPassword : Option String} {s : Screen}
    (h : Checking gesturesPassword s) (g : String) : Checking gesturesPassword (receive s g) := by
  unfold CreateGesture.receive drawRectFinished
  rw [h.unlockType]
  dsimp only
  refine ⟨?_, ?_⟩
  · rw [validateGesturesPassword_unlockType, h.unlockType]
  · have hkept : (validateGesturesPassword s.shared s.controller g).1.gesturesPassword =
        gesturesPassword := by
      unfold validateGesturesPassword
      split_ifs <;> exact h.stored
    cases houtcome : (validateGesturesPassword s.shared s.controller g).2.2 with
    | dismiss completion =>
        obtain ⟨-, rfl⟩ := validateGesturesPassword_dismiss.mp houtcome
        exact hkept
    | _ => exact hkept

theorem Checking.step {gesturesPassword : Option String} {s : Screen}
    (h : Checking gesturesPassword s) (e : CreateGesture.Event) :
    Checking gesturesPassword (step frames s e) := by
  cases e with
  | pan e =>
      cases hstroke : stroke frames s (.pan e) with
      | none =>
          rw [step_of_no_stroke hstroke]
          exact ⟨h.unlockType, h.stored⟩
      | some g =>
          rw [step_of_stroke hstroke]
          have hnext : Checking gesturesPassword { s with view := panStep frames s.view e } :=
            ⟨h.unlockType, h.stored⟩
          exact hnext.receive g
  | resetGesturePassword =>
      refine ⟨?_, h.stored⟩
      show (resetGesturePassword s.controller).unlockType = .validatePwd
      unfold resetGesturePassword
      split_ifs <;> exact h.unlockType

/-- The view only follows the finger. -/
theorem view_run (s : Screen) (history : List CreateGesture.Event) :
    (run (CreateGesture.step frames) s history).view =
      run (panStep frames) s.view (panEvents history) := by
  induction history using List.reverseRecOn with
  | nil => rfl
  | append_singleton history e ih =>
      rw [run_append, panEvents_append, run_append, ← ih]
      cases e with
      | pan e =>
          cases hstroke : stroke frames (run (CreateGesture.step frames) s history) (.pan e) with
          | none =>
              rw [run_cons, run_nil, step_of_no_stroke hstroke]
              rfl
          | some g =>
              rw [run_cons, run_nil, step_of_stroke hstroke]
              rfl
      | resetGesturePassword => rfl

/-- A password that was stored opens every later lock screen at the second stroke at the latest:
whatever was tried before, and whatever strokes were interrupted, when a stroke has ended the next
one, over its buttons, asks for the dismissal. -/
theorem stored_opens {boundsWidth boundsWidth' : ℚ} (hwidth : 174 ≤ boundsWidth')
    (screenWidth screenHeight screenWidth' screenHeight' : ℚ) {shared shared' : Shared}
    {history : List CreateGesture.Event} {e : CreateGesture.Event} {p : String}
    (hstores : stores (layoutSubviews boundsWidth screenWidth screenHeight)
      (run (CreateGesture.step (layoutSubviews boundsWidth screenWidth screenHeight))
        (createScreen shared) history) e = some p)
    (hshared : shared'.gesturesPassword = some p) (before : List CreateGesture.Event)
    (point : CGPoint) :
    let frames := layoutSubviews boundsWidth' screenWidth' screenHeight'
    ∃ first btns last, p = gesturePwd (first :: (btns ++ [last])) ∧
      let s := run (CreateGesture.step frames) (validateScreen shared')
        (before ++ [.pan ⟨.ended, point⟩] ++ (opening frames first btns).map .pan)
      stroke frames s (.pan ⟨.ended, center (frames last)⟩) = some p ∧
        (drawRectFinished s.shared s.controller p).2.2 = .dismiss .resetErrorCount := by
  intro frames
  have hapart : Apart frames := contains_center_iff hwidth screenWidth' screenHeight'
  obtain ⟨btns, hnodup, hlong, rfl⟩ := mem_passwords.mp (mem_passwords_of_stores hstores)
  obtain ⟨first, middle, last, rfl⟩ := exists_ends hlong
  refine ⟨first, middle, last, rfl, ?_⟩
  dsimp only
  -- the stroke that has ended leaves nothing over
  have hpoints : (reported (panEvents (before ++ [.pan ⟨.ended, point⟩]))).points = [] := by
    rw [panEvents_append]
    exact points_concat_ended _ _
  -- the lock screen still checks the stored password
  have hchecking : Checking shared'.gesturesPassword (run (CreateGesture.step frames)
      (validateScreen shared')
        (before ++ [.pan ⟨.ended, point⟩] ++ (opening frames first middle).map .pan)) := by
    have hstep : ∀ s e, Checking shared'.gesturesPassword s →
        Checking shared'.gesturesPassword (CreateGesture.step frames s e) := fun s e h => h.step e
    exact run_invariant hstep ⟨rfl, rfl⟩ _
  refine ⟨hapart.stroke_last (view_run _ _) hpoints hnodup, ?_⟩
  rw [drawRectFinished, hchecking.unlockType]
  dsimp only
  rw [validateGesturesPassword_dismiss, hchecking.stored]
  exact ⟨hshared.symm, rfl⟩

/-- The password `0123`, stored on a screen of 414 points, on a screen of 320 points. -/
theorem stored_opens_narrow :
    let frames := layoutSubviews 320 320 568
    ∃ first btns last, "0123" = gesturePwd (first :: (btns ++ [last])) ∧
      let s := run (CreateGesture.step frames) (validateScreen ⟨some "0123", 5⟩)
        ([] ++ [.pan ⟨.ended, ⟨0, 0⟩⟩] ++ (opening frames first btns).map .pan)
      stroke frames s (.pan ⟨.ended, center (frames last)⟩) = some "0123" ∧
        (drawRectFinished s.shared s.controller "0123").2.2 = .dismiss .resetErrorCount := by
  have hstores : stores (layoutSubviews 414 414 896)
      (run (CreateGesture.step (layoutSubviews 414 414 896)) (createScreen ⟨none, 5⟩)
        (strokeZ ++ strokeZ.take 3)) (.pan ⟨.ended, ⟨70, 190⟩⟩) = some "0123" := by
    decide +kernel
  exact stored_opens (by norm_num) 414 896 320 568 hstores rfl [] ⟨0, 0⟩

end PasswordPackage.GesturesPassword
