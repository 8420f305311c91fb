import Mathlib.Data.Fintype.Card
import PasswordPackage.Lock.GesturesUnlock
import PasswordPackage.Lock.GesturesUnlockView

/-!
# Creating the gesture password

In create mode the controller keeps the first stroke that is long enough and stores it once the same
stroke is drawn again; the redraw button makes it forget that stroke. The strokes come from the
view, so each lists buttons without repetition.
-/

namespace PasswordPackage.CreateGesture

open Machine FirstOccurrence GesturesUnlockView GesturesUnlock

/-! ## The screen -/

/-- A lock screen: its view, its controller, and what it shares with the other lock screens. -/
structure Screen where
  view : View
  controller : Controller
  shared : Shared

inductive Event where
  | pan (event : PanEvent)
  | resetGesturePassword
deriving DecidableEq

variable (frames : Button → CGRect)

/-- The string an event hands to the controller. -/
def stroke (s : Screen) : Event → Option String
  | .pan e => (pan frames s.view e).2
  | .resetGesturePassword => none

/-- `gesturesUnlockView:drawRectFinished:`, and the completion block of the dismissal it may ask
for. -/
def receive (s : Screen) (gesturePassword : String) : Screen :=
  let (shared, controller, outcome) := drawRectFinished s.shared s.controller gesturePassword
  { s with
    controller := controller
    shared := outcome.completions.foldl Completion.run shared }

/-- One event. -/
def step (s : Screen) : Event → Screen
  | .pan e =>
      let next := { s with view := panStep frames s.view e }
      match stroke frames s (.pan e) with
      | none => next
      | some gesturePassword => receive next gesturePassword
  | .resetGesturePassword => { s with controller := resetGesturePassword s.controller }

/-- The screen when it is shown to create a password. -/
def createScreen (shared : Shared) : Screen :=
  { view := setup
    controller := initWithUnlockType .createPwd
    shared := shared }

variable {frames} in
theorem step_of_stroke {s : Screen} {e : PanEvent} {g : String}
    (h : stroke frames s (.pan e) = some g) :
    step frames s (.pan e) = receive { s with view := panStep frames s.view e } g := by
  simp only [step, h]

variable {frames} in
theorem step_of_no_stroke {s : Screen} {e : PanEvent} (h : stroke frames s (.pan e) = none) :
    step frames s (.pan e) = { s with view := panStep frames s.view e } := by
  simp only [step, h]

/-- The password an event stores. -/
def stores (s : Screen) (e : Event) : Option String :=
  (stroke frames s e).bind fun gesturePassword =>
    match (drawRectFinished s.shared s.controller gesturePassword).2.2 with
    | .dismiss (.addGesturesPassword gesturesPassword) => some gesturesPassword
    | _ => none

/-! ## What was drawn -/

/-- The view after a history, all strokes of the history, and those drawn since the last press of
the redraw button. -/
structure Drawn where
  view : View
  strokes : List String
  sinceReset : List String

/-- An event adds a stroke, or begins anew. -/
def Drawn.next (d : Drawn) : Event → Drawn
  | .pan e =>
      { view := panStep frames d.view e
        strokes := d.strokes ++ (pan frames d.view e).2.toList
        sinceReset := d.sinceReset ++ (pan frames d.view e).2.toList }
  | .resetGesturePassword => { d with sinceReset := [] }

/-- What a history draws. -/
def drawn (history : List Event) : Drawn :=
  history.foldl (Drawn.next frames) { view := setup, strokes := [], sinceReset := [] }

/-- The first stroke of length at least 4 since the last press of the redraw button. -/
def Drawn.firstLong (d : Drawn) : Option String :=
  d.sinceReset.find? fun g => decide (4 ≤ g.length)

/-- Between 4 and 9 characters, all distinct and in `'0'..'8'`. -/
structure WellFormed (gesturesPassword : String) : Prop where
  four_le : 4 ≤ gesturesPassword.length
  le_nine : gesturesPassword.length ≤ 9
  nodup : gesturesPassword.toList.Nodup
  digits : ∀ c ∈ gesturesPassword.toList, '0' ≤ c ∧ c ≤ '8'

/-- What is stored is well formed, and was drawn last and first; nothing else changes what is
stored. -/
structure StoresConfirmed (shared : Shared) (before : List Event) (e : Event) : Prop where
  stored : ∀ p, stores frames (run (step frames) (createScreen shared) before) e = some p →
    (run (step frames) (createScreen shared) (before ++ [e])).shared.gesturesPassword = some p ∧
      WellFormed p ∧ (drawn frames (before ++ [e])).strokes.getLast? = some p ∧
        (drawn frames (before ++ [e])).firstLong = some p
  kept : stores frames (run (step frames) (createScreen shared) before) e = none →
    (run (step frames) (createScreen shared) (before ++ [e])).shared.gesturesPassword =
      (run (step frames) (createScreen shared) before).shared.gesturesPassword
  refused : ∀ g, stroke frames (run (step frames) (createScreen shared) before) e = some g →
    (g.length < 4 ∨ (drawn frames before).firstLong ≠ some g) →
      (run (step frames) (createScreen shared) (before ++ [e])).shared.gesturesPassword =
        (run (step frames) (createScreen shared) before).shared.gesturesPassword

/-! ## Strokes of the view -/

/-- The recognizer events of a history. -/
def panEvents (history : List Event) : List PanEvent :=
  history.filterMap fun
    | .pan e => some e
    | .resetGesturePassword => none

theorem drawn_concat (history : List Event) (e : Event) :
    drawn frames (history ++ [e]) = (drawn frames history).next frames e := by
  rw [drawn, List.foldl_append]
  rfl

/-- The redraw button leaves the view alone. -/
theorem drawn_view (history : List Event) :
    (drawn frames history).view = run (panStep frames) setup (panEvents history) := by
  induction history using List.reverseRecOn with
  | nil => rfl
  | append_singleton history e ih =>
      rw [drawn_concat, panEvents, List.filterMap_append, run_append, ← panEvents, ← ih]
      cases e <;> rfl

/-- A delivered stroke lists buttons without repetition. -/
theorem exists_nodup_of_stroke {history : List PanEvent} {e : PanEvent} {g : String}
    (h : (pan frames (run (panStep frames) setup history) e).2 = some g) :
    ∃ btns : List Button, btns.Nodup ∧ g = gesturePwd btns := by
  obtain ⟨state, point⟩ := e
  by_cases hstate : state = .ended
  · subst hstate
    rw [pan_ended] at h
    exact ⟨_, nodup_eraseDups _, (Option.some.inj h).symm⟩
  · unfold pan at h
    rw [if_neg hstate] at h
    cases h

theorem wellFormed_gesturePwd {btns : List Button} (hnodup : btns.Nodup)
    (hlong : 4 ≤ (gesturePwd btns).length) : WellFormed (gesturePwd btns) where
  four_le := hlong
  le_nine := by
    rw [← String.length_toList, toList_gesturePwd, List.length_map]
    simpa using hnodup.length_le_card
  nodup := by
    rw [toList_gesturePwd]
    exact hnodup.map Button.digit_injective
  digits := by
    have hdigit : ∀ button : Button, '0' ≤ button.digit ∧ button.digit ≤ '8' := by decide
    rw [toList_gesturePwd]
    intro c hc
    obtain ⟨button, -, rfl⟩ := List.mem_map.mp hc
    exact hdigit button

/-! ## What the controller keeps -/

theorem Drawn.firstLong_append (d : Drawn) (g : String) :
    { d with sinceReset := d.sinceReset ++ [g] }.firstLong =
      d.firstLong.or (if 4 ≤ g.length then some g else none) := by
  unfold Drawn.firstLong
  rw [List.find?_append]
  by_cases hlong : 4 ≤ g.length <;> simp [hlong]

theorem Drawn.four_le_of_firstLong {d : Drawn} {p : String} (h : d.firstLong = some p) :
    4 ≤ p.length := by
  simpa using List.find?_some h

section Controller

variable {vc : Controller} {g : String}

/-- Without a pending stroke, the controller takes one that is long enough. -/
theorem createGesturesPassword_of_none (h : vc.lastGesturePassword = none) :
    (createGesturesPassword vc g).1.lastGesturePassword =
        (if 4 ≤ g.length then some g else none) ∧
      ((createGesturesPassword vc g).1.resetHidden = true → ¬ 4 ≤ g.length) ∧
      ∀ completion, (createGesturesPassword vc g).2 ≠ .dismiss completion := by
  unfold createGesturesPassword
  by_cases hlong : 4 ≤ g.length
  · simp [h, hlong, Nat.not_lt.mpr hlong]
  · simp [h, hlong, Nat.not_le.mp hlong]

/-- With a pending stroke, the controller keeps it and waits for the same stroke. -/
theorem createGesturesPassword_of_some {p : String} (h : vc.lastGesturePassword = some p)
    (hp : p.length ≠ 0) :
    (createGesturesPassword vc g).1.lastGesturePassword = some p ∧
      (createGesturesPassword vc g).1.resetHidden = vc.resetHidden ∧
      (createGesturesPassword vc g).2 =
        if p = g then .dismiss (.addGesturesPassword g) else .shake := by
  unfold createGesturesPassword
  by_cases hpg : p = g
  · simp [h, hpg, hpg ▸ hp]
  · simp [h, hpg, hp]

end Controller

/-- The controller's pending stroke is the first long one since the last press of the redraw button,
which is hidden while there is none. -/
structure Creating (s : Screen) (d : Drawn) : Prop where
  view : s.view = d.view
  unlockType : s.controller.unlockType = .createPwd
  pending : s.controller.lastGesturePassword = d.firstLong
  resetHidden : s.controller.resetHidden = true → d.firstLong = none

theorem creating_createScreen (shared : Shared) :
    Creating (createScreen shared) (drawn frames []) where
  view := rfl
  unlockType := rfl
  pending := rfl
  resetHidden := fun _ => rfl

variable {s : Screen} {d : Drawn} {frames}

theorem Creating.drawRectFinished (h : Creating s d) (g : String) :
    drawRectFinished s.shared s.controller g =
      (s.shared, createGesturesPassword s.controller g) := by
  rw [GesturesUnlock.drawRectFinished, h.unlockType]

variable (frames) in
/-- An event stores a stroke that repeats the pending one. -/
theorem Creating.stores (h : Creating s d) (e : Event) :
    stores frames s e = (stroke frames s e).filter fun g => d.firstLong = some g := by
  unfold CreateGesture.stores
  cases hstroke : stroke frames s e with
  | none => rfl
  | some g =>
      rw [Option.bind_some, h.drawRectFinished]
      cases hpending : d.firstLong with
      | none =>
          have hnone := (createGesturesPassword_of_none (g := g) (h.pending.trans hpending)).2.2
          cases houtcome : (createGesturesPassword s.controller g).2 with
          | dismiss completion => exact absurd houtcome (hnone completion)
          | _ => simp
      | some p =>
          have hlong := Drawn.four_le_of_firstLong hpending
          have hsome := (createGesturesPassword_of_some (g := g) (h.pending.trans hpending)
            (by omega)).2.2
          rw [hsome]
          by_cases hpg : p = g <;> simp [hpg, Option.filter]

variable (frames) in
/-- What an event stores, and nothing else, becomes the stored password. -/
theorem Creating.shared (h : Creating s d) (e : Event) :
    (step frames s e).shared.gesturesPassword =
      (CreateGesture.stores frames s e).or s.shared.gesturesPassword := by
  cases e with
  | resetGesturePassword => rfl
  | pan e =>
      cases hstroke : stroke frames s (.pan e) with
      | none =>
          rw [step_of_no_stroke hstroke, CreateGesture.stores, hstroke]
          rfl
      | some g =>
          rw [step_of_stroke hstroke, CreateGesture.stores, hstroke]
          simp only [receive, Option.bind_some, h.drawRectFinished]
          cases houtcome : (createGesturesPassword s.controller g).2 with
          | dismiss completion =>
              obtain ⟨rfl, -, -⟩ := createGesturesPassword_dismiss houtcome
              rfl
          | _ => rfl

/-- A stroke keeps the pending stroke, or becomes it. -/
theorem Creating.receive (h : Creating s d) (g : String) (view : View) (strokes : List String) :
    Creating (receive { s with view := view } g)
      { view := view, strokes := strokes, sinceReset := d.sinceReset ++ [g] } := by
  have hfirst : Drawn.firstLong { view := view, strokes, sinceReset := d.sinceReset ++ [g] } =
      d.firstLong.or (if 4 ≤ g.length then some g else none) := d.firstLong_append g
  have hcontroller : (CreateGesture.receive { s with view := view } g).controller =
      (createGesturesPassword s.controller g).1 := by
    simp only [CreateGesture.receive, h.drawRectFinished]
  refine ⟨rfl, ?_, ?_, ?_⟩
  · rw [hcontroller, createGesturesPassword_unlockType, h.unlockType]
  · rw [hcontroller, hfirst]
    cases hpending : d.firstLong with
    | none => exact (createGesturesPassword_of_none (h.pending.trans hpending)).1
    | some p =>
        have hlong := Drawn.four_le_of_firstLong hpending
        exact (createGesturesPassword_of_some (h.pending.trans hpending) (by omega)).1
  · rw [hcontroller, hfirst]
    intro hhidden
    cases hpending : d.firstLong with
    | none =>
        have hshort := (createGesturesPassword_of_none (h.pending.trans hpending)).2.1 hhidden
        rw [if_neg hshort]
        rfl
    | some p =>
        -- the button has been showing since the pending stroke was drawn
        have hlong := Drawn.four_le_of_firstLong hpending
        rw [(createGesturesPassword_of_some (h.pending.trans hpending) (by omega)).2.1] at hhidden
        exact absurd (h.resetHidden hhidden) (by simp [hpending])

/-- One event keeps the pending stroke. -/
theorem Creating.step (h : Creating s d) (e : Event) :
    Creating (step frames s e) (d.next frames e) := by
  cases e with
  | resetGesturePassword =>
      -- the redraw button forgets the pending stroke, if there is one
      have hnone : Drawn.firstLong { d with sinceReset := [] } = none := rfl
      refine ⟨h.view, ?_, ?_, fun _ => hnone⟩
      · show (GesturesUnlock.resetGesturePassword s.controller).unlockType = .createPwd
        unfold GesturesUnlock.resetGesturePassword
        split_ifs <;> exact h.unlockType
      · show (GesturesUnlock.resetGesturePassword s.controller).lastGesturePassword = none
        unfold GesturesUnlock.resetGesturePassword
        split_ifs with hhidden
        · exact h.pending.trans (h.resetHidden hhidden)
        · rfl
  | pan e =>
      unfold Drawn.next
      rw [← h.view]
      cases hstroke : stroke frames s (.pan e) with
      | none =>
          -- only a delivered stroke reaches the controller
          have hpan : (pan frames s.view e).2 = none := hstroke
          rw [step_of_no_stroke hstroke]
          simp only [hpan, Option.toList_none, List.append_nil]
          exact ⟨rfl, h.unlockType, h.pending, h.resetHidden⟩
      | some g =>
          have hpan : (pan frames s.view e).2 = some g := hstroke
          rw [step_of_stroke hstroke]
          simp only [hpan, Option.toList_some]
          exact h.receive g _ _

variable (frames)

/-- Every run in create mode keeps the pending stroke. -/
theorem creating_run (shared : Shared) (history : List Event) :
    Creating (run (step frames) (createScreen shared) history) (drawn frames history) := by
  induction history using List.reverseRecOn with
  | nil => exact creating_createScreen frames shared
  | append_singleton history e ih =>
      rw [run_append, drawn_concat]
      exact ih.step e

/-- A stroke is the last one drawn, and leaves a pending stroke in place. -/
theorem drawn_of_stroke {shared : Shared} {before : List Event} {e : Event} {g : String}
    (h : stroke frames (run (step frames) (createScreen shared) before) e = some g) :
    (∃ btns : List Button, btns.Nodup ∧ g = gesturePwd btns) ∧
      (drawn frames (before ++ [e])).strokes.getLast? = some g ∧
      (drawn frames (before ++ [e])).firstLong =
        (drawn frames before).firstLong.or (if 4 ≤ g.length then some g else none) := by
  have hview := (creating_run frames shared before).view
  cases e with
  | resetGesturePassword => cases h
  | pan e =>
      rw [stroke, hview] at h
      refine ⟨?_, ?_, ?_⟩
      · rw [drawn_view] at h
        exact exists_nodup_of_stroke frames h
      · simp [drawn_concat, Drawn.next, h]
      · rw [← Drawn.firstLong_append]
        simp [drawn_concat, Drawn.next, Drawn.firstLong, h]

/-- Whatever is drawn, and whenever the redraw button is pressed, the password that is stored was
confirmed. -/
theorem create_storesConfirmed (shared : Shared) (before : List Event) (e : Event) :
    StoresConfirmed frames shared before e := by
  have hcreating := creating_run frames shared before
  have hshared := hcreating.shared frames e
  have hstores := hcreating.stores frames e
  have hrun : run (step frames) (createScreen shared) (before ++ [e]) =
      step frames (run (step frames) (createScreen shared) before) e := run_append _ _ _ _
  refine ⟨?_, ?_, ?_⟩
  · intro p hp
    obtain ⟨hstroke, hpending⟩ := Option.filter_eq_some_iff.mp (hstores.symm.trans hp)
    have hfirst : (drawn frames before).firstLong = some p := by simpa using hpending
    obtain ⟨⟨btns, hnodup, rfl⟩, hlast, hfirst'⟩ := drawn_of_stroke frames hstroke
    refine ⟨by rw [hrun, hshared, hp]; rfl, ?_, hlast, by rw [hfirst', hfirst]; rfl⟩
    exact wellFormed_gesturePwd hnodup (Drawn.four_le_of_firstLong hfirst)
  · intro hnone
    rw [hrun, hshared, hnone, Option.none_or]
  · intro g hstroke hrefused
    have hne : (drawn frames before).firstLong ≠ some g := by
      rcases hrefused with hshort | hne
      · -- a short stroke is never pending
        intro hfirst
        have hlong := Drawn.four_le_of_firstLong hfirst
        omega
      · exact hne
    have hnone : stores frames (run (step frames) (createScreen shared) before) e = none := by
      rw [hstores, hstroke]
      simp [Option.filter, hne]
    rw [hrun, hshared, hnone, Option.none_or]

/-- A stroke over the buttons 0, 1, 2 and 3. -/
def strokeZ : List Event :=
  [.pan ⟨.began, ⟨70, 70⟩⟩, .pan ⟨.changed, ⟨190, 70⟩⟩, .pan ⟨.changed, ⟨310, 70⟩⟩,
    .pan ⟨.ended, ⟨70, 190⟩⟩]

example : (run (step (layoutSubviews 414 414 896)) (createScreen ⟨none, 5⟩)
    (strokeZ ++ strokeZ)).shared.gesturesPassword = some "0123" := by decide +kernel

end PasswordPackage.CreateGesture
