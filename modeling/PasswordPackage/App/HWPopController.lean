import Mathlib.Logic.Function.Basic
import PasswordPackage.Common.Run

/-!
# Pop controllers

A message, or the sheet with a generated password, is shown by a pop controller, which keeps itself
in a static set from the block that presents it until its dismissal is complete. The view controller
that it shows points back to it without retaining it. A message dismisses itself after a while
through that pointer, and some messages can also be dismissed by a touch of their background. Blocks
on the main queue, timers, touches and transitions come in any order.
-/

namespace PasswordPackage.HWPopController

open Machine

/-! ## The controllers -/

/-- What a pop controller shows: whether it is a message, whose `viewDidLoad` delays a call of
`didTapToDismiss`, and whether a touch of the background dismisses it. -/
structure Kind where
  timed : Bool
  shouldDismissOnBackgroundTouch : Bool
deriving DecidableEq

/-- `showPopWithText:`. -/
def showPopWithText : Kind where
  timed := true
  shouldDismissOnBackgroundTouch := false

/-- `showCopySuccess` of the password screen. -/
def showCopySuccess : Kind where
  timed := true
  shouldDismissOnBackgroundTouch := true

/-- `pressedCopyButton:` of a suggestion. -/
def pressedCopyButton : Kind where
  timed := true
  shouldDismissOnBackgroundTouch := true

/-- The sheet of `pressedCreateButton:`, which has buttons. -/
def pressedCreateButton : Kind where
  timed := false
  shouldDismissOnBackgroundTouch := false

/-- `presented` says whether the container has a presenting view controller, `timer` whether the
delayed call is due, `retained` whether the controller is in `_retainedPopControllers`, and
`dismissing` how many dismissals have a completion that is still to run. -/
structure Pop where
  kind : Kind
  presented : Bool
  timer : Bool
  retained : Bool
  dismissing : ℕ
deriving DecidableEq

/-- `initWithViewController:`. -/
def Pop.create (kind : Kind) : Pop where
  kind := kind
  presented := false
  timer := false
  retained := false
  dismissing := 0

/-- The blocks that `presentInViewController:completion:` and `dismissWithCompletion:` dispatch.
They retain their controller. -/
inductive Block where
  | present (id : ℕ)
  | dismiss (id : ℕ)
deriving DecidableEq

/-- The controllers that have been created, by their number, and the main queue. -/
structure State where
  created : ℕ
  pops : ℕ → Pop
  mainQueue : List Block

/-- `nextBlock` runs a block; `answered` says whether a presentation is not refused, and whether the
dismissal of a container that is not presented, or already on its way out, has its completion run.
`dismissedByOther` is a dismissal that does not go through the controller. -/
inductive Event where
  | presentInViewController (kind : Kind)
  | nextBlock (answered : Bool)
  | didTapToDismiss (id : ℕ)
  | didTapBackgroundView (id : ℕ)
  | pressedButton (id : ℕ)
  | dismissed (id : ℕ)
  | dismissedByOther (id : ℕ)
deriving DecidableEq

def State.modify (s : State) (id : ℕ) (f : Pop → Pop) : State :=
  { s with pops := Function.update s.pops id (f (s.pops id)) }

/-- `dismissWithCompletion:`. -/
def State.dismissWithCompletion (s : State) (id : ℕ) : State :=
  if (s.pops id).presented then { s with mainQueue := s.mainQueue ++ [.dismiss id] } else s

/-- The block of `presentInViewController:completion:`. -/
def State.runPresent (s : State) (answered : Bool) (id : ℕ) : State :=
  s.modify id fun pop =>
    if answered then { pop with retained := true, presented := true, timer := pop.kind.timed }
    else { pop with retained := true }

/-- The block of `dismissWithCompletion:`. -/
def State.runDismiss (s : State) (answered : Bool) (id : ℕ) : State :=
  if ((s.pops id).presented ∧ (s.pops id).dismissing = 0) ∨ answered then
    s.modify id fun pop => { pop with dismissing := pop.dismissing + 1 }
  else s

/-- What can be touched is on the screen and not on its way out. -/
def Pop.touchable (pop : Pop) : Bool :=
  pop.presented ∧ pop.dismissing = 0

def step (s : State) : Event → State
  | .presentInViewController kind =>
      { created := s.created + 1
        pops := Function.update s.pops s.created (Pop.create kind)
        mainQueue := s.mainQueue ++ [.present s.created] }
  | .nextBlock answered =>
      match s.mainQueue with
      | [] => s
      | .present id :: queue => { s with mainQueue := queue }.runPresent answered id
      | .dismiss id :: queue => { s with mainQueue := queue }.runDismiss answered id
  | .didTapToDismiss id =>
      if (s.pops id).timer then
        (s.modify id fun pop => { pop with timer := false }).dismissWithCompletion id
      else s
  | .didTapBackgroundView id =>
      if (s.pops id).touchable ∧ (s.pops id).kind.shouldDismissOnBackgroundTouch then
        s.dismissWithCompletion id
      else s
  | .pressedButton id =>
      if (s.pops id).touchable ∧ (s.pops id).kind.timed = false then s.dismissWithCompletion id
      else s
  | .dismissed id =>
      if (s.pops id).dismissing = 0 then s
      else
        s.modify id fun pop =>
          { pop with dismissing := pop.dismissing - 1, presented := false, retained := false }
  | .dismissedByOther id => s.modify id fun pop => { pop with presented := false }

def start : State where
  created := 0
  pops _ := Pop.create pressedCreateButton
  mainQueue := []

/-! ## One controller -/

/-- A controller, and how many blocks of each sort it has on the main queue. -/
structure View where
  pop : Pop
  waiting : ℕ
  asked : ℕ

def view (s : State) (id : ℕ) : View where
  pop := s.pops id
  waiting := s.mainQueue.count (.present id)
  asked := s.mainQueue.count (.dismiss id)

/-- A controller that has not been created. -/
def fresh : View where
  pop := Pop.create pressedCreateButton
  waiting := 0
  asked := 0

/-- All that an event can do to a controller, once it has been created. -/
inductive Move : View → View → Prop where
  | stays (v : View) : Move v v
  | refuse (pop : Pop) (waiting asked : ℕ) :
      Move ⟨pop, waiting + 1, asked⟩ ⟨{ pop with retained := true }, waiting, asked⟩
  | present (pop : Pop) (waiting asked : ℕ) :
      Move ⟨pop, waiting + 1, asked⟩
        ⟨{ pop with retained := true, presented := true, timer := pop.kind.timed },
          waiting, asked⟩
  | dismiss (pop : Pop) (waiting asked : ℕ) :
      Move ⟨pop, waiting, asked + 1⟩
        ⟨{ pop with dismissing := pop.dismissing + 1 }, waiting, asked⟩
  | ignore (pop : Pop) (waiting asked : ℕ)
      (hgone : pop.presented = true → pop.dismissing ≠ 0) :
      Move ⟨pop, waiting, asked + 1⟩ ⟨pop, waiting, asked⟩
  | expire (pop : Pop) (waiting asked : ℕ) (htimer : pop.timer = true) :
      Move ⟨pop, waiting, asked⟩
        ⟨{ pop with timer := false }, waiting, if pop.presented then asked + 1 else asked⟩
  | ask (pop : Pop) (waiting asked : ℕ) (hpresented : pop.presented = true)
      (hkind : pop.kind.shouldDismissOnBackgroundTouch = true ∨ pop.kind.timed = false) :
      Move ⟨pop, waiting, asked⟩ ⟨pop, waiting, asked + 1⟩
  | complete (pop : Pop) (waiting asked : ℕ) (hdismissing : pop.dismissing ≠ 0) :
      Move ⟨pop, waiting, asked⟩
        ⟨{ pop with dismissing := pop.dismissing - 1, presented := false, retained := false },
          waiting, asked⟩
  | takenDown (pop : Pop) (waiting asked : ℕ) :
      Move ⟨pop, waiting, asked⟩ ⟨{ pop with presented := false }, waiting, asked⟩

variable {s : State} {id id' : ℕ}

theorem view_modify (s : State) (id : ℕ) (f : Pop → Pop) :
    view (s.modify id f) id = { view s id with pop := f (s.pops id) } := by
  unfold view State.modify
  dsimp only
  rw [Function.update_self]

theorem view_modify_of_ne (hne : id ≠ id') (f : Pop → Pop) :
    view (s.modify id' f) id = view s id := by
  unfold view State.modify
  dsimp only
  rw [Function.update_of_ne hne]

theorem view_dismissWithCompletion (s : State) (id : ℕ) :
    view (s.dismissWithCompletion id) id =
      { view s id with
        asked := if (s.pops id).presented then (view s id).asked + 1 else (view s id).asked } := by
  unfold State.dismissWithCompletion
  split_ifs
  · unfold view
    dsimp only
    rw [List.count_append, List.count_append, List.count_singleton_self, List.count_singleton,
      if_neg (by simp), Nat.add_zero]
  · rfl

theorem view_dismissWithCompletion_of_ne (hne : id ≠ id') :
    view (s.dismissWithCompletion id') id = view s id := by
  unfold State.dismissWithCompletion
  split_ifs
  · unfold view
    dsimp only
    rw [List.count_append, List.count_append, List.count_singleton, List.count_singleton,
      if_neg (by simp), if_neg (by simpa using hne.symm), Nat.add_zero, Nat.add_zero]
  · rfl

/-- A block of another controller does not count. -/
theorem view_cons_of_ne {queue : List Block} (hne : id ≠ id') (block : Block)
    (hblock : block = .present id' ∨ block = .dismiss id')
    (hqueue : s.mainQueue = block :: queue) :
    view { s with mainQueue := queue } id = view s id := by
  unfold view
  dsimp only
  rw [hqueue]
  rcases hblock with rfl | rfl
  · rw [List.count_cons_of_ne (by simpa using hne.symm), List.count_cons_of_ne (by simp)]
  · rw [List.count_cons_of_ne (by simp), List.count_cons_of_ne (by simpa using hne.symm)]


theorem move_dismissWithCompletion (s : State) (id : ℕ)
    (hkind : (s.pops id).kind.shouldDismissOnBackgroundTouch = true ∨
      (s.pops id).kind.timed = false) :
    Move (view s id) (view (s.dismissWithCompletion id) id) := by
  rw [view_dismissWithCompletion]
  split_ifs with hpresented
  · exact .ask _ _ _ hpresented hkind
  · exact .stays _

theorem move_nextBlock (s : State) (answered : Bool) (id : ℕ) :
    Move (view s id) (view (step s (.nextBlock answered)) id) := by
  rcases hqueue : s.mainQueue with _ | ⟨block, queue⟩
  · -- the block of a presentation
    rw [step, hqueue]
    exact .stays _
  · rcases block with id' | id'
    · rw [step, hqueue]
      dsimp only
      unfold State.runPresent
      rcases eq_or_ne id id' with rfl | hne
      · have hview : view s id =
            ⟨s.pops id, queue.count (.present id) + 1, queue.count (.dismiss id)⟩ := by
          unfold view
          rw [hqueue, List.count_cons_self, List.count_cons_of_ne (by simp)]
        rw [view_modify, hview]
        -- the block was one of those that the view counts
        cases answered
        · exact .refuse _ _ _
        · exact .present _ _ _
      · rw [view_modify_of_ne hne, view_cons_of_ne hne _ (.inl rfl) hqueue]
        exact .stays _
    · -- the block of a dismissal, which does something if it is presented or under way
      rw [step, hqueue]
      dsimp only
      unfold State.runDismiss
      rcases eq_or_ne id id' with rfl | hne
      · have hview : view s id =
            ⟨s.pops id, queue.count (.present id), queue.count (.dismiss id) + 1⟩ := by
          unfold view
          rw [hqueue, List.count_cons_self, List.count_cons_of_ne (by simp)]
        split_ifs with hanswered
        · rw [view_modify, hview]
          exact .dismiss _ _ _
        · rw [hview]
          exact .ignore _ _ _ fun hpresented hzero => hanswered (.inl ⟨hpresented, hzero⟩)
      · split_ifs
        · rw [view_modify_of_ne hne, view_cons_of_ne hne _ (.inr rfl) hqueue]
          exact .stays _
        · rw [view_cons_of_ne hne _ (.inr rfl) hqueue]
          exact .stays _

/-- An event of a controller moves that controller and no other. -/
theorem move_of_others {s' : State} (id' : ℕ) (hself : id = id' → Move (view s id) (view s' id))
    (hother : id ≠ id' → view s' id = view s id) : Move (view s id) (view s' id) := by
  rcases eq_or_ne id id' with heq | hne
  · exact hself heq
  · rw [hother hne]
    exact .stays _

/-- Every event moves every controller, except for the one that it creates. -/
theorem move_step (s : State) (e : Event) (id : ℕ)
    (hcreated : ∀ kind, e = .presentInViewController kind → id ≠ s.created) :
    Move (view s id) (view (step s e) id) := by
  cases e with
  | presentInViewController kind =>
      -- a new controller has another number, and so has its block
      have hne := hcreated kind rfl
      have hview : view (step s (.presentInViewController kind)) id = view s id := by
        unfold view step
        dsimp only
        rw [Function.update_of_ne hne, List.count_append, List.count_append, List.count_singleton,
          List.count_singleton, if_neg (by simpa using hne.symm), if_neg (by simp), Nat.add_zero,
          Nat.add_zero]
      rw [hview]
      exact .stays _
  | nextBlock answered => exact move_nextBlock s answered id
  | didTapToDismiss id' =>
      rw [step]
      split_ifs with htimer
      · refine move_of_others id' ?_ fun hne => ?_
        · -- the timer is over, and a controller that is presented asks for its dismissal
          rintro rfl
          rw [view_dismissWithCompletion, view_modify]
          have hpresented : ((s.modify id fun pop => { pop with timer := false }).pops id).presented =
              (s.pops id).presented :=
            congrArg (·.pop.presented) (view_modify s id fun pop => { pop with timer := false })
          rw [hpresented]
          exact .expire _ _ _ htimer
        · rw [view_dismissWithCompletion_of_ne hne, view_modify_of_ne hne]
      · exact .stays _
  | didTapBackgroundView id' =>
      rw [step]
      split_ifs with htouch
      · refine move_of_others id' ?_ fun hne => view_dismissWithCompletion_of_ne hne
        rintro rfl
        exact move_dismissWithCompletion s id (.inl htouch.2)
      · exact .stays _
  | pressedButton id' =>
      rw [step]
      split_ifs with htouch
      · refine move_of_others id' ?_ fun hne => view_dismissWithCompletion_of_ne hne
        rintro rfl
        exact move_dismissWithCompletion s id (.inr htouch.2)
      · exact .stays _
  | dismissed id' =>
      rw [step]
      split_ifs with hdismissing
      · exact .stays _
      · refine move_of_others id' ?_ fun hne => view_modify_of_ne hne _
        rintro rfl
        rw [view_modify]
        exact .complete _ _ _ hdismissing
  | dismissedByOther id' =>
      rw [step]
      refine move_of_others id' ?_ fun hne => view_modify_of_ne hne _
      rintro rfl
      rw [view_modify]
      exact .takenDown _ _ _

/-! ## Invariants of a run -/

/-- What can be told of one controller. A block that presents it is its first, and the only thing
that keeps it. A message that is on the screen is about to be dismissed, and one that cannot be
touched is kept until its delayed call has come. -/
structure Sound (v : View) : Prop where
  waiting : v.waiting ≠ 0 → v = ⟨Pop.create v.pop.kind, 1, 0⟩
  presented : v.pop.presented = true → v.pop.retained = true
  timer : v.pop.timer = true → v.pop.kind.timed = true
  message : v.pop.presented = true → v.pop.kind.timed = true →
    v.pop.timer = true ∨ v.asked ≠ 0 ∨ v.pop.dismissing ≠ 0
  untouched : v.pop.timer = true → v.pop.kind.shouldDismissOnBackgroundTouch = false →
    v.pop.retained = true ∧ v.pop.dismissing = 0 ∧ v.asked = 0

theorem Sound.created (kind : Kind) : Sound ⟨Pop.create kind, 1, 0⟩ where
  waiting _ := rfl
  presented h := by cases h
  timer h := by cases h
  message h := by cases h
  untouched h := by cases h

theorem Sound.fresh : Sound fresh where
  waiting h := absurd rfl h
  presented h := by cases h
  timer h := by cases h
  message h := by cases h
  untouched h := by cases h

/-- The block that presents a controller finds it as it was created. -/
theorem Sound.first {pop : Pop} {waiting asked : ℕ} (h : Sound ⟨pop, waiting + 1, asked⟩) :
    pop = Pop.create pop.kind ∧ waiting = 0 ∧ asked = 0 := by
  have hview := h.waiting (Nat.succ_ne_zero waiting)
  rw [View.mk.injEq] at hview
  exact ⟨hview.1, Nat.succ.inj hview.2.1, hview.2.2⟩

theorem Move.kind {v v' : View} (h : Move v v') : v'.pop.kind = v.pop.kind := by
  cases h <;> rfl

theorem Move.of_fresh {v : View} (h : Move fresh v) : v = fresh := by
  unfold fresh at h
  cases h with
  | stays => rfl
  | expire _ _ _ htimer => cases htimer
  | ask _ _ _ hpresented => cases hpresented
  | complete _ _ _ hdismissing => exact absurd rfl hdismissing
  | takenDown => rfl

theorem Sound.move {v v' : View} (h : Sound v) (hmove : Move v v') : Sound v' := by
  cases hmove with
  | stays => exact h
  | refuse pop waiting asked =>
      -- the first block of a controller, to which nothing has happened yet
      obtain ⟨hpop, rfl, rfl⟩ := h.first
      rw [hpop]
      exact
        { waiting := fun hne => absurd rfl hne
          presented := fun hpresented => by cases hpresented
          timer := fun htimer => by cases htimer
          message := fun hpresented => by cases hpresented
          untouched := fun htimer => by cases htimer }
  | present pop waiting asked =>
      -- the same block, which starts the timer of a message
      obtain ⟨hpop, rfl, rfl⟩ := h.first
      rw [hpop]
      exact
        { waiting := fun hne => absurd rfl hne
          presented := fun _ => rfl
          timer := fun htimer => htimer
          message := fun _ htimed => .inl htimed
          untouched := fun _ _ => ⟨rfl, rfl, rfl⟩ }
  | dismiss pop waiting asked =>
      -- another dismissal is under way: the timer is over, or there was a touch
      exact
        { waiting := fun hne => absurd (congrArg View.asked (h.waiting hne)) (Nat.succ_ne_zero _)
          presented := h.presented
          timer := h.timer
          message := fun _ _ => .inr (.inr (Nat.succ_ne_zero _))
          untouched := fun htimer htouch =>
            absurd (h.untouched htimer htouch).2.2 (Nat.succ_ne_zero _) }
  | ignore pop waiting asked hgone =>
      -- the block comes too late: the container is gone or on its way out
      exact
        { waiting := fun hne => absurd (congrArg View.asked (h.waiting hne)) (Nat.succ_ne_zero _)
          presented := h.presented
          timer := h.timer
          message := fun hpresented _ => .inr (.inr (hgone hpresented))
          untouched := fun htimer htouch =>
            absurd (h.untouched htimer htouch).2.2 (Nat.succ_ne_zero _) }
  | expire pop waiting asked htimer =>
      -- the delayed call of a message that is presented asks for its dismissal
      exact
        { waiting := fun hne => by
            have hcreate := congrArg (·.pop.timer) (h.waiting hne)
            exact absurd (htimer.symm.trans hcreate) (by simp [Pop.create])
          presented := h.presented
          timer := fun hfalse => by cases hfalse
          message := fun hpresented _ => by
            have hpresented' : pop.presented = true := hpresented
            exact .inr (.inl (by simp [hpresented']))
          untouched := fun hfalse => by cases hfalse }
  | ask pop waiting asked hpresented hkind =>
      -- a touch of the background asks, or one of a sheet, which has no timer
      exact
        { waiting := fun hne => by
            have hcreate := congrArg (·.pop.presented) (h.waiting hne)
            exact absurd (hpresented.symm.trans hcreate) (by simp [Pop.create])
          presented := h.presented
          timer := h.timer
          message := fun _ _ => .inr (.inl (Nat.succ_ne_zero _))
          untouched := fun htimer htouch => by
            rcases hkind with hdismisses | htimed
            · exact absurd (htouch.symm.trans hdismisses) (by simp)
            · exact absurd (htimed.symm.trans (h.timer htimer)) (by simp) }
  | complete pop waiting asked hdismissing =>
      -- a completed dismissal cannot come before the timer without a touch
      exact
        { waiting := fun hne =>
            absurd (congrArg (·.pop.dismissing) (h.waiting hne)) hdismissing
          presented := fun hfalse => by cases hfalse
          timer := h.timer
          message := fun hfalse => by cases hfalse
          untouched := fun htimer htouch => absurd (h.untouched htimer htouch).2.1 hdismissing }
  | takenDown pop waiting asked =>
      -- the container is gone, but the timer goes on
      exact
        { waiting := fun hne => by
            have hcreate := h.waiting hne
            rw [View.mk.injEq] at hcreate ⊢
            exact ⟨by rw [hcreate.1]; rfl, hcreate.2⟩
          presented := fun hfalse => by cases hfalse
          timer := h.timer
          message := fun hfalse => by cases hfalse
          untouched := h.untouched }

/-- Numbers are given in turn. -/
structure WellFormed (s : State) : Prop where
  fresh : ∀ id, s.created ≤ id → view s id = fresh
  sound : ∀ id, Sound (view s id)

theorem WellFormed.start : WellFormed start where
  fresh _ _ := rfl
  sound _ := Sound.fresh

theorem WellFormed.view_created (h : WellFormed s) (kind : Kind) :
    view (step s (.presentInViewController kind)) s.created = ⟨Pop.create kind, 1, 0⟩ := by
  have hfresh := h.fresh s.created (Nat.le_refl _)
  have hwaiting : s.mainQueue.count (.present s.created) = 0 := congrArg View.waiting hfresh
  have hasked : s.mainQueue.count (.dismiss s.created) = 0 := congrArg View.asked hfresh
  unfold view step
  dsimp only
  rw [Function.update_self, List.count_append, List.count_append, hwaiting, hasked,
    List.count_singleton_self, List.count_singleton, if_neg (by simp)]

theorem WellFormed.view_step (h : WellFormed s) (e : Event) (id : ℕ) :
    Move (view s id) (view (step s e) id) ∨
      ∃ kind, e = .presentInViewController kind ∧ id = s.created ∧
        view (step s e) id = ⟨Pop.create kind, 1, 0⟩ := by
  by_cases hcreated : ∃ kind, e = .presentInViewController kind ∧ id = s.created
  · obtain ⟨kind, rfl, rfl⟩ := hcreated
    exact .inr ⟨kind, rfl, rfl, h.view_created kind⟩
  · exact .inl (move_step s e id fun kind he hid => hcreated ⟨kind, he, hid⟩)

@[simp] theorem created_modify (s : State) (id : ℕ) (f : Pop → Pop) :
    (s.modify id f).created = s.created := rfl

@[simp] theorem mainQueue_modify (s : State) (id : ℕ) (f : Pop → Pop) :
    (s.modify id f).mainQueue = s.mainQueue := rfl

@[simp] theorem created_dismissWithCompletion (s : State) (id : ℕ) :
    (s.dismissWithCompletion id).created = s.created := by
  unfold State.dismissWithCompletion
  split_ifs <;> rfl

theorem created_nextBlock (s : State) (answered : Bool) :
    (step s (.nextBlock answered)).created = s.created := by
  rcases hqueue : s.mainQueue with _ | ⟨id | id, queue⟩
  · rw [step, hqueue]
  · rw [step, hqueue]
    rfl
  · rw [step, hqueue]
    dsimp only
    unfold State.runDismiss
    split_ifs <;> rfl

theorem created_le_step (s : State) (e : Event) : s.created ≤ (step s e).created := by
  rcases e with kind | answered | id | id | id | id | id
  · exact Nat.le_succ _
  · rw [created_nextBlock]
  all_goals
    rw [step]
    try split_ifs
    all_goals simp

theorem WellFormed.step (h : WellFormed s) (e : Event) : WellFormed (step s e) where
  fresh id hid := by
    rcases h.view_step e id with hmove | ⟨kind, rfl, rfl, -⟩
    · rw [h.fresh id ((created_le_step s e).trans hid)] at hmove
      exact hmove.of_fresh
    · exact absurd hid (Nat.not_succ_le_self _)
  sound id := by
    rcases h.view_step e id with hmove | ⟨kind, -, -, hview⟩
    · exact (h.sound id).move hmove
    · rw [hview]
      exact Sound.created kind

theorem wellFormed_run (es : List Event) : WellFormed (run step start es) := by
  have hstep : ∀ s e, WellFormed s → WellFormed (step s e) := fun s e hs => hs.step e
  exact run_invariant hstep WellFormed.start es

/-! ## The pointer back -/

/-- Someone retains the controller: the static set, the completion of a dismissal or a block. -/
def View.Alive (v : View) : Prop :=
  v.pop.retained = true ∨ v.pop.dismissing ≠ 0 ∨ v.waiting ≠ 0 ∨ v.asked ≠ 0

/-- A controller whose delayed call is due, or that is on the screen, has not been released: the
view controller that it shows still calls it. -/
def NoDangling (s : State) : Prop :=
  ∀ id, (s.pops id).timer = true ∨ (s.pops id).presented = true → (view s id).Alive

theorem Sound.alive {v : View} (h : Sound v)
    (hkind : v.pop.kind.timed = true → v.pop.kind.shouldDismissOnBackgroundTouch = false)
    (hcalled : v.pop.timer = true ∨ v.pop.presented = true) : v.Alive := by
  rcases hcalled with htimer | hpresented
  · exact .inl (h.untouched htimer (hkind (h.timer htimer))).1
  · exact .inl (h.presented hpresented)

/-- A touch, its dismissal and all that the dismissal needs, before the delayed call comes. -/
def touchedEarly (kind : Kind) : List Event :=
  [.presentInViewController kind, .nextBlock true, .didTapBackgroundView 0, .nextBlock true,
    .dismissed 0]

theorem not_noDangling_touchedEarly :
    ¬ NoDangling (run step start (touchedEarly ⟨true, true⟩)) := by
  intro h
  have halive := h 0 (.inl rfl)
  rcases halive with hretained | hdismissing | hwaiting | hasked
  · cases hretained
  · exact hdismissing rfl
  · exact hwaiting rfl
  · exact hasked rfl

/-- Controllers of the kinds `K` are never called after their release exactly when no message among
them can be dismissed by a touch. -/
theorem always_noDangling_iff (K : Kind → Prop) :
    (∀ es, (∀ kind, Event.presentInViewController kind ∈ es → K kind) →
        Always step NoDangling start es) ↔
      ∀ kind, K kind → kind.timed = true → kind.shouldDismissOnBackgroundTouch = false := by
  constructor
  · -- a message that is touched before its delayed call is left dangling
    intro h kind hK htimed
    by_contra htouch
    have hkind : kind = ⟨true, true⟩ := by
      obtain ⟨timed, touch⟩ := kind
      cases htimed
      cases touch
      · exact absurd rfl htouch
      · rfl
    have halways := h (touchedEarly kind) fun kind' hmem => by
      simp only [touchedEarly, List.mem_cons, Event.presentInViewController.injEq, reduceCtorEq,
        List.not_mem_nil, or_false] at hmem
      rw [hmem]
      exact hK
    rw [hkind] at halways
    exact not_noDangling_touchedEarly (always_iff_run.mp halways _ List.prefix_rfl)
  · intro hsafe es hes
    -- every controller is of one of the kinds, and sound
    let Inv : State → Prop := fun s => WellFormed s ∧ ∀ id,
      (s.pops id).kind.timed = true → (s.pops id).kind.shouldDismissOnBackgroundTouch = false
    have hguarded : Guarded step (fun _ e => ∀ kind, e = .presentInViewController kind → K kind)
        start es := by
      rw [guarded_iff_split]
      rintro pre e post rfl kind rfl
      exact hes kind (List.mem_append_right _ List.mem_cons_self)
    have hinv : Always step Inv start es := by
      refine hguarded.always ?_ ⟨WellFormed.start, fun id h => by cases h⟩
      rintro s e ⟨hs, hkinds⟩ hK
      refine ⟨hs.step e, fun id => ?_⟩
      rcases hs.view_step e id with hmove | ⟨kind, he, -, hview⟩
      · have hkind : ((step s e).pops id).kind = (s.pops id).kind := hmove.kind
        rw [hkind]
        exact hkinds id
      · have hkind : ((step s e).pops id).kind = kind := congrArg (·.pop.kind) hview
        rw [hkind]
        exact hsafe kind (hK kind he)
    exact hinv.mono fun s hs id => (hs.1.sound id).alive (hs.2 id)

/-! ## Controllers that are never released -/

/-- The controller is in the static set and nothing is left that can take it out. -/
structure Leaked (v : View) : Prop where
  retained : v.pop.retained = true
  notPresented : v.pop.presented = false
  notDismissing : v.pop.dismissing = 0
  notAsked : v.asked = 0

theorem Leaked.move {v v' : View} (h : Leaked v) (hsound : Sound v) (hmove : Move v v') :
    Leaked v' := by
  have hwaiting : v.waiting = 0 := by
    by_contra hne
    have hcreate := congrArg (·.pop.retained) (hsound.waiting hne)
    exact absurd (h.retained.symm.trans hcreate) (by simp [Pop.create])
  cases hmove with
  | stays => exact h
  | refuse => exact absurd hwaiting (Nat.succ_ne_zero _)
  | present => exact absurd hwaiting (Nat.succ_ne_zero _)
  | dismiss => exact absurd h.notAsked (Nat.succ_ne_zero _)
  | ignore => exact absurd h.notAsked (Nat.succ_ne_zero _)
  | expire pop waiting asked htimer =>
      have hpresented : pop.presented = false := h.notPresented
      exact { h with notAsked := by rw [hpresented]; exact h.notAsked }
  | ask pop waiting asked hpresented hkind =>
      exact absurd (h.notPresented.symm.trans hpresented) (by simp)
  | complete pop waiting asked hdismissing => exact absurd h.notDismissing hdismissing
  | takenDown => exact { h with notPresented := rfl }

theorem Leaked.step (h : Leaked (view s id)) (hs : WellFormed s) (e : Event) :
    Leaked (view (step s e) id) := by
  rcases hs.view_step e id with hmove | ⟨kind, rfl, rfl, -⟩
  · exact h.move (hs.sound id) hmove
  · have hretained := h.retained
    rw [hs.fresh s.created (Nat.le_refl _)] at hretained
    cases hretained

theorem leaked_run (h : Leaked (view s id)) (hs : WellFormed s) (es : List Event) :
    Leaked (view (run step s es) id) := by
  have hstep : ∀ s e, WellFormed s ∧ Leaked (view s id) →
      WellFormed (step s e) ∧ Leaked (view (step s e) id) :=
    fun s e h => ⟨h.1.step e, h.2.step h.1 e⟩
  exact (run_invariant hstep ⟨hs, h⟩ es).2

/-- The user touches the screen. -/
def Event.isTouch : Event → Bool
  | .didTapBackgroundView _ | .pressedButton _ => true
  | .presentInViewController _ | .nextBlock _ | .didTapToDismiss _ | .dismissed _
  | .dismissedByOther _ => false

/-- The controller can be released without a touch. -/
def Releases (s : State) (id : ℕ) : Prop :=
  ∃ es, ((run step s es).pops id).retained = false ∧ ∀ e ∈ es, e.isTouch = false

theorem Releases.cons {e : Event} (h : Releases (step s e) id) (he : e.isTouch = false) :
    Releases s id := by
  obtain ⟨es, hreleased, hes⟩ := h
  exact ⟨e :: es, hreleased, List.forall_mem_cons.mpr ⟨he, hes⟩⟩

/-- A dismissal that is under way is completed. -/
theorem releases_of_dismissing (hdismissing : (s.pops id).dismissing ≠ 0) : Releases s id := by
  refine ⟨[.dismissed id], ?_, by simp [Event.isTouch]⟩
  rw [run_cons, run_nil, step, if_neg hdismissing]
  have hview := view_modify s id fun pop =>
    { pop with dismissing := pop.dismissing - 1, presented := false, retained := false }
  exact congrArg (·.pop.retained) hview

/-- The main queue comes to every block. -/
theorem releases_of_asked (hasked : .dismiss id ∈ s.mainQueue) : Releases s id := by
  generalize hqueue : s.mainQueue = queue at hasked
  induction queue generalizing s with
  | nil => cases hasked
  | cons block queue ih =>
      by_cases hblock : block = .dismiss id
      · subst hblock
        -- the block is next, and the dismissal gets under way
        have hdismissing : ((step s (.nextBlock true)).pops id).dismissing ≠ 0 := by
          have hview := view_modify { s with mainQueue := queue } id fun pop =>
            { pop with dismissing := pop.dismissing + 1 }
          rw [step, hqueue]
          dsimp only
          unfold State.runDismiss
          rw [if_pos (.inr rfl)]
          have hsucc := congrArg (·.pop.dismissing) hview
          exact fun hzero => absurd (hsucc.symm.trans hzero) (Nat.succ_ne_zero _)
        exact (releases_of_dismissing hdismissing).cons rfl
      · -- another block is next, and leaves this one on the queue
        have hrest : (step s (.nextBlock true)).mainQueue = queue := by
          rw [step, hqueue]
          rcases block with id' | id'
          · rfl
          · dsimp only
            unfold State.runDismiss
            rw [if_pos (.inr rfl)]
            rfl
        have hnext : Releases (step s (.nextBlock true)) id :=
          ih hrest ((List.mem_cons.mp hasked).resolve_left fun heq => hblock heq.symm)
        exact hnext.cons rfl

theorem releases_of_dismissWithCompletion (hpresented : (s.pops id).presented = true) :
    Releases (s.dismissWithCompletion id) id := by
  refine releases_of_asked ?_
  unfold State.dismissWithCompletion
  rw [if_pos hpresented]
  exact List.mem_append_right _ (List.mem_singleton.mpr rfl)

/-- A message that is on the screen is dismissed by its delayed call. -/
theorem releases_of_message (hsound : Sound (view s id))
    (hpresented : (s.pops id).presented = true) (htimed : (s.pops id).kind.timed = true) :
    Releases s id := by
  rcases hsound.message hpresented htimed with htimer | hasked | hdismissing
  · have hpresented' :
        ((s.modify id fun pop => { pop with timer := false }).pops id).presented = true :=
      (congrArg (·.pop.presented)
        (view_modify s id fun pop => { pop with timer := false })).trans hpresented
    have hdue : (s.pops id).timer = true := htimer
    have hnext : Releases (step s (.didTapToDismiss id)) id := by
      rw [step, if_pos hdue]
      exact releases_of_dismissWithCompletion hpresented'
    exact hnext.cons rfl
  · exact releases_of_asked (List.count_pos_iff.mp (Nat.pos_of_ne_zero hasked))
  · exact releases_of_dismissing hdismissing

/-- A sheet that is on the screen is dismissed by its buttons. -/
theorem exists_released_of_sheet (hpresented : (s.pops id).presented = true)
    (htimed : (s.pops id).kind.timed = false) :
    ∃ es, ((run step s es).pops id).retained = false := by
  by_cases hdismissing : (s.pops id).dismissing = 0
  · have htouchable : (s.pops id).touchable = true := by
      unfold Pop.touchable
      exact decide_eq_true ⟨hpresented, hdismissing⟩
    obtain ⟨es, hes, -⟩ := releases_of_dismissWithCompletion hpresented
    refine ⟨.pressedButton id :: es, ?_⟩
    rw [run_cons, step, if_pos ⟨htouchable, htimed⟩]
    exact hes
  · obtain ⟨es, hes, -⟩ := releases_of_dismissing hdismissing
    exact ⟨es, hes⟩

/-- A controller that is not lost can be released, a message without a touch. -/
theorem exists_released (hsound : Sound (view s id)) (hleaked : ¬ Leaked (view s id)) :
    ∃ es, ((run step s es).pops id).retained = false ∧
      ((s.pops id).kind.timed = true → ∀ e ∈ es, e.isTouch = false) := by
  have hreleases : Releases s id → ∃ es, ((run step s es).pops id).retained = false ∧
      ((s.pops id).kind.timed = true → ∀ e ∈ es, e.isTouch = false) := by
    rintro ⟨es, hreleased, hes⟩
    exact ⟨es, hreleased, fun _ => hes⟩
  cases hretained : (s.pops id).retained with
  | false => exact ⟨[], hretained, fun _ _ he => absurd he List.not_mem_nil⟩
  | true =>
      by_cases hdismissing : (s.pops id).dismissing = 0
      · by_cases hasked : (view s id).asked = 0
        · -- only one that is on the screen is left
          have hpresented : (s.pops id).presented = true := by
            by_contra hnot
            exact hleaked ⟨hretained, Bool.eq_false_iff.mpr hnot, hdismissing, hasked⟩
          cases htimed : (s.pops id).kind.timed with
          | true => exact htimed ▸ hreleases (releases_of_message hsound hpresented htimed)
          | false =>
              obtain ⟨es, hes⟩ := exists_released_of_sheet hpresented htimed
              exact ⟨es, hes, fun hfalse => by cases hfalse⟩
        · exact hreleases
            (releases_of_asked (List.count_pos_iff.mp (Nat.pos_of_ne_zero hasked)))
      · exact hreleases (releases_of_dismissing hdismissing)

/-- After any run, a controller stays in the static set for ever exactly when its presentation was
refused, or its container was taken down by another, and no dismissal of it is asked for or under
way. Every other one can still be released, a message without a touch of the screen. -/
theorem always_retained_iff_leaked_and_exists_released (es : List Event) (id : ℕ) :
    ((∀ es', ((run step start (es ++ es')).pops id).retained = true) ↔
        Leaked (view (run step start es) id)) ∧
      (¬ Leaked (view (run step start es) id) →
        ∃ es', ((run step start (es ++ es')).pops id).retained = false ∧
          (((run step start es).pops id).kind.timed = true → ∀ e ∈ es', e.isTouch = false)) := by
  have hs : WellFormed (run step start es) := wellFormed_run es
  have hreleased : ¬ Leaked (view (run step start es) id) →
      ∃ es', ((run step start (es ++ es')).pops id).retained = false ∧
        (((run step start es).pops id).kind.timed = true → ∀ e ∈ es', e.isTouch = false) := by
    intro hleaked
    obtain ⟨es', hretained, hes'⟩ := exists_released (hs.sound id) hleaked
    exact ⟨es', by rwa [run_append], hes'⟩
  refine ⟨⟨fun h => ?_, fun h es' => ?_⟩, hreleased⟩
  · by_contra hleaked
    obtain ⟨es', hretained, -⟩ := hreleased hleaked
    exact absurd ((h es').symm.trans hretained) (by simp)
  · rw [run_append]
    exact (leaked_run h hs es').retained

end PasswordPackage.HWPopController
