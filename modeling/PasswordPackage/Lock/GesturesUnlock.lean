import PasswordPackage.Common.Run
import PasswordPackage.Settings.AppConfig

/-!
# The lock screen

`WUGesturesUnlockViewController` creates the gesture password or checks it. The stored password and
the counter of remaining tries outlive a lock screen: the first is in the user defaults, the second
is a static variable of `validateGesturesPassword:`. What a stroke stores or resets after a
dismissal happens in the completion block of that dismissal, which runs later.
-/

namespace PasswordPackage.GesturesUnlock

open Machine

/-! ## The controller -/

inductive WUUnlockType where
  | createPwd
  | validatePwd
deriving DecidableEq

/-- `kUnlockTryCount`. -/
def kUnlockTryCount : ℕ := 5

/-- What all lock screens share: the stored password and the static `errorCount`. -/
structure Shared where
  gesturesPassword : Option String
  errorCount : ℤ
deriving DecidableEq

/-- A lock screen. `systemLockView` says whether the system lock covers the gesture view. -/
structure Controller where
  unlockType : WUUnlockType
  lastGesturePassword : Option String
  indicator : String
  statusLabel : String
  resetHidden : Bool
  systemLockView : Bool
deriving DecidableEq

/-- `initWithUnlockType:`, with the texts of the nib. -/
def initWithUnlockType (unlockType : WUUnlockType) : Controller :=
  { unlockType := unlockType
    lastGesturePassword := none
    indicator := ""
    statusLabel := "请绘制手势密码"
    resetHidden := true
    systemLockView := false }

/-! ## Strokes -/

/-- The completion blocks of the dismissals a stroke asks for. -/
inductive Completion where
  | resetErrorCount
  | addGesturesPassword (gesturesPassword : String)
deriving DecidableEq

/-- What the completion block does. -/
def Completion.run (shared : Shared) : Completion → Shared
  | .resetErrorCount => { shared with errorCount := kUnlockTryCount }
  | .addGesturesPassword pwd => { shared with gesturesPassword := some pwd }

/-- What a stroke asks of the screen, besides a new status text. -/
inductive Outcome where
  | status
  | shake
  | alert (title detail : String)
  | dismiss (completion : Completion)
deriving DecidableEq

/-- The completion block of the dismissal, if there is one. -/
def Outcome.completions : Outcome → List Completion
  | .dismiss completion => [completion]
  | _ => []

@[simp] theorem Outcome.mem_completions {outcome : Outcome} {completion : Completion} :
    completion ∈ outcome.completions ↔ outcome = .dismiss completion := by
  cases outcome <;> simp [Outcome.completions, eq_comm]

/-- `createGesturesPassword:`. -/
def createGesturesPassword (vc : Controller) (gesturesPassword : String) : Controller × Outcome :=
  let last := vc.lastGesturePassword.getD ""
  if last.length = 0 then
    if gesturesPassword.length < 4 then
      ({ vc with statusLabel := "至少连接四个点，请重新输入" }, .shake)
    else
      ({ vc with
          resetHidden := false
          lastGesturePassword := some gesturesPassword
          indicator := gesturesPassword
          statusLabel := "请再次绘制手势密码" }, .status)
  else if last = gesturesPassword then
    (vc, .dismiss (.addGesturesPassword gesturesPassword))
  else
    ({ vc with statusLabel := "与上一次绘制不一致，请重新绘制" }, .shake)

/-- `validateGesturesPassword:`. -/
def validateGesturesPassword (shared : Shared) (vc : Controller) (gesturesPassword : String) :
    Shared × Controller × Outcome :=
  if some gesturesPassword = shared.gesturesPassword then
    (shared, vc, .dismiss .resetErrorCount)
  else if shared.errorCount - 1 = 0 then
    ({ shared with errorCount := kUnlockTryCount }, vc, .alert "手势密码已失效" "请重新登陆")
  else
    let errorCount := shared.errorCount - 1
    ({ shared with errorCount := errorCount },
      { vc with statusLabel := s!"密码错误，还可以再输入{errorCount}次" }, .shake)

/-- `gesturesUnlockView:drawRectFinished:`. -/
def drawRectFinished (shared : Shared) (vc : Controller) (gesturePassword : String) :
    Shared × Controller × Outcome :=
  match vc.unlockType with
  | .createPwd => (shared, createGesturesPassword vc gesturePassword)
  | .validatePwd => validateGesturesPassword shared vc gesturePassword

/-- `resetGesturePassword:`, the action of the redraw button. -/
def resetGesturePassword (vc : Controller) : Controller :=
  if vc.resetHidden then vc
  else
    { vc with
      lastGesturePassword := none
      indicator := ""
      statusLabel := "请绘制手势密码"
      resetHidden := true }

/-! ## Biometrics -/

/-- What `canEvaluatePolicy:` and `biometryType` report. -/
inductive Biometry where
  | none
  | touchID
  | faceID
deriving DecidableEq

/-- `canUseTouchID`. -/
def Biometry.canUseTouchID (biometry : Biometry) : Bool := biometry = .touchID

/-- `canUseFaceID`. -/
def Biometry.canUseFaceID (biometry : Biometry) : Bool := biometry = .faceID

/-- The evaluations a lock screen starts: `verifyTouchID`, `verifyFaceID` and `touchIdIsLocked`. -/
inductive Evaluation where
  | touchID
  | faceID
  | touchIdIsLocked
deriving DecidableEq

/-- The error codes `verifyTouchID` tells apart. -/
inductive LAError where
  | authenticationFailed
  | userCancel
  | userFallback
  | systemCancel
  | passcodeNotSet
  | biometryNotEnrolled
  | biometryNotAvailable
  | biometryLockout
  | appCancel
  | invalidContext
  | other
deriving DecidableEq

/-- What the system answers to an evaluation. -/
inductive LAReply where
  | success
  | error (code : LAError)
deriving DecidableEq

/-- What a reply block does on the main queue. -/
inductive ReplyAction where
  | dismiss
  | removeSystemLockView
  | touchIdIsLocked
  | log
deriving DecidableEq

/-- The reply block of an evaluation. -/
def Evaluation.reply : Evaluation → LAReply → ReplyAction
  | .touchID, .success => .dismiss
  | .touchID, .error .userFallback => .removeSystemLockView
  | .touchID, .error .biometryLockout => .touchIdIsLocked
  | .touchID, .error _ => .log
  | .faceID, .success => .dismiss
  | .faceID, .error _ => .log
  | .touchIdIsLocked, _ => .log

/-- The evaluations started by `viewDidLoad` and by the button of the system lock. -/
def verify (biometry : Biometry) : List Evaluation :=
  (if biometry.canUseTouchID then [.touchID] else []) ++
    (if biometry.canUseFaceID then [.faceID] else [])

/-- `viewDidLoad`: the screen as shown, and the evaluations it starts. -/
def viewDidLoad (config : AppConfig) (biometry : Biometry) (vc : Controller) :
    Controller × List Evaluation :=
  if config.userSystemLock ∧ vc.unlockType = .validatePwd then
    ({ vc with systemLockView := true }, verify biometry)
  else (vc, [])

/-! ## What a stroke does -/

@[simp] theorem createGesturesPassword_unlockType (vc : Controller) (g : String) :
    (createGesturesPassword vc g).1.unlockType = vc.unlockType := by
  unfold createGesturesPassword
  dsimp only
  split_ifs <;> rfl

@[simp] theorem validateGesturesPassword_unlockType (shared : Shared) (vc : Controller)
    (g : String) : (validateGesturesPassword shared vc g).2.1.unlockType = vc.unlockType := by
  unfold validateGesturesPassword
  split_ifs <;> rfl

@[simp] theorem drawRectFinished_unlockType (shared : Shared) (vc : Controller) (g : String) :
    (drawRectFinished shared vc g).2.1.unlockType = vc.unlockType := by
  unfold drawRectFinished
  split <;> simp

/-- No stroke writes the stored password: that is left to the completion block. -/
@[simp] theorem drawRectFinished_gesturesPassword (shared : Shared) (vc : Controller)
    (g : String) : (drawRectFinished shared vc g).1.gesturesPassword = shared.gesturesPassword := by
  unfold drawRectFinished validateGesturesPassword
  split
  · rfl
  · split_ifs <;> rfl

/-- In create mode a dismissal confirms the stroke drawn before, which is not empty. -/
theorem createGesturesPassword_dismiss {vc : Controller} {g : String} {completion : Completion}
    (h : (createGesturesPassword vc g).2 = .dismiss completion) :
    completion = .addGesturesPassword g ∧ vc.lastGesturePassword = some g ∧ g.length ≠ 0 := by
  unfold createGesturesPassword at h
  dsimp only at h
  split_ifs at h with hempty _ hlast
  refine ⟨(Outcome.dismiss.inj h).symm, ?_, ?_⟩
  · rw [hlast] at hempty
    cases hvc : vc.lastGesturePassword with
    | none => simp [hvc] at hlast; simp [← hlast] at hempty
    | some last => simpa [hvc] using hlast
  · rwa [← hlast]

/-- In validate mode a stroke dismisses the lock screen exactly when it is the stored password, and
the dismissal then resets the counter. -/
theorem validateGesturesPassword_dismiss {shared : Shared} {vc : Controller} {g : String}
    {completion : Completion} :
    (validateGesturesPassword shared vc g).2.2 = .dismiss completion ↔
      some g = shared.gesturesPassword ∧ completion = .resetErrorCount := by
  unfold validateGesturesPassword
  split_ifs with hstored hlast <;> simp [hstored, eq_comm]

/-! ## Runs of attempts -/

/-- A lock screen with what it shares with the others, and the completion blocks that have not run
yet. -/
structure Session where
  shared : Shared
  controller : Controller
  completions : List Completion
deriving DecidableEq

inductive Event where
  | stroke (gesturePassword : String)
  | completion
  | resetGesturePassword
  /-- Another validate-type lock screen takes the place of this one. -/
  | present
deriving DecidableEq

/-- One event. -/
def step (s : Session) : Event → Session
  | .stroke g =>
      let (shared, controller, outcome) := drawRectFinished s.shared s.controller g
      { shared := shared
        controller := controller
        completions := s.completions ++ outcome.completions }
  | .completion =>
      match s.completions with
      | [] => s
      | c :: rest => { s with shared := c.run s.shared, completions := rest }
  | .resetGesturePassword => { s with controller := resetGesturePassword s.controller }
  | .present => { s with controller := initWithUnlockType .validatePwd }

/-- The lock screen of a launch with the given stored password. -/
def validateSession (gesturesPassword : Option String) : Session :=
  { shared := { gesturesPassword := gesturesPassword, errorCount := kUnlockTryCount }
    controller := initWithUnlockType .validatePwd
    completions := [] }

/-- The outcome of a stroke. -/
def outcome (s : Session) (g : String) : Outcome :=
  (drawRectFinished s.shared s.controller g).2.2

/-- The strokes of a history. -/
def strokes (es : List Event) : List String :=
  es.filterMap fun
    | .stroke g => some g
    | _ => none

/-- `kUnlockTryCount` consecutive strokes of the history were wrong. -/
def Exhausted (gesturesPassword : Option String) (gs : List String) : Prop :=
  ∃ wrong, wrong <:+: gs ∧ wrong.length = kUnlockTryCount ∧ ∀ g ∈ wrong, some g ≠ gesturesPassword

/-- Once the tries are exhausted, no stroke of the run dismisses a lock screen. -/
def RetryLimited (gesturesPassword : Option String) (es : List Event) : Prop :=
  ∀ before g after, es = before ++ .stroke g :: after →
    Exhausted gesturesPassword (strokes before) →
      ∀ completion,
        outcome (run step (validateSession gesturesPassword) before) g ≠ .dismiss completion

/-- What every event of a validate-mode run keeps. -/
structure Validating (gesturesPassword : Option String) (s : Session) : Prop where
  unlockType : s.controller.unlockType = .validatePwd
  gesturesPassword : s.shared.gesturesPassword = gesturesPassword
  completions : ∀ completion ∈ s.completions, completion = .resetErrorCount

theorem validating_validateSession (gesturesPassword : Option String) :
    Validating gesturesPassword (validateSession gesturesPassword) where
  unlockType := rfl
  gesturesPassword := rfl
  completions := by simp [validateSession]

theorem Validating.drawRectFinished {gesturesPassword : Option String} {s : Session}
    (h : Validating gesturesPassword s) (g : String) :
    drawRectFinished s.shared s.controller g =
      validateGesturesPassword s.shared s.controller g := by
  rw [GesturesUnlock.drawRectFinished, h.unlockType]

theorem Validating.outcome {gesturesPassword : Option String} {s : Session}
    (h : Validating gesturesPassword s) {g : String} {completion : Completion} :
    outcome s g = .dismiss completion ↔
      some g = gesturesPassword ∧ completion = .resetErrorCount := by
  rw [GesturesUnlock.outcome, h.drawRectFinished, validateGesturesPassword_dismiss,
    h.gesturesPassword]

theorem Validating.step {gesturesPassword : Option String} {s : Session}
    (h : Validating gesturesPassword s) (e : Event) :
    Validating gesturesPassword (step s e) := by
  cases e with
  | stroke g =>
      refine ⟨?_, ?_, ?_⟩
      · exact (drawRectFinished_unlockType _ _ g).trans h.unlockType
      · exact (drawRectFinished_gesturesPassword _ _ g).trans h.gesturesPassword
      · intro completion hmem
        rcases List.mem_append.mp hmem with hold | hnew
        · exact h.completions completion hold
        · -- a new completion block comes from a dismissal by this stroke
          have hdismiss : GesturesUnlock.outcome s g = .dismiss completion :=
            Outcome.mem_completions.mp hnew
          exact (h.outcome.mp hdismiss).2
  | completion =>
      unfold GesturesUnlock.step
      cases hc : s.completions with
      | nil => simpa only [hc] using h
      | cons c rest =>
          have hreset : c = .resetErrorCount := h.completions c (by simp [hc])
          subst hreset
          exact ⟨h.unlockType, h.gesturesPassword, fun c hmem =>
            h.completions c (by simp [hc, hmem])⟩
  | resetGesturePassword =>
      refine ⟨?_, h.gesturesPassword, h.completions⟩
      show (GesturesUnlock.resetGesturePassword s.controller).unlockType = .validatePwd
      unfold GesturesUnlock.resetGesturePassword
      split_ifs <;> exact h.unlockType
  | present => exact ⟨rfl, h.gesturesPassword, h.completions⟩

/-- The tries are limited exactly in the runs that do not draw the stored password any more: the
code itself never refuses it. -/
theorem retryLimited_iff (gesturesPassword : Option String) (es : List Event) :
    RetryLimited gesturesPassword es ↔
      ∀ before g after, es = before ++ .stroke g :: after →
        Exhausted gesturesPassword (strokes before) → some g ≠ gesturesPassword := by
  have hstroke : ∀ (before : List Event) (g : String),
      (∀ completion, outcome (run step (validateSession gesturesPassword) before) g ≠
          .dismiss completion) ↔ some g ≠ gesturesPassword := by
    intro before g
    have hrun : Validating gesturesPassword
        (run step (validateSession gesturesPassword) before) :=
      run_invariant (fun _ e h => h.step e) (validating_validateSession gesturesPassword) before
    constructor
    · intro hnever hstored
      exact hnever .resetErrorCount (hrun.outcome.mpr ⟨hstored, rfl⟩)
    · intro hwrong completion hdismiss
      exact hwrong (hrun.outcome.mp hdismiss).1
  simp only [RetryLimited, hstroke]

/-- Five wrong strokes, then the right one. -/
def sixthTry : List Event :=
  List.replicate 5 (.stroke "3210") ++ [.stroke "0124"]

/-- The sixth stroke still dismisses the lock screen. -/
theorem not_retryLimited_sixthTry : ¬ RetryLimited (some "0124") sixthTry := by
  intro h
  have hwrong : Exhausted (some "0124") (strokes (List.replicate 5 (.stroke "3210"))) :=
    ⟨List.replicate 5 "3210", List.infix_rfl, rfl, by decide⟩
  exact h (List.replicate 5 (.stroke "3210")) "0124" [] rfl hwrong .resetErrorCount (by decide)

end PasswordPackage.GesturesUnlock
