import PasswordPackage.Common.Presentation
import PasswordPackage.Lock.GesturesUnlock

/-!
# The app as the lock sees it

The tab bar controller is the root of the window, and its first child is the navigation controller
of `MainViewController`. Everything else is presented: the lock screens on the tab bar controller at
launch, the other screens by the user or by a quick action. The events are the calls UIKit makes on
the app delegate, the user's actions, and the callbacks that run later.
-/

namespace PasswordPackage.AppDelegate

open GesturesUnlock

/-! ## State -/

/-- A presented view controller: a lock screen, or another screen under its class name. -/
inductive Screen where
  | lock (vc : Controller)
  | other (name : String)
deriving DecidableEq

/-- A presented view controller and its identity. -/
structure Presented where
  ident : ℕ
  screen : Screen
deriving DecidableEq

/-- What the app keeps. The first three groups of fields survive the process: the stored password
inside `shared`, the time of the last entry into the background, and the configuration file. -/
structure App where
  shared : Shared
  enterBackgroundTime : Option ℤ
  configFile : AppConfig.File
  /-- What is presented, from the tab bar controller upwards. -/
  chain : List Presented
  nextIdent : ℕ
  /-- The completion blocks of dismissals that have not run yet. -/
  completions : List Completion
  /-- The evaluations without a reply, with the lock screen that started them. -/
  evaluations : List (ℕ × Evaluation)
  /-- The shortcut action `viewDidLoad` has put off by half a second. -/
  shortCutActionName : Option String
  coverView : Bool
  selectedIndex : ℕ
  /-- The screens pushed over `MainViewController`. -/
  pushed : List String
deriving DecidableEq

/-- `[AppConfig config]`. -/
def App.config (a : App) : AppConfig :=
  AppConfig.config a.configFile

/-- The view controller the user sees, if one is presented. -/
def App.top (a : App) : Option Presented :=
  a.chain.getLast?

/-- Whether the user sees a lock screen. -/
def App.lockOnTop (a : App) : Bool :=
  match a.top with
  | some ⟨_, .lock _⟩ => true
  | _ => false

/-! ## Presenting and dismissing -/

/-- `dismissViewControllerAnimated:completion:` sent to a presented controller. -/
def dismiss (ident : ℕ) (a : App) : App :=
  { a with chain := Presentation.dismiss (fun p => p.ident = ident) a.chain }

/-- A child of the tab bar controller presents a screen. -/
def presentFromBase (name : String) (a : App) : App :=
  { a with
    chain := Presentation.presentFromBase ⟨a.nextIdent, .other name⟩ a.chain
    nextIdent := a.nextIdent + 1 }

/-- The tab bar controller presents a new lock screen. Its view is loaded unless it is refused. -/
def presentLock (unlockType : WUUnlockType) (biometry : Biometry) (a : App) : App :=
  let (vc, evaluations) := viewDidLoad a.config biometry (initWithUnlockType unlockType)
  { a with
    chain := Presentation.presentFromBase ⟨a.nextIdent, .lock vc⟩ a.chain
    nextIdent := a.nextIdent + 1
    evaluations :=
      if a.chain.isEmpty then a.evaluations ++ evaluations.map fun e => (a.nextIdent, e)
      else a.evaluations }

/-- Change a lock screen in place. -/
def modifyLock (ident : ℕ) (f : Controller → Controller) (p : Presented) : Presented :=
  match p.screen with
  | .lock vc => if p.ident = ident then ⟨ident, .lock (f vc)⟩ else p
  | .other _ => p

/-! ## Launch -/

/-- `lastPwd.length > 0`. -/
def App.hasPassword (a : App) : Bool :=
  0 < (a.shared.gesturesPassword.getD "").length

/-- `presentLoginViewController`. Before the window is key, `keyWindow` is nil and nothing is
presented. -/
def presentLoginViewController (keyWindow : Bool) (biometry : Biometry) (a : App) : App :=
  if a.hasPassword then
    if keyWindow then presentLock .validatePwd biometry a else a
  else a

/-- `timeStamp - lastTimeStamp >= duration`, with the default zero of `integerForKey:`. -/
def App.lockDue (a : App) (timeStamp : ℤ) : Bool :=
  let lastTimeStamp := a.enterBackgroundTime.getD 0
  lastTimeStamp ≠ 0 ∧ timeStamp - lastTimeStamp ≥ a.config.autoLockDuration

/-- `shortCutActionWithName:`. -/
def shortCutActionWithName (name : String) (a : App) : App :=
  let a := if name = "Create" then presentFromBase "CreatePasswordViewController" a else a
  let a := if name = "Bank" then presentFromBase "InputCartViewController" a else a
  if name = "Site" then presentFromBase "SearchItemViewController" a else a

/-- What a cold launch meets: the clock, whether the window is already key, the biometric hardware
and the quick action the app was opened with. -/
structure LaunchOptions where
  timeStamp : ℤ
  keyWindow : Bool
  biometry : Biometry
  shortcutItem : Option String
deriving DecidableEq

/-- A new process over what the last one left on disk. -/
def newProcess (gesturesPassword : Option String) (enterBackgroundTime : Option ℤ)
    (configFile : AppConfig.File) : App :=
  { shared := { gesturesPassword := gesturesPassword, errorCount := kUnlockTryCount }
    enterBackgroundTime := enterBackgroundTime
    configFile := configFile
    chain := []
    nextIdent := 0
    completions := []
    evaluations := []
    shortCutActionName := none
    coverView := false
    selectedIndex := 0
    pushed := [] }

/-- `application:didFinishLaunchingWithOptions:`. -/
def didFinishLaunching (options : LaunchOptions) (a : App) : App :=
  let a :=
    if a.lockDue options.timeStamp then
      presentLoginViewController options.keyWindow options.biometry a
    else a
  match options.shortcutItem with
  | none => a
  | some type => if type.length = 0 then a else { a with shortCutActionName := some type }

/-- `viewDidLoad` of `MainViewController`, as far as the lock is concerned. -/
def mainViewDidLoad (biometry : Biometry) (a : App) : App :=
  if a.shared.gesturesPassword = none ∨ (a.shared.gesturesPassword.getD "").length = 0 then
    presentLock .createPwd biometry a
  else presentLock .validatePwd biometry a

/-- A cold launch: the delegate first, then the view of the first tab. -/
def launch (gesturesPassword : Option String) (enterBackgroundTime : Option ℤ)
    (configFile : AppConfig.File) (options : LaunchOptions) : App :=
  mainViewDidLoad options.biometry
    (didFinishLaunching options (newProcess gesturesPassword enterBackgroundTime configFile))

/-! ## Events on the lock screen -/

/-- A stroke reaches the gesture view when the lock screen is on top and nothing covers it. -/
def stroke (gesturePassword : String) (a : App) : App :=
  match a.top with
  | some ⟨ident, .lock vc⟩ =>
      if vc.systemLockView then a
      else
        let (shared, vc', outcome) := drawRectFinished a.shared vc gesturePassword
        let a :=
          { a with
            shared := shared
            chain := a.chain.map (modifyLock ident fun _ => vc')
            completions := a.completions ++ outcome.completions }
        match outcome with
        | .dismiss _ => dismiss ident a
        | _ => a
  | _ => a

/-- The completion block of the oldest dismissal runs. -/
def completion (a : App) : App :=
  match a.completions with
  | [] => a
  | c :: rest => { a with shared := c.run a.shared, completions := rest }

/-- The button that draws the gesture again. -/
def resetGesture (a : App) : App :=
  match a.top with
  | some ⟨ident, .lock vc⟩ =>
      if vc.systemLockView then a
      else { a with chain := a.chain.map (modifyLock ident resetGesturePassword) }
  | _ => a

/-- `pressedSystemLockButton:` of the system lock. -/
def pressedSystemLockButton (biometry : Biometry) (a : App) : App :=
  match a.top with
  | some ⟨ident, .lock vc⟩ =>
      if vc.systemLockView then
        { a with evaluations := a.evaluations ++ (verify biometry).map fun e => (ident, e) }
      else a
  | _ => a

/-- Take the system lock away from a lock screen. -/
def removeSystemLockView (vc : Controller) : Controller :=
  { vc with systemLockView := false }

/-- `pressedGestureUnlockButton:` of the system lock. -/
def pressedGestureUnlockButton (a : App) : App :=
  match a.top with
  | some ⟨ident, .lock _⟩ => { a with chain := a.chain.map (modifyLock ident removeSystemLockView) }
  | _ => a

/-- The `i`-th evaluation without a reply gets one. -/
def evaluationReply (i : ℕ) (reply : LAReply) (a : App) : App :=
  match a.evaluations[i]? with
  | none => a
  | some (ident, evaluation) =>
      let a := { a with evaluations := a.evaluations.eraseIdx i }
      match evaluation.reply reply with
      | .dismiss => dismiss ident a
      | .removeSystemLockView =>
          { a with chain := a.chain.map (modifyLock ident removeSystemLockView) }
      | .touchIdIsLocked => { a with evaluations := a.evaluations ++ [(ident, .touchIdIsLocked)] }
      | .log => a

/-! ## Events on the app delegate -/

/-- `applicationDidEnterBackground:`. -/
def applicationDidEnterBackground (timeStamp : ℤ) (a : App) : App :=
  { a with coverView := true, enterBackgroundTime := some timeStamp }

/-- `applicationWillEnterForeground:`. -/
def applicationWillEnterForeground (timeStamp : ℤ) (a : App) : App :=
  let a := { a with coverView := false }
  -- the call that would present the lock screen is commented out
  if a.lockDue timeStamp then a else a

/-- `presentingViewController` of `MainViewController`: it, the navigation controller and the tab
bar controller are at the base. -/
def presentingViewController (_ : App) : Option Presented := none

/-- The controller that a child of the tab bar controller calls `presentedViewController` is
dismissed. -/
def dismissPresented (a : App) : App :=
  { a with chain := Presentation.dismiss (fun _ => true) a.chain }

/-- `application:performActionForShortcutItem:completionHandler:`. -/
def performActionForShortcutItem (type : String) (a : App) : App :=
  let a := { a with selectedIndex := 0, pushed := [] }
  let a := if a.chain ≠ [] then dismissPresented a else a
  let a := if presentingViewController a ≠ none then dismissPresented a else a
  shortCutActionWithName type a

/-- The block `viewDidLoad` has put off. -/
def shortCutTimer (a : App) : App :=
  match a.shortCutActionName with
  | none => a
  | some name => shortCutActionWithName name { a with shortCutActionName := none }

/-! ## The user behind the lock -/

/-- The user opens a screen from the one on top. -/
def presentScreen (name : String) (a : App) : App :=
  if a.lockOnTop then a
  else
    { a with
      chain := a.chain ++ [⟨a.nextIdent, .other name⟩]
      nextIdent := a.nextIdent + 1 }

/-- The user closes the screen on top. -/
def dismissScreen (a : App) : App :=
  match a.top with
  | some ⟨ident, .other _⟩ => dismiss ident a
  | _ => a

/-- `pressedConfirmButton:` of `SetAutoLockViewController`. -/
def confirmAutoLock (autoLockValue : ℤ) (a : App) : App :=
  match a.top with
  | some ⟨ident, .other "SetAutoLockViewController"⟩ =>
      dismiss ident
        { a with
          configFile := AppConfig.saveConfig { a.config with autoLockDuration := autoLockValue } }
  | _ => a

/-- The system-lock switch of the settings. -/
def setUserSystemLock (isOn : Bool) (a : App) : App :=
  if a.chain = [] then
    { a with configFile := AppConfig.saveConfig { a.config with userSystemLock := isOn } }
  else a

/-- The user selects a tab. -/
def selectTab (index : ℕ) (a : App) : App :=
  if a.chain = [] then { a with selectedIndex := index } else a

/-- The user opens a screen in the navigation controller. -/
def pushScreen (name : String) (a : App) : App :=
  if a.chain = [] then { a with pushed := a.pushed ++ [name] } else a

/-! ## Runs -/

inductive Event where
  /-- The process is gone, and the app is launched again. -/
  | launch (options : LaunchOptions)
  | stroke (gesturePassword : String)
  | completion
  | resetGesture
  | pressedSystemLockButton (biometry : Biometry)
  | pressedGestureUnlockButton
  | evaluationReply (i : ℕ) (reply : LAReply)
  | applicationDidEnterBackground (timeStamp : ℤ)
  | applicationWillEnterForeground (timeStamp : ℤ)
  | performActionForShortcutItem (type : String)
  | shortCutTimer
  | presentScreen (name : String)
  | dismissScreen
  | confirmAutoLock (autoLockValue : ℤ)
  | setUserSystemLock (isOn : Bool)
  | selectTab (index : ℕ)
  | pushScreen (name : String)
deriving DecidableEq

def step (a : App) : Event → App
  | .launch options => launch a.shared.gesturesPassword a.enterBackgroundTime a.configFile options
  | .stroke gesturePassword => stroke gesturePassword a
  | .completion => completion a
  | .resetGesture => resetGesture a
  | .pressedSystemLockButton biometry => pressedSystemLockButton biometry a
  | .pressedGestureUnlockButton => pressedGestureUnlockButton a
  | .evaluationReply i reply => evaluationReply i reply a
  | .applicationDidEnterBackground timeStamp => applicationDidEnterBackground timeStamp a
  | .applicationWillEnterForeground timeStamp => applicationWillEnterForeground timeStamp a
  | .performActionForShortcutItem type => performActionForShortcutItem type a
  | .shortCutTimer => shortCutTimer a
  | .presentScreen name => presentScreen name a
  | .dismissScreen => dismissScreen a
  | .confirmAutoLock autoLockValue => confirmAutoLock autoLockValue a
  | .setUserSystemLock isOn => setUserSystemLock isOn a
  | .selectTab index => selectTab index a
  | .pushScreen name => pushScreen name a

end PasswordPackage.AppDelegate
