import Mathlib.Tactic.IntervalCases
import PasswordPackage.Lock.GesturesUnlock
import PasswordPackage.Settings.SaveConfig

/-!
# The settings table

`SettingViewController` computes its rows in three places: `viewDidLoad` lists them once,
`cellForRowAtIndexPath:` builds a cell for a row, and `didSelectRowAtIndexPath:` dispatches a tap.
In the security section the first goes by the biometrics available when the screen was loaded, the
second by those available now, and the third by the saved setting of the system lock.
-/

namespace PasswordPackage.SettingViewController

open Machine LastWrite Settings
open GesturesUnlock (Biometry)

/-! ## The screen -/

/-- What `viewDidLoad` leaves in the controller. -/
structure Controller where
  isSupportFeedBack : Bool
  dataArray : List (List String)
deriving DecidableEq

def generalArray (isSupportFeedBack : Bool) : List String :=
  let generalArray := ["按键震动反馈", "备份到iCloud", "从iCloud恢复", "邮件导出"]
  if isSupportFeedBack = false then generalArray.eraseIdx 0 else generalArray

def securityArray (biometry : Biometry) : List String :=
  let securityArray := ["自动锁屏时间", "清理剪切板时间"]
  let securityArray :=
    if biometry.canUseFaceID then securityArray.insertIdx 1 "使用FaceID解锁" else securityArray
  if biometry.canUseTouchID then securityArray.insertIdx 1 "使用TouchID解锁" else securityArray

def themeArray (supportsAlternateIcons : Bool) : List String :=
  let themeArray := ["当前主题"]
  if supportsAlternateIcons then themeArray ++ ["Icon图片"] else themeArray

def supportArray : List String := ["意见反馈", "隐私协议", "版本号"]

/-- `viewDidLoad`. -/
def viewDidLoad (isSupportFeedBack : Bool) (biometry : Biometry) (supportsAlternateIcons : Bool) :
    Controller :=
  { isSupportFeedBack := isSupportFeedBack
    dataArray := [generalArray isSupportFeedBack, securityArray biometry,
      themeArray supportsAlternateIcons, supportArray] }

/-- `tableView:numberOfRowsInSection:`. -/
def numberOfRows (vc : Controller) (sec : ℕ) : ℕ :=
  (vc.dataArray.getD sec []).length

/-- What a detail label is computed from. -/
inductive Detail where
  | timeDescription (timeStamp : ℤ)
  | durationDescription (duration : ℤ)
  | themeDescription (theme : ℕ)
  | shortVersion
deriving DecidableEq

/-- The cells of the table. A normal cell may be left without a text. -/
inductive Cell where
  | switchCell (nameLabel : String) (isOn : Bool)
  | detailCell (nameLabel : String) (detailLabel : Detail)
  | normalCell (textLabel : Option String)
  | iconCell (imageName : String)
deriving DecidableEq

/-- The image of the icon cell. -/
def iconImageName (config : AppConfig) : String :=
  match config.iconFileName with
  | none => "7Icon-App-60x60"
  | some name => if name.length = 0 then "7Icon-App-60x60" else name

/-- The cell `tableView:cellForRowAtIndexPath:` falls back to. -/
def fallbackCell : Cell := .normalCell none

/-- `tableView:cellForRowAtIndexPath:`. Each branch lists its cells from row 0 on. -/
def cellForRow (vc : Controller) (appConfig : AppConfig) (biometry : Biometry) (sec row : ℕ) :
    Cell :=
  let feedBack := Cell.switchCell "震动反馈" appConfig.isSharkFeedBack
  let backUp := Cell.detailCell "备份到iCloud" (.timeDescription appConfig.lastUploadTimeStamp)
  let down := Cell.detailCell "从iCloud恢复" (.timeDescription appConfig.lastDownloadTimeStamp)
  let mailExport := Cell.normalCell (some "邮件导出")
  let systemLock := Cell.switchCell
    (if biometry.canUseTouchID then "使用TouchID解锁" else "使用FaceID解锁")
    appConfig.userSystemLock
  let autoLock := Cell.detailCell "自动锁屏时间" (.durationDescription appConfig.autoLockDuration)
  let clearPasteboard := Cell.detailCell "清理剪切板时间"
    (.durationDescription appConfig.clearPasteboardDuration)
  if sec = 0 then
    if vc.isSupportFeedBack then [feedBack, backUp, down, mailExport].getD row fallbackCell
    else [backUp, down, mailExport].getD row fallbackCell
  else if sec = 1 then
    if biometry.canUseFaceID || biometry.canUseTouchID then
      [systemLock, autoLock, clearPasteboard].getD row fallbackCell
    else [autoLock, clearPasteboard].getD row fallbackCell
  else if sec = 2 then
    [.detailCell "当前主题" (.themeDescription appConfig.mainTheme),
      .iconCell (iconImageName appConfig)].getD row fallbackCell
  else if sec = 3 then
    [.normalCell (some "意见反馈"), .normalCell (some "隐私协议"),
      .detailCell "版本号" .shortVersion].getD row fallbackCell
  else fallbackCell

/-- What a tap on a row can start. -/
inductive Action where
  | backUpToiCloud
  | downFromiCloud
  | exportWithEmail
  | setAutoLockDuration
  | clearPasteboardDuration
  | selectThemeAction
  | selectIconFile
  | feedBackAction
  | privatePolicy
deriving DecidableEq

/-- `tableView:didSelectRowAtIndexPath:`. But for the security section, each branch lists what its
rows start, from row 0 on. -/
def didSelectRow (vc : Controller) (config : AppConfig) (sec row : ℕ) : Option Action :=
  if sec = 0 then
    if vc.isSupportFeedBack then
      [none, some .backUpToiCloud, some .downFromiCloud, some .exportWithEmail].getD row none
    else [some .backUpToiCloud, some .downFromiCloud, some .exportWithEmail].getD row none
  else if sec = 1 then
    let startIndex := if config.userSystemLock then 1 else 0
    if row = startIndex then some .setAutoLockDuration
    else if row = startIndex + 1 then some .clearPasteboardDuration
    else none
  else if sec = 2 then [some .selectThemeAction, some .selectIconFile].getD row none
  else if sec = 3 then [some .feedBackAction, some .privatePolicy, none].getD row none
  else none

/-! ## What a row promises -/

/-- The text a cell shows; the icon cell brings its own. -/
def Cell.label : Cell → Option String
  | .switchCell nameLabel _ | .detailCell nameLabel _ => some nameLabel
  | .normalCell textLabel => textLabel
  | .iconCell _ => some "图标文件"

/-- The action a text stands for. The rows with a switch and the version have none. -/
def actionOfLabel : String → Option Action
  | "备份到iCloud" => some .backUpToiCloud
  | "从iCloud恢复" => some .downFromiCloud
  | "邮件导出" => some .exportWithEmail
  | "自动锁屏时间" => some .setAutoLockDuration
  | "清理剪切板时间" => some .clearPasteboardDuration
  | "当前主题" => some .selectThemeAction
  | "图标文件" | "Icon图片" => some .selectIconFile
  | "意见反馈" => some .feedBackAction
  | "隐私协议" => some .privatePolicy
  | _ => none

/-- The action of the label a row displays. -/
def displayedAction (vc : Controller) (config : AppConfig) (biometry : Biometry) (sec row : ℕ) :
    Option Action :=
  (cellForRow vc config biometry sec row).label.bind actionOfLabel

/-- The rows of one section agree with what a tap on them does, and every action the section was
built for can be reached. -/
structure SectionAgrees (vc : Controller) (config : AppConfig) (biometry : Biometry) (sec : ℕ) :
    Prop where
  tap : ∀ row, row < numberOfRows vc sec →
    didSelectRow vc config sec row = displayedAction vc config biometry sec row
  reachable : ∀ label ∈ vc.dataArray.getD sec [], ∀ action, actionOfLabel label = some action →
    ∃ row, row < numberOfRows vc sec ∧ displayedAction vc config biometry sec row = some action ∧
      didSelectRow vc config sec row = some action

/-- The whole table agrees. -/
def TableAgrees (vc : Controller) (config : AppConfig) (biometry : Biometry) : Prop :=
  ∀ sec, SectionAgrees vc config biometry sec

/-! ## The security section -/

/-- Some biometrics are available. -/
def available (biometry : Biometry) : Bool :=
  biometry.canUseFaceID || biometry.canUseTouchID

/-- The actions of the two durations, from a first row on. -/
def securityAction (startIndex row : ℕ) : Option Action :=
  if row = startIndex then some .setAutoLockDuration
  else if row = startIndex + 1 then some .clearPasteboardDuration
  else none

/-- The first row of the durations, with or without a row for the system lock above them. -/
def startIndex (systemLockRow : Bool) : ℕ :=
  if systemLockRow then 1 else 0

/-- Two offsets that agree on the first row are the same. -/
theorem securityAction_zero_injective {b c : Bool}
    (h : securityAction (startIndex b) 0 = securityAction (startIndex c) 0) : b = c := by
  revert h
  cases b <;> cases c <;> decide

/-- A tap goes by the setting of the system lock. -/
theorem didSelectRow_security (vc : Controller) (config : AppConfig) (row : ℕ) :
    didSelectRow vc config 1 row = securityAction (startIndex config.userSystemLock) row := rfl

/-- The cells go by the biometrics that are available. -/
theorem displayedAction_security (vc : Controller) (config : AppConfig) (biometry : Biometry)
    (row : ℕ) :
    displayedAction vc config biometry 1 row =
      securityAction (startIndex (available biometry)) row := by
  cases biometry <;> exact match row with
    | 0 => rfl
    | 1 => rfl
    | 2 => rfl
    | row + 3 => by simp [securityAction, startIndex]; rfl

theorem numberOfRows_security (isSupportFeedBack : Bool) (biometry : Biometry)
    (supportsAlternateIcons : Bool) :
    numberOfRows (viewDidLoad isSupportFeedBack biometry supportsAlternateIcons) 1 =
      startIndex (available biometry) + 2 := by
  cases biometry <;> rfl

@[simp] theorem securityAction_self (i : ℕ) :
    securityAction i i = some .setAutoLockDuration := by
  simp [securityAction]

@[simp] theorem securityAction_succ (i : ℕ) :
    securityAction i (i + 1) = some .clearPasteboardDuration := by
  simp [securityAction]

/-- What `viewDidLoad` lists in the security section are the two durations and switches. -/
theorem mem_securityArray {biometry : Biometry} {label : String} {action : Action}
    (h : label ∈ securityArray biometry) (haction : actionOfLabel label = some action) :
    action = .setAutoLockDuration ∨ action = .clearPasteboardDuration := by
  have hall : ∀ l ∈ securityArray biometry, actionOfLabel l = none ∨
      actionOfLabel l = some .setAutoLockDuration ∨
        actionOfLabel l = some .clearPasteboardDuration := by
    cases biometry <;> decide
  rcases hall label h with hnone | hauto | hclear
  · exact absurd (hnone.symm.trans haction) (by simp)
  · exact Or.inl (Option.some.inj (haction.symm.trans hauto))
  · exact Or.inr (Option.some.inj (haction.symm.trans hclear))

/-- In the security section the rows agree exactly when the setting of the system lock says what the
biometrics say. The two durations are then reached unless biometrics have come to be available since
the rows were counted. -/
theorem security_agrees_iff (isSupportFeedBack : Bool) (loaded : Biometry)
    (supportsAlternateIcons : Bool) (config : AppConfig) (biometry : Biometry) :
    SectionAgrees (viewDidLoad isSupportFeedBack loaded supportsAlternateIcons) config biometry 1 ↔
      config.userSystemLock = available biometry ∧
        (available biometry = true → available loaded = true) := by
  constructor
  · rintro ⟨htap, hreachable⟩
    have hlock : config.userSystemLock = available biometry := by
      -- the first row tells the two offsets apart
      have hrow := htap 0 (by rw [numberOfRows_security]; omega)
      rw [didSelectRow_security, displayedAction_security] at hrow
      exact securityAction_zero_injective hrow
    refine ⟨hlock, fun havailable => ?_⟩
    by_contra hloaded
    have hmem : "清理剪切板时间" ∈ securityArray loaded := by
      cases loaded <;> decide
    obtain ⟨row, hrow, hdisplayed, -⟩ := hreachable _ hmem .clearPasteboardDuration rfl
    rw [numberOfRows_security, Bool.eq_false_of_not_eq_true hloaded] at hrow
    rw [displayedAction_security, havailable] at hdisplayed
    have htwo : row < 2 := hrow
    interval_cases row <;> exact absurd hdisplayed (by decide)
  · rintro ⟨hlock, hloaded⟩
    have hrows : startIndex (available biometry) ≤ startIndex (available loaded) := by
      revert hloaded
      cases available biometry <;> cases available loaded <;> decide
    refine ⟨fun row _ => ?_, fun label hlabel action haction => ?_⟩
    · rw [didSelectRow_security, displayedAction_security, hlock]
    · simp only [numberOfRows_security, displayedAction_security, didSelectRow_security, hlock]
      rcases mem_securityArray hlabel haction with rfl | rfl
      · exact ⟨_, by omega, securityAction_self _, securityAction_self _⟩
      · exact ⟨_, by omega, securityAction_succ _, securityAction_succ _⟩

/-! ## The other sections -/

/-- A section agrees when, row by row, the cell and the tap go by the label that `viewDidLoad` put
there. -/
theorem sectionAgrees_of_rows {vc : Controller} {config : AppConfig} {biometry : Biometry}
    {sec : ℕ} (h : ∀ row label, (vc.dataArray.getD sec [])[row]? = some label →
      didSelectRow vc config sec row = actionOfLabel label ∧
        displayedAction vc config biometry sec row = actionOfLabel label) :
    SectionAgrees vc config biometry sec where
  tap := by
    intro row hrow
    obtain ⟨hselect, hdisplayed⟩ := h row _ (List.getElem?_eq_getElem hrow)
    rw [hselect, hdisplayed]
  reachable := by
    intro label hlabel action haction
    obtain ⟨row, hrow⟩ := List.mem_iff_getElem?.mp hlabel
    obtain ⟨hselect, hdisplayed⟩ := h row label hrow
    obtain ⟨hlt, -⟩ := List.getElem?_eq_some_iff.mp hrow
    exact ⟨row, hlt, hdisplayed.trans haction, hselect.trans haction⟩

/-- The other sections agree whatever the configuration and the biometrics. -/
theorem section_agrees (isSupportFeedBack : Bool) (loaded : Biometry)
    (supportsAlternateIcons : Bool) (config : AppConfig) (biometry : Biometry) {sec : ℕ}
    (hsec : sec ≠ 1) :
    SectionAgrees (viewDidLoad isSupportFeedBack loaded supportsAlternateIcons) config biometry
      sec := by
  apply sectionAgrees_of_rows
  intro row label hrow
  match sec, hsec with
  | 0, _ =>
      cases isSupportFeedBack <;> rcases row with _ | _ | _ | _ | row <;>
        first
        | (obtain rfl := Option.some.inj hrow; exact ⟨rfl, rfl⟩)
        | cases hrow
  | 2, _ =>
      cases supportsAlternateIcons <;> rcases row with _ | _ | row <;>
        first
        | (obtain rfl := Option.some.inj hrow; exact ⟨rfl, rfl⟩)
        | cases hrow
  | 3, _ =>
      rcases row with _ | _ | _ | row <;>
        first
        | (obtain rfl := Option.some.inj hrow; exact ⟨rfl, rfl⟩)
        | cases hrow
  | sec + 4, _ => cases hrow

/-- The table agrees exactly when its security section does. -/
theorem tableAgrees_iff (isSupportFeedBack : Bool) (loaded : Biometry)
    (supportsAlternateIcons : Bool) (config : AppConfig) (biometry : Biometry) :
    TableAgrees (viewDidLoad isSupportFeedBack loaded supportsAlternateIcons) config biometry ↔
      config.userSystemLock = available biometry ∧
        (available biometry = true → available loaded = true) := by
  rw [← security_agrees_iff isSupportFeedBack loaded supportsAlternateIcons config biometry]
  constructor
  · exact fun h => h 1
  · intro h sec
    by_cases hsec : sec = 1
    · exact hsec ▸ h
    · exact section_agrees _ _ _ _ _ hsec

/-! ## Runs -/

/-- The screen, the biometrics that are available and the saved configuration. -/
structure World where
  vc : Controller
  biometry : Biometry
  file : AppConfig.File
deriving DecidableEq

inductive Event where
  | setting (operation : Operation)
  | biometry (biometry : Biometry)
deriving DecidableEq

/-- One event. The rows of the screen stay as `viewDidLoad` listed them. -/
def step (w : World) : Event → World
  | .setting operation => { w with file := Settings.step w.file operation }
  | .biometry biometry => { w with biometry := biometry }

/-- The screen when it has been loaded. -/
def loaded (isSupportFeedBack : Bool) (biometry : Biometry) (supportsAlternateIcons : Bool)
    (file : AppConfig.File) : World :=
  { vc := viewDidLoad isSupportFeedBack biometry supportsAlternateIcons
    biometry := biometry
    file := file }

/-- The rows shown and the rows dispatched agree. -/
def Agrees (w : World) : Prop :=
  TableAgrees w.vc (AppConfig.config w.file) w.biometry

/-- What an event writes to the settings. -/
def Event.writes : Event → List (Σ setting : Setting, setting.Value)
  | .setting operation => operation.writes
  | .biometry _ => []

/-- The biometrics available after an event. -/
def Event.biometryAfter (current : Biometry) : Event → Biometry
  | .setting _ => current
  | .biometry next => next

/-- The setting of the system lock a history leaves in the file. -/
def userSystemLockAfter (file : AppConfig.File) (es : List Event) : Bool :=
  (lastWrite .userSystemLock (es.flatMap Event.writes)).getD (AppConfig.config file).userSystemLock

/-- The biometrics a history leaves. -/
def biometryAfter (biometry : Biometry) (es : List Event) : Biometry :=
  es.foldl Event.biometryAfter biometry

theorem run_vc (w : World) (es : List Event) : (run step w es).vc = w.vc := by
  induction es generalizing w with
  | nil => rfl
  | cons e es ih => exact (ih (step w e)).trans (by cases e <;> rfl)

theorem run_biometry (w : World) (es : List Event) :
    (run step w es).biometry = biometryAfter w.biometry es := by
  induction es generalizing w with
  | nil => rfl
  | cons e es ih => exact (ih (step w e)).trans (by cases e <;> rfl)

theorem run_userSystemLock (w : World) (es : List Event) :
    (AppConfig.config (run step w es).file).userSystemLock = userSystemLockAfter w.file es := by
  have hstep : ∀ (w : World) (e : Event) (setting : Setting),
      get (AppConfig.config (step w e).file) setting =
        (lastWrite setting e.writes).getD (get (AppConfig.config w.file) setting) := by
    intro w e setting
    cases e with
    | setting operation => exact get_config_step w.file operation setting
    | biometry next => rfl
  exact get_run (fun w => get (AppConfig.config w.file)) hstep w es .userSystemLock

/-- In a run the rows agree throughout exactly when, after every event, the system lock is set to
whether biometrics are available, and they are available only if they were when the screen was
loaded. -/
theorem always_agrees_iff (isSupportFeedBack : Bool) (biometry : Biometry)
    (supportsAlternateIcons : Bool) (file : AppConfig.File) (es : List Event) :
    Always step Agrees (loaded isSupportFeedBack biometry supportsAlternateIcons file) es ↔
      ∀ pre, pre <+: es →
        userSystemLockAfter file pre = available (biometryAfter biometry pre) ∧
          (available (biometryAfter biometry pre) = true → available biometry = true) := by
  rw [always_iff_run]
  refine forall₂_congr fun pre _ => ?_
  rw [Agrees, run_vc, run_biometry]
  refine (tableAgrees_iff _ _ _ _ _).trans ?_
  rw [run_userSystemLock]
  rfl

/-- On a device without biometrics, before any setting is saved, a tap on `清理剪切板时间` opens the
screen of the other duration. -/
theorem not_always_agrees_without_biometry :
    ¬ Always step Agrees (loaded true .none true none) [] := by
  intro h
  exact absurd (h 1).tap (by decide)

end PasswordPackage.SettingViewController
