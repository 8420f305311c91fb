import PasswordPackage.Common.LastWrite
import PasswordPackage.Settings.AppConfig

/-!
# The writers of the configuration

Eight places of the app change a setting. Each loads a fresh configuration, assigns one property and
archives the whole object again, so it also writes back the seven settings it does not care about.
-/

namespace PasswordPackage.Settings

open Machine LastWrite

/-! ## Settings -/

/-- The properties of `AppConfig` that are archived. -/
inductive Setting where
  | isSharkFeedBack
  | mainTheme
  | autoLockDuration
  | clearPasteboardDuration
  | userSystemLock
  | lastUploadTimeStamp
  | lastDownloadTimeStamp
  | iconFileName
deriving DecidableEq

/-- The type of a property. -/
abbrev Setting.Value : Setting → Type
  | .isSharkFeedBack | .userSystemLock => Bool
  | .mainTheme => ℕ
  | .autoLockDuration | .clearPasteboardDuration | .lastUploadTimeStamp
  | .lastDownloadTimeStamp => ℤ
  | .iconFileName => Option String

/-- The value of a setting in a configuration. -/
def get (config : AppConfig) : (setting : Setting) → setting.Value
  | .isSharkFeedBack => config.isSharkFeedBack
  | .mainTheme => config.mainTheme
  | .autoLockDuration => config.autoLockDuration
  | .clearPasteboardDuration => config.clearPasteboardDuration
  | .userSystemLock => config.userSystemLock
  | .lastUploadTimeStamp => config.lastUploadTimeStamp
  | .lastDownloadTimeStamp => config.lastDownloadTimeStamp
  | .iconFileName => config.iconFileName

/-! ## Writers -/

/-- The lines every writer repeats: load the configuration, change it, save it. -/
def modifyConfig (change : AppConfig → AppConfig) (file : AppConfig.File) : AppConfig.File :=
  (change (AppConfig.config file)).saveConfig

/-- `switchCallBack` of the feedback cell. -/
def feedBackSwitchCallBack (isOn : Bool) : AppConfig.File → AppConfig.File :=
  modifyConfig fun cc => { cc with isSharkFeedBack := isOn }

/-- `switchCallBack` of the system lock cell. -/
def systemLockSwitchCallBack (isOn : Bool) : AppConfig.File → AppConfig.File :=
  modifyConfig fun cc => { cc with userSystemLock := isOn }

/-- `pressedConfirmButton:` of `SetAutoLockViewController`. -/
def setAutoLockConfirm (autoLockValue : ℤ) : AppConfig.File → AppConfig.File :=
  modifyConfig fun config => { config with autoLockDuration := autoLockValue }

/-- `pressedConfirmButton:` of `ClearPasteboardViewController`. -/
def clearPasteboardConfirm (clearPasteboardValue : ℤ) : AppConfig.File → AppConfig.File :=
  modifyConfig fun config => { config with clearPasteboardDuration := clearPasteboardValue }

/-- `pressedConfirmButton:` of `SelectThemeViewController`. -/
def selectThemeConfirm (lastTheme : ℕ) : AppConfig.File → AppConfig.File :=
  modifyConfig fun config => { config with mainTheme := lastTheme }

/-- `pressedCompletButton:` of `SelectIconViewController`: the file name of the selected cell, nil
when there is none. -/
def selectIconComplet (fileName : Option String) : AppConfig.File → AppConfig.File :=
  modifyConfig fun config => { config with iconFileName := fileName }

/-- The completion block of `backUpToiCloud`, at the time `now`. -/
def backUpCompletion (error : Bool) (now : ℤ) (file : AppConfig.File) : AppConfig.File :=
  if error = false then modifyConfig (fun config => { config with lastUploadTimeStamp := now }) file
  else file

/-- The completion block of `downFromiCloud`, at the time `now`. -/
def downCompletion (error retrieveResult : Bool) (now : ℤ) (file : AppConfig.File) :
    AppConfig.File :=
  if error = false then
    if retrieveResult = false then
      modifyConfig (fun config => { config with lastDownloadTimeStamp := now }) file
    else file
  else file

/-- An operation on the settings, with what the user chose or the system answered. `error` and
`retrieveResult` say whether there was an error. -/
inductive Operation where
  | feedBackSwitch (isOn : Bool)
  | systemLockSwitch (isOn : Bool)
  | setAutoLock (autoLockValue : ℤ)
  | clearPasteboard (clearPasteboardValue : ℤ)
  | selectTheme (lastTheme : ℕ)
  | selectIcon (fileName : Option String)
  | backUp (error : Bool) (now : ℤ)
  | down (error retrieveResult : Bool) (now : ℤ)
deriving DecidableEq

/-- The file after an operation. All of them run on the main thread, one at a time. -/
def step (file : AppConfig.File) : Operation → AppConfig.File
  | .feedBackSwitch isOn => feedBackSwitchCallBack isOn file
  | .systemLockSwitch isOn => systemLockSwitchCallBack isOn file
  | .setAutoLock autoLockValue => setAutoLockConfirm autoLockValue file
  | .clearPasteboard clearPasteboardValue => clearPasteboardConfirm clearPasteboardValue file
  | .selectTheme lastTheme => selectThemeConfirm lastTheme file
  | .selectIcon fileName => selectIconComplet fileName file
  | .backUp error now => backUpCompletion error now file
  | .down error retrieveResult now => downCompletion error retrieveResult now file

/-! ## What the settings hold -/

/-- The setting an operation is meant to write, and its value. A backup or a restore with an error
writes nothing. -/
def Operation.writes : Operation → List (Σ setting : Setting, setting.Value)
  | .feedBackSwitch isOn => [⟨.isSharkFeedBack, isOn⟩]
  | .systemLockSwitch isOn => [⟨.userSystemLock, isOn⟩]
  | .setAutoLock autoLockValue => [⟨.autoLockDuration, autoLockValue⟩]
  | .clearPasteboard clearPasteboardValue => [⟨.clearPasteboardDuration, clearPasteboardValue⟩]
  | .selectTheme lastTheme => [⟨.mainTheme, lastTheme⟩]
  | .selectIcon fileName => [⟨.iconFileName, fileName⟩]
  | .backUp false now => [⟨.lastUploadTimeStamp, now⟩]
  | .down false false now => [⟨.lastDownloadTimeStamp, now⟩]
  | .backUp true _ | .down _ _ _ => []

/-- The change assigns one setting. -/
def Assigns (change : AppConfig → AppConfig) (write : Σ setting : Setting, setting.Value) : Prop :=
  ∀ config setting,
    get (change config) setting = (valueAt setting write).getD (get config setting)

/-- A saved change is what the next configuration shows: the codec carries all eight settings. -/
theorem get_config_modifyConfig (change : AppConfig → AppConfig) (file : AppConfig.File)
    (setting : Setting) :
    get (AppConfig.config (modifyConfig change file)) setting =
      get (change (AppConfig.config file)) setting := by
  rw [modifyConfig, AppConfig.config_saveConfig]
  cases setting <;> rfl

theorem Assigns.get_config {change : AppConfig → AppConfig}
    {write : Σ setting : Setting, setting.Value} (h : Assigns change write)
    (file : AppConfig.File) (setting : Setting) :
    get (AppConfig.config (modifyConfig change file)) setting =
      (lastWrite setting [write]).getD (get (AppConfig.config file) setting) := by
  rw [get_config_modifyConfig, h, lastWrite_singleton]

/-- One operation changes the setting it writes and no other. -/
theorem get_config_step (file : AppConfig.File) (operation : Operation) (setting : Setting) :
    get (AppConfig.config (step file operation)) setting =
      (lastWrite setting operation.writes).getD (get (AppConfig.config file) setting) := by
  -- each writer assigns to one setting, and the others come back from the archive
  cases operation with
  | feedBackSwitch isOn =>
      have h : Assigns (fun cc => { cc with isSharkFeedBack := isOn })
          ⟨.isSharkFeedBack, isOn⟩ := fun _ s => by cases s <;> rfl
      exact h.get_config file setting
  | systemLockSwitch isOn =>
      have h : Assigns (fun cc => { cc with userSystemLock := isOn })
          ⟨.userSystemLock, isOn⟩ := fun _ s => by cases s <;> rfl
      exact h.get_config file setting
  | setAutoLock autoLockValue =>
      have h : Assigns (fun config => { config with autoLockDuration := autoLockValue })
          ⟨.autoLockDuration, autoLockValue⟩ := fun _ s => by cases s <;> rfl
      exact h.get_config file setting
  | clearPasteboard clearPasteboardValue =>
      have h : Assigns
          (fun config => { config with clearPasteboardDuration := clearPasteboardValue })
          ⟨.clearPasteboardDuration, clearPasteboardValue⟩ := fun _ s => by cases s <;> rfl
      exact h.get_config file setting
  | selectTheme lastTheme =>
      have h : Assigns (fun config => { config with mainTheme := lastTheme })
          ⟨.mainTheme, lastTheme⟩ := fun _ s => by cases s <;> rfl
      exact h.get_config file setting
  | selectIcon fileName =>
      have h : Assigns (fun config => { config with iconFileName := fileName })
          ⟨.iconFileName, fileName⟩ := fun _ s => by cases s <;> rfl
      exact h.get_config file setting
  | backUp error now =>
      cases error with
      | false =>
          have h : Assigns (fun config => { config with lastUploadTimeStamp := now })
              ⟨.lastUploadTimeStamp, now⟩ := fun _ s => by cases s <;> rfl
          exact h.get_config file setting
      | true => rfl
  | down error retrieveResult now =>
      cases error with
      | false =>
          cases retrieveResult with
          | false =>
              have h : Assigns (fun config => { config with lastDownloadTimeStamp := now })
                  ⟨.lastDownloadTimeStamp, now⟩ := fun _ s => by cases s <;> rfl
              exact h.get_config file setting
          | true => rfl
      | true => rfl

/-- After any operations on any file, a setting has the value written to it last. -/
theorem get_config_run (file : AppConfig.File) (operations : List Operation) (setting : Setting) :
    get (AppConfig.config (run step file operations)) setting =
      (lastWrite setting (operations.flatMap Operation.writes)).getD
        (get (AppConfig.config file) setting) :=
  get_run (fun file => get (AppConfig.config file)) get_config_step file operations setting

/-- Starting without a saved configuration, a setting has the value written to it last, or its
initial value when no operation wrote it. -/
theorem setting_eq_last_write (operations : List Operation) (setting : Setting) :
    get (AppConfig.config (run step none operations)) setting =
      (lastWrite setting (operations.flatMap Operation.writes)).getD
        (get AppConfig.init setting) :=
  get_config_run none operations setting

end PasswordPackage.Settings
