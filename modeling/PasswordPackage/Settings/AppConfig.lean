import Mathlib.Data.Int.Notation
import Mathlib.Data.Nat.Notation

/-!
# The saved configuration

`AppConfig` is archived as a whole in one file. Every reader loads a fresh copy with `config`, and
every writer changes its copy and archives it again with `saveConfig:`. The archive holds one value
for each key that `encodeWithCoder:` names; `pinCode` is not among them.
-/

namespace PasswordPackage

/-- What an archive can hold under a key. -/
inductive CoderValue where
  | bool (value : Bool)
  | integer (value : ℤ)
  | object (value : Option String)
deriving DecidableEq

/-- A keyed archive. -/
abbrev Archive := List (String × CoderValue)

/-- `decodeBoolForKey:`, `NO` when the key is missing. -/
def Archive.decodeBool (archive : Archive) (key : String) : Bool :=
  match archive.lookup key with
  | some (.bool value) => value
  | _ => false

/-- `decodeIntegerForKey:`, zero when the key is missing. -/
def Archive.decodeInteger (archive : Archive) (key : String) : ℤ :=
  match archive.lookup key with
  | some (.integer value) => value
  | _ => 0

/-- `decodeObjectForKey:`, nil when the key is missing. -/
def Archive.decodeObject (archive : Archive) (key : String) : Option String :=
  match archive.lookup key with
  | some (.object value) => value
  | _ => none

/-- The declared properties. `mainTheme` is the raw value of a `PPTheme`. -/
structure AppConfig where
  iconFileName : Option String
  isSharkFeedBack : Bool
  mainTheme : ℕ
  userSystemLock : Bool
  pinCode : ℤ
  autoLockDuration : ℤ
  clearPasteboardDuration : ℤ
  lastUploadTimeStamp : ℤ
  lastDownloadTimeStamp : ℤ
deriving DecidableEq

namespace AppConfig

/-- `PP_THEME_DEFAULT`. -/
def themeDefault : ℕ := 0

/-- `init`: the configuration of an app that has never saved one. Properties that are not assigned
are zeroed. -/
def init : AppConfig :=
  { iconFileName := none
    isSharkFeedBack := true
    mainTheme := themeDefault
    userSystemLock := true
    pinCode := 0
    autoLockDuration := 0
    clearPasteboardDuration := 300
    lastUploadTimeStamp := 0
    lastDownloadTimeStamp := 0 }

/-- `encodeWithCoder:`. -/
def encodeWithCoder (config : AppConfig) : Archive :=
  [("isSharkFeedBack", .bool config.isSharkFeedBack),
    ("mainTheme", .integer config.mainTheme),
    ("autoLockDuration", .integer config.autoLockDuration),
    ("clearPasteboardDuration", .integer config.clearPasteboardDuration),
    ("userSystemLock", .bool config.userSystemLock),
    ("lastUploadTimeStamp", .integer config.lastUploadTimeStamp),
    ("lastDownloadTimeStamp", .integer config.lastDownloadTimeStamp),
    ("iconFileName", .object config.iconFileName)]

/-- `initWithCoder:`. -/
def initWithCoder (archive : Archive) : AppConfig :=
  { iconFileName := archive.decodeObject "iconFileName"
    isSharkFeedBack := archive.decodeBool "isSharkFeedBack"
    mainTheme := (archive.decodeInteger "mainTheme").toNat
    userSystemLock := archive.decodeBool "userSystemLock"
    pinCode := 0
    autoLockDuration := archive.decodeInteger "autoLockDuration"
    clearPasteboardDuration := archive.decodeInteger "clearPasteboardDuration"
    lastUploadTimeStamp := archive.decodeInteger "lastUploadTimeStamp"
    lastDownloadTimeStamp := archive.decodeInteger "lastDownloadTimeStamp" }

/-- The file `comppconfig.data`, absent until something is saved. -/
abbrev File := Option Archive

/-- `config`: the archived configuration, or a new one when there is none. -/
def config (file : File) : AppConfig :=
  match file with
  | none => init
  | some archive => initWithCoder archive

/-- `saveConfig:`, when the archive is written. -/
def saveConfig (config : AppConfig) : File :=
  some config.encodeWithCoder

/-- Archiving keeps every property but `pinCode`, which is not encoded. -/
theorem initWithCoder_encodeWithCoder (config : AppConfig) :
    initWithCoder config.encodeWithCoder = { config with pinCode := 0 } :=
  rfl

@[simp] theorem config_saveConfig (c : AppConfig) :
    config c.saveConfig = { c with pinCode := 0 } :=
  initWithCoder_encodeWithCoder c

/-! ## What survives the archive -/

/-- The archive answers every key that was written with what was written. -/
def Keeps (archive written : Archive) : Prop :=
  ∀ key ∈ written.map Prod.fst, archive.lookup key = written.lookup key

/-- `initWithCoder:` reads the keys of `encodeWithCoder:` and no others. -/
theorem initWithCoder_of_keeps {archive : Archive} {config : AppConfig}
    (h : Keeps archive config.encodeWithCoder) :
    initWithCoder archive = initWithCoder config.encodeWithCoder := by
  have hkeys : ∀ key ∈ ["isSharkFeedBack", "mainTheme", "autoLockDuration",
      "clearPasteboardDuration", "userSystemLock", "lastUploadTimeStamp",
      "lastDownloadTimeStamp", "iconFileName"],
      archive.lookup key = config.encodeWithCoder.lookup key := h
  simp only [List.forall_mem_cons] at hkeys
  obtain ⟨hfeedback, htheme, hautoLock, hpasteboard, hsystemLock, hupload, hdownload, hicon, -⟩ :=
    hkeys
  simp only [initWithCoder, Archive.decodeBool, Archive.decodeInteger, Archive.decodeObject,
    hfeedback, htheme, hautoLock, hpasteboard, hsystemLock, hupload, hdownload, hicon]

/-- A configuration comes back from the archive exactly when it has no pin code: that property is
declared, but neither list of keys has it. -/
theorem initWithCoder_eq_self_iff {archive : Archive} {config : AppConfig}
    (h : Keeps archive config.encodeWithCoder) :
    initWithCoder archive = config ↔ config.pinCode = 0 := by
  rw [initWithCoder_of_keeps h, initWithCoder_encodeWithCoder]
  constructor
  · intro hsame
    rw [← hsame]
  · intro hpin
    rw [← hpin]

/-- The first configuration of the app, in an archive with one more key. -/
theorem initWithCoder_eq_self_init :
    initWithCoder (("version", .integer 1) :: init.encodeWithCoder) = init :=
  (initWithCoder_eq_self_iff (by unfold Keeps; decide +kernel)).mpr rfl

/-- A pin code is lost. -/
theorem initWithCoder_ne_self_pinCode :
    initWithCoder { init with pinCode := 1234 }.encodeWithCoder ≠
      { init with pinCode := 1234 } := by
  intro hsame
  exact absurd (congrArg AppConfig.pinCode hsame) (by decide)

end AppConfig

end PasswordPackage
