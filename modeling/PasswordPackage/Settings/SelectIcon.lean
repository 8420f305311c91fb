import PasswordPackage.Common.Run
import PasswordPackage.Settings.SaveConfig

/-!
# Changing the icon

`pressedCompletButton:` saves the name of the chosen icon and then asks the system to install it.
The system answers later, and its answer does not reach the configuration.
-/

namespace PasswordPackage.SelectIcon

open Machine Settings

/-! ## The device -/

/-- A change that the system has not answered yet. `saved` is the configuration before it. -/
structure Change where
  fileName : Option String
  saved : AppConfig
deriving DecidableEq

/-- The file of the configuration, the name of the installed icon (nil for the primary one), the
icon confirmed last (at first the saved one), the changes under way and the texts shown to the
user. -/
structure Device where
  file : AppConfig.File
  installed : Option String
  confirmed : Option String
  changes : List Change
  popTexts : List String
deriving DecidableEq

/-- `pressedCompletButton:`. The button can be pressed again before the system answers. -/
def pressedCompletButton (fileName : Option String) (d : Device) : Device :=
  { d with
    file := selectIconComplet fileName d.file
    confirmed := fileName
    changes := d.changes ++ [⟨fileName, AppConfig.config d.file⟩] }

/-- The system answers a change, and calls its completion handler. -/
def completionHandler (i : ℕ) (error : Bool) (d : Device) : Device :=
  match d.changes[i]? with
  | none => d
  | some change =>
      { d with
        installed := if error then d.installed else change.fileName
        changes := d.changes.eraseIdx i
        popTexts := d.popTexts ++ [if error then "设置失败,请重试!" else "保存成功!"] }

inductive Event where
  | confirm (fileName : Option String)
  | completion (i : ℕ) (error : Bool)
deriving DecidableEq

def step (d : Device) : Event → Device
  | .confirm fileName => pressedCompletButton fileName d
  | .completion i error => completionHandler i error d

/-- The app is launched: nothing is under way. -/
def launch (file : AppConfig.File) (installed : Option String) : Device where
  file := file
  installed := installed
  confirmed := (AppConfig.config file).iconFileName
  changes := []
  popTexts := []

/-- After a completion the configuration names the installed icon, and after a failed change it is
what it was before the change. -/
def Faithful (d : Device) : Event → Prop
  | .confirm _ => True
  | .completion i error =>
      ∀ change, d.changes[i]? = some change →
        (AppConfig.config (completionHandler i error d).file).iconFileName =
            (completionHandler i error d).installed ∧
          (error = true → AppConfig.config (completionHandler i error d).file = change.saved)

/-- A change succeeds only for the icon confirmed last. One that fails was made when that icon was
saved already, and finds it installed. -/
def Harmless (d : Device) : Event → Prop
  | .confirm _ => True
  | .completion i error =>
      ∀ change, d.changes[i]? = some change →
        if error = true then d.confirmed = d.installed ∧ change.saved.iconFileName = d.confirmed
        else change.fileName = d.confirmed

/-! ## Saved and installed icons -/

theorem pinCode_config (file : AppConfig.File) : (AppConfig.config file).pinCode = 0 := by
  cases file <;> rfl

/-- A confirmation changes the saved icon, and nothing else. -/
theorem config_selectIconComplet (fileName : Option String) (file : AppConfig.File) :
    AppConfig.config (selectIconComplet fileName file) =
      { AppConfig.config file with iconFileName := fileName } := by
  rw [selectIconComplet, modifyConfig, AppConfig.config_saveConfig, ← pinCode_config file]

/-- The configuration is that before any change under way, with the icon confirmed last. -/
structure Inv (d : Device) : Prop where
  iconFileName : (AppConfig.config d.file).iconFileName = d.confirmed
  saved : ∀ change ∈ d.changes,
    AppConfig.config d.file = { change.saved with iconFileName := d.confirmed }

variable {d : Device}

theorem inv_launch (file : AppConfig.File) (installed : Option String) :
    Inv (launch file installed) :=
  ⟨rfl, fun _ hchange => absurd hchange List.not_mem_nil⟩

theorem Inv.confirm (h : Inv d) (fileName : Option String) :
    Inv (pressedCompletButton fileName d) := by
  have hconfig : AppConfig.config (pressedCompletButton fileName d).file =
      { AppConfig.config d.file with iconFileName := fileName } :=
    config_selectIconComplet fileName d.file
  refine ⟨by rw [hconfig]; rfl, ?_⟩
  intro change hchange
  rw [hconfig]
  rcases List.mem_append.mp hchange with hold | hnew
  · rw [h.saved change hold]
    rfl
  · rw [List.mem_singleton.mp hnew]
    rfl

/-- A completion leaves the file and the confirmed icon alone. -/
theorem file_completionHandler (i : ℕ) (error : Bool) (d : Device) :
    (completionHandler i error d).file = d.file := by
  unfold completionHandler
  split <;> rfl

theorem Inv.completion (h : Inv d) (i : ℕ) (error : Bool) : Inv (completionHandler i error d) := by
  unfold completionHandler
  split
  · exact h
  · exact ⟨h.iconFileName, fun change hchange => h.saved change (List.mem_of_mem_eraseIdx hchange)⟩

theorem Inv.step (h : Inv d) (e : Event) : Inv (step d e) := by
  rcases e with fileName | ⟨i, error⟩
  · exact h.confirm fileName
  · exact h.completion i error

theorem installed_completionHandler {i : ℕ} {change : Change} (hi : d.changes[i]? = some change)
    (error : Bool) :
    (completionHandler i error d).installed =
      if error then d.installed else change.fileName := by
  rw [completionHandler, hi]

theorem Inv.faithful_iff (h : Inv d) (e : Event) : Faithful d e ↔ Harmless d e := by
  rcases e with fileName | ⟨i, error⟩
  · exact Iff.rfl
  · refine forall_congr' fun change => forall_congr' fun hi => ?_
    have hsaved := h.saved change (List.mem_of_getElem? hi)
    rw [file_completionHandler, installed_completionHandler hi, h.iconFileName]
    rcases error with _ | _
    · simp [eq_comm]
    · simp only [if_true, forall_const]
      apply and_congr_right
      intro _
      -- the configurations differ at most in the icon
      constructor
      · intro hsame
        rw [← hsame, h.iconFileName]
      · intro hicon
        rw [hsaved, ← hicon]

theorem Inv.guarded_iff (h : Inv d) (es : List Event) :
    Guarded SelectIcon.step Faithful d es ↔ Guarded SelectIcon.step Harmless d es :=
  guarded_congr (fun _ e hinv _ => hinv.step e) (fun _ e hinv => hinv.faithful_iff e) h

/-- However confirmations and completions follow each other, each completion leaves the installed
icon and the configuration of before a failed change exactly when the changes are harmless. -/
theorem guarded_iconFileName_iff (file : AppConfig.File) (installed : Option String)
    (es : List Event) :
    Guarded step Faithful (launch file installed) es ↔
      Guarded step Harmless (launch file installed) es :=
  (inv_launch file installed).guarded_iff es

/-- The first change fails: the configuration names an icon that is not installed. -/
theorem not_guarded_iconFileName_failed :
    ¬ Guarded step Faithful (launch none none)
        [.confirm (some "1Icon-App-60x60"), .completion 0 true] := by
  rintro ⟨-, hcompletion, -⟩
  have hfaithful := hcompletion ⟨some "1Icon-App-60x60", AppConfig.init⟩ rfl
  exact absurd hfaithful.1 (by decide)

/-! ## One change at a time -/

/-- Changes that are answered before the next one, with the error of each. -/
def sequence (changes : List (Option String × Bool)) : List Event :=
  changes.flatMap fun change => [.confirm change.1, .completion 0 change.2]

theorem getElem?_changes (hnone : d.changes = []) (fileName : Option String) :
    (pressedCompletButton fileName d).changes[0]? =
      some ⟨fileName, AppConfig.config d.file⟩ := by
  rw [pressedCompletButton, hnone]
  rfl

/-- The answer to the only change is harmless unless another icon could not be installed. -/
theorem Inv.harmless_completion_iff (h : Inv d) (hnone : d.changes = [])
    (hinstalled : d.confirmed = d.installed) (fileName : Option String) (error : Bool) :
    Harmless (pressedCompletButton fileName d) (.completion 0 error) ↔
      (error = true → fileName = d.installed) := by
  have hchange := getElem?_changes hnone fileName
  constructor
  · intro hharmless herror
    have hcase := hharmless _ hchange
    rw [if_pos herror] at hcase
    exact hcase.1
  · intro hkeeps change hchange'
    rw [hchange] at hchange'
    obtain rfl := Option.some.inj hchange'
    by_cases herror : error = true
    · rw [if_pos herror]
      refine ⟨hkeeps herror, ?_⟩
      rw [h.iconFileName, hinstalled]
      exact (hkeeps herror).symm
    · rw [if_neg herror]
      rfl

theorem Inv.harmless_sequence_iff (h : Inv d) (hnone : d.changes = [])
    (hinstalled : d.confirmed = d.installed) (changes : List (Option String × Bool)) :
    Guarded SelectIcon.step Harmless d (sequence changes) ↔
      Guarded (fun installed change => if change.2 then installed else change.1)
        (fun installed change => change.2 = true → change.1 = installed) d.installed changes := by
  induction changes generalizing d with
  | nil => exact Iff.rfl
  | cons change changes ih =>
      obtain ⟨fileName, error⟩ := change
      -- the change is answered before the next one is confirmed
      have hstep : Guarded SelectIcon.step Harmless d (sequence ((fileName, error) :: changes)) ↔
          Harmless (pressedCompletButton fileName d) (.completion 0 error) ∧
            Guarded SelectIcon.step Harmless
              (completionHandler 0 error (pressedCompletButton fileName d))
              (sequence changes) := Iff.of_eq (true_and _)
      rw [hstep, h.harmless_completion_iff hnone hinstalled, Guarded]
      apply and_congr_right
      intro hkeeps
      -- then nothing is pending, and what was confirmed is what is installed
      have hnext := (h.confirm fileName).completion 0 error
      have hafter := installed_completionHandler (getElem?_changes hnone fileName) error
      have hanswered :
          (completionHandler 0 error (pressedCompletButton fileName d)).changes = [] := by
        simp [completionHandler, pressedCompletButton, hnone]
      have hequal : (completionHandler 0 error (pressedCompletButton fileName d)).confirmed =
          (completionHandler 0 error (pressedCompletButton fileName d)).installed := by
        rw [hafter]
        rcases error with _ | _
        · simp [completionHandler, pressedCompletButton, hnone]
        · simpa [completionHandler, pressedCompletButton, hnone] using hkeeps rfl
      rw [ih hnext hanswered hequal, hafter]
      rfl

/-- One change at a time: the configuration always names the installed icon exactly when each
change that fails asks for the icon that is installed already. -/
theorem guarded_sequence_iff {file : AppConfig.File} {installed : Option String}
    (hinstalled : (AppConfig.config file).iconFileName = installed)
    (changes : List (Option String × Bool)) :
    Guarded step Faithful (launch file installed) (sequence changes) ↔
      Guarded (fun installed change => if change.2 then installed else change.1)
        (fun installed change => change.2 = true → change.1 = installed) installed changes := by
  rw [(inv_launch file installed).guarded_iff]
  exact (inv_launch file installed).harmless_sequence_iff rfl hinstalled changes

end PasswordPackage.SelectIcon
