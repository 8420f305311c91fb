import PasswordPackage.Common.Run
import PasswordPackage.Data.Model
import PasswordPackage.Generator.CreatePassword
import PasswordPackage.Pasteboard.ClearPasteboard

/-!
# Copying

Four screens put strings on the pasteboard, each in its own handlers, and none of them goes on to
call `clearPasteboardWithTargetString:`. The queue therefore never holds a block, and what is copied
stays until something else replaces it, whatever the configured number of seconds.
-/

namespace PasswordPackage.Pasteboard

open Machine

/-! ## The copy handlers -/

namespace PresentWebsiteViewController

def pressedCopyUserName (websiteModel : PPWebsiteModel) (w : World) : World :=
  w.setString websiteModel.account

def pressedCopyPwdButton (websiteModel : PPWebsiteModel) (w : World) : World :=
  w.setString websiteModel.password

/-- The handler of the alert that `pressedShowPwdButton:` shows. -/
def pressedShowPwdButton (websiteModel : PPWebsiteModel) (w : World) : World :=
  w.setString websiteModel.password

end PresentWebsiteViewController

/-- `copyAction` of the website screen. -/
def ShowWebSiteViewController.copyAction (websiteModel : PPWebsiteModel)
    (currentSelectedIndex : ℤ) (w : World) : World :=
  match currentSelectedIndex with
  | 0 => w.setString websiteModel.title
  | 1 => w.setString websiteModel.link
  | 2 => w.setString websiteModel.account
  | 3 => w.setString websiteModel.password
  | 4 => w.setString websiteModel.describe
  | _ => w

/-- `copyAction` of the bank card screen. -/
def ShowBankCardViewController.copyAction (bankCardModel : PPBankCardModel)
    (currentSelectedIndex : ℤ) (w : World) : World :=
  match currentSelectedIndex with
  | 1 => w.setString bankCardModel.password
  | 2 => w.setString bankCardModel.pin
  | 3 => w.setString bankCardModel.cvvCode
  | _ => w

/-- The completion of the sheet that shows a generated password. Without a password there is no
sheet. -/
def CreatePasswordViewController.completion (password : Option String) (w : World) : World :=
  match password with
  | none => w
  | some password => w.setString (some password)

/-- A copy, with the screen it is made on. -/
inductive CopyAction where
  | userName (websiteModel : PPWebsiteModel)
  | password (websiteModel : PPWebsiteModel)
  | showPassword (websiteModel : PPWebsiteModel)
  | website (websiteModel : PPWebsiteModel) (currentSelectedIndex : ℤ)
  | bankCard (bankCardModel : PPBankCardModel) (currentSelectedIndex : ℤ)
  | generated (screen : CreatePassword.Screen) (arc4random : ℕ → UInt32)

def copy (w : World) : CopyAction → World
  | .userName model => PresentWebsiteViewController.pressedCopyUserName model w
  | .password model => PresentWebsiteViewController.pressedCopyPwdButton model w
  | .showPassword model => PresentWebsiteViewController.pressedShowPwdButton model w
  | .website model index => ShowWebSiteViewController.copyAction model index w
  | .bankCard model index => ShowBankCardViewController.copyAction model index w
  | .generated screen arc4random =>
      CreatePasswordViewController.completion
        (CreatePassword.pressedCreateButton screen arc4random) w

inductive Event where
  | copy (action : CopyAction)
  | foreign (string : Option String)
  | fire (i : ℕ)
  | wait (nanoseconds : ℕ)

def step (w : World) : Event → World
  | .copy action => copy w action
  | .foreign string => w.foreign string
  | .fire i => w.fire i
  | .wait nanoseconds => w.wait nanoseconds

/-- The app is launched: the pasteboard holds what other apps put there. -/
def launch (file : AppConfig.File) (now : ℤ) (string : Option String) : World :=
  { file := file, now := now, string := string, copiedAt := none, tasks := [] }

/-! ## Scheduled clearing -/

/-- Unless clearing is set to never, a string of the app on the pasteboard has a waiting block, due
in time. -/
def Scheduled (w : World) : Prop :=
  ∀ string copiedAt, w.clearPasteboardDuration ≠ neverToDoTag → w.string = some string →
    w.copiedAt = some copiedAt →
    ∃ task ∈ w.tasks, task.targetString = some string ∧
      task.due ≤ copiedAt + w.clearPasteboardDuration * nsecPerSec

/-- A call of the utility right after a copy would schedule it, for any duration that fits into 64
bits of nanoseconds. -/
theorem scheduled_clearPasteboardWithTargetString {w : World}
    (hpos : 0 < w.clearPasteboardDuration)
    (hfits : w.clearPasteboardDuration * nsecPerSec < 2 ^ 63) (string : String) :
    Scheduled (clearPasteboardWithTargetString (some string) (w.setString (some string))) := by
  have hduration : (w.setString (some string)).clearPasteboardDuration =
      w.clearPasteboardDuration := rfl
  have hdelta : (w.clearPasteboardDuration * nsecPerSec).bmod (2 ^ 64) =
      w.clearPasteboardDuration * nsecPerSec := by
    have hnonneg : 0 ≤ w.clearPasteboardDuration * nsecPerSec := by
      unfold nsecPerSec
      omega
    rw [Int.bmod_eq_of_le_mul_two] <;> omega
  unfold clearPasteboardWithTargetString
  rw [hduration, if_neg hpos.ne', hdelta]
  intro target copiedAt _ htarget hcopiedAt
  obtain rfl : string = target := Option.some.inj htarget
  obtain rfl : w.now = copiedAt := Option.some.inj hcopiedAt
  exact ⟨_, List.mem_append_right _ (List.mem_singleton.mpr rfl), rfl, le_rfl⟩

/-- What a copy is made of: the field that the screen selects, nil when the record has none. -/
def CopyAction.selected : CopyAction → Option String
  | .userName model => model.account
  | .password model | .showPassword model => model.password
  | .website model index =>
      match index with
      | 0 => model.title
      | 1 => model.link
      | 2 => model.account
      | 3 => model.password
      | 4 => model.describe
      | _ => none
  | .bankCard model index =>
      match index with
      | 1 => model.password
      | 2 => model.pin
      | 3 => model.cvvCode
      | _ => none
  | .generated screen arc4random => CreatePassword.pressedCreateButton screen arc4random

/-- Clearing is set to never, or nothing is copied. -/
def CopiesNothing (w : World) : Event → Prop
  | .copy action => w.clearPasteboardDuration = neverToDoTag ∨ action.selected = none
  | _ => True

/-! ## What a copy does -/

/-- A copy sets the string that is selected. With nothing selected it sets nil or does nothing. -/
theorem copy_eq (w : World) (action : CopyAction) :
    copy w action = w.setString action.selected ∨ action.selected = none ∧ copy w action = w := by
  cases action with
  | userName model => exact .inl rfl
  | password model => exact .inl rfl
  | showPassword model => exact .inl rfl
  | website model index =>
      dsimp only [copy, CopyAction.selected, ShowWebSiteViewController.copyAction]
      split <;> simp
  | bankCard model index =>
      dsimp only [copy, CopyAction.selected, ShowBankCardViewController.copyAction]
      split <;> simp
  | generated screen arc4random =>
      dsimp only [copy, CopyAction.selected, CreatePasswordViewController.completion]
      split <;> simp_all

/-- The queue is empty, and a string of the app is only found when clearing is set to never. -/
structure Unscheduled (w : World) : Prop where
  tasks : w.tasks = []
  never : w.copiedAt = none ∨ w.clearPasteboardDuration = neverToDoTag

theorem Unscheduled.scheduled {w : World} (h : Unscheduled w) : Scheduled w := by
  intro string copiedAt hduration _ hcopied
  rcases h.never with hnone | hnever
  · rw [hnone] at hcopied
    exact absurd hcopied (by simp)
  · exact absurd hnever hduration

theorem Unscheduled.copy {w : World} (h : Unscheduled w) {action : CopyAction}
    (hguard : CopiesNothing w (.copy action)) : Unscheduled (copy w action) := by
  rcases copy_eq w action with heq | ⟨-, heq⟩
  · rw [heq]
    refine ⟨h.tasks, ?_⟩
    rcases hguard with hnever | hnone
    · exact .inr hnever
    · rw [hnone]
      exact .inl rfl
  · rw [heq]
    exact h

/-- No block is ever due: there is none. -/
theorem Unscheduled.fire {w : World} (h : Unscheduled w) (i : ℕ) : w.fire i = w := by
  simp [World.fire, h.tasks]

theorem Unscheduled.step {w : World} (h : Unscheduled w) (e : Event)
    (hguard : CopiesNothing w e) : Unscheduled (step w e) := by
  cases e with
  | copy action => exact h.copy hguard
  | foreign string => exact ⟨h.tasks, .inl rfl⟩
  | fire i =>
      show Unscheduled (w.fire i)
      rw [h.fire i]
      exact h
  | wait nanoseconds => exact ⟨h.tasks, h.never⟩

/-- A string that is copied while clearing is on has no block. -/
theorem Unscheduled.not_scheduled_step {w : World} (h : Unscheduled w) (e : Event)
    (hguard : ¬ CopiesNothing w e) : ¬ Scheduled (Pasteboard.step w e) := by
  cases e with
  | copy action =>
      obtain ⟨hduration, hselected⟩ := not_or.mp hguard
      obtain ⟨string, hstring⟩ := Option.ne_none_iff_exists'.mp hselected
      have hcopy : Pasteboard.copy w action = w.setString (some string) := by
        rcases copy_eq w action with heq | ⟨hnone, -⟩
        · rw [heq, hstring]
        · exact absurd hnone hselected
      intro hscheduled
      rw [Pasteboard.step, hcopy] at hscheduled
      -- the copy itself schedules nothing, and nothing was waiting before
      obtain ⟨task, htask, -⟩ := hscheduled string w.now hduration rfl rfl
      have hempty : (w.setString (some string)).tasks = [] := h.tasks
      rw [hempty] at htask
      exact absurd htask (List.not_mem_nil)
  | foreign string => exact absurd trivial hguard
  | fire i => exact absurd trivial hguard
  | wait nanoseconds => exact absurd trivial hguard

/-- Copied strings are always scheduled for clearing exactly in the runs that copy nothing, unless
clearing is set to never. -/
theorem scheduled_iff (file : AppConfig.File) (now : ℤ) (string : Option String)
    (es : List Event) :
    Always step Scheduled (launch file now string) es ↔
      Guarded step CopiesNothing (launch file now string) es := by
  have hlaunch : Unscheduled (launch file now string) := ⟨rfl, .inl rfl⟩
  exact always_iff_guarded (fun _ e h hguard => Unscheduled.step h e hguard)
    (fun _ e h hguard => Unscheduled.not_scheduled_step h e hguard)
    (fun _ h => Unscheduled.scheduled h) hlaunch

/-- A record with a password. -/
def sampleWebsite : PPWebsiteModel where
  aId := some 1
  iconImg := none
  account := some "john"
  password := some "secret"
  title := none
  link := none
  describe := none
  cTime := 0

/-- With the default configuration, a copied password has no block. -/
theorem not_scheduled_copyPwd :
    ¬ Always step Scheduled (launch none 0 none) [.copy (.password sampleWebsite)] := by
  rintro ⟨-, hscheduled⟩
  obtain ⟨task, htask, -⟩ := hscheduled "secret" 0 (by decide) rfl rfl
  exact absurd htask (List.not_mem_nil)

end PasswordPackage.Pasteboard
