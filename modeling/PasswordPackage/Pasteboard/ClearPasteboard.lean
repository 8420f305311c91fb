import Mathlib.Algebra.Group.Nat.Defs
import PasswordPackage.Settings.AppConfig

/-!
# Clearing the pasteboard

`clearPasteboardWithTargetString:` asks the main queue to run a block some seconds later; the block
empties the pasteboard if it still holds the given string. The queue may run a block any time after
it is due. Times are in nanoseconds.
-/

namespace PasswordPackage.Pasteboard

/-- A block that waits in the main queue. -/
structure ClearTask where
  targetString : Option String
  due : ℤ
deriving DecidableEq

/-- The saved configuration, the clock, the general pasteboard and the waiting blocks. `copiedAt` is
not data of the app: it is the time at which the app put there the string that the pasteboard holds,
and `none` when that string comes from elsewhere. -/
structure World where
  file : AppConfig.File
  now : ℤ
  string : Option String
  copiedAt : Option ℤ
  tasks : List ClearTask
deriving DecidableEq

/-- `NSEC_PER_SEC`. -/
def nsecPerSec : ℤ := 1000000000

/-- `PP_NEVER_TO_DO_TAG`. -/
def neverToDoTag : ℤ := 999999

/-- The configured number of seconds. -/
def World.clearPasteboardDuration (w : World) : ℤ :=
  (AppConfig.config w.file).clearPasteboardDuration

/-- `pasteboard.string = string` in the app. -/
def World.setString (w : World) (string : Option String) : World :=
  { w with string := string, copiedAt := string.map fun _ => w.now }

/-- Another app changes the pasteboard. -/
def World.foreign (w : World) (string : Option String) : World :=
  { w with string := string, copiedAt := none }

/-- `isEqualToString:`, where neither nil receiver nor nil argument is equal to anything. -/
def isEqualToString (currentString targetString : Option String) : Bool :=
  match currentString, targetString with
  | some current, some target => current == target
  | _, _ => false

/-- `clearPasteboardWithTargetString:`. -/
def clearPasteboardWithTargetString (targetString : Option String) (w : World) : World :=
  if w.clearPasteboardDuration = 0 then w
  else
    let delta := (w.clearPasteboardDuration * nsecPerSec).bmod (2 ^ 64)
    { w with tasks := w.tasks ++ [{ targetString := targetString, due := w.now + delta }] }

/-- The block. -/
def ClearTask.run (task : ClearTask) (w : World) : World :=
  if isEqualToString w.string task.targetString then
    { w with string := some "", copiedAt := none }
  else w

/-- The queue runs its `i`-th block, if that is due. -/
def World.fire (w : World) (i : ℕ) : World :=
  match w.tasks[i]? with
  | none => w
  | some task =>
      if task.due ≤ w.now then task.run { w with tasks := w.tasks.eraseIdx i } else w

/-- Time passes. -/
def World.wait (w : World) (nanoseconds : ℕ) : World :=
  { w with now := w.now + nanoseconds }

end PasswordPackage.Pasteboard
