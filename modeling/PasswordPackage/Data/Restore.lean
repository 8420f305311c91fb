import PasswordPackage.Common.FileSystem
import PasswordPackage.Common.Run
import PasswordPackage.Data.Refinement

/-!
# Restoring the database from iCloud

`retrieveToDBWithData:` removes the database file and then writes the downloaded data in its place.
When the write fails the old file is gone: nothing is left under the path, and the open connection
works on a file that no longer has a name, so what it stores does not outlive the process.
-/

namespace PasswordPackage.Restore

open Machine FMDB DataManager FileSystem

/-! ## The database file -/

/-- What SQLite makes of a database file, byte for byte. A statement either succeeds with a new
content or fails. `execMoved` is a statement on a connection whose file is no longer under its path,
which SQLite may refuse. -/
structure Sqlite where
  create : NSData
  openTables : NSData → NSData
  exec : NSData → Op → Option NSData
  execMoved : NSData → Op → Option NSData

/-- `dbFilePath`. -/
def dbFilePath : String := "Documents/pp.sqlite"

/-- The files, and the file the connection `dataBase` is open on. -/
structure World where
  files : Files String NSData
  dataBase : ℕ

variable (S : Sqlite)

/-- `openDB`: open the file under the path, or a new one, and create the missing tables. -/
def openDB (files : Files String NSData) : World :=
  match files.entry dbFilePath with
  | none => { files := files.create dbFilePath S.create, dataBase := files.next }
  | some file =>
      { files := files.write file (S.openTables (files.content file)), dataBase := file }

/-- A statement of the data manager: the new world, and whether it reports success. -/
def exec (w : World) (op : Op) : World × Bool :=
  let content := w.files.content w.dataBase
  let result :=
    if w.files.entry dbFilePath = some w.dataBase then S.exec content op
    else S.execMoved content op
  match result with
  | some content => ({ w with files := w.files.write w.dataBase content }, true)
  | none => (w, false)

/-! ## Restoring -/

structure NSError where
  domain : String
  code : ℤ
  localizedDescription : String
deriving DecidableEq

/-- How the two file operations of a restore end: `removeItemAtPath:` with an error or without, and
`writeToFile:` with `YES` or `NO`. -/
structure FileOutcome where
  removeError : Option NSError
  written : Bool
deriving DecidableEq

/-- `[data writeToFile:filePath atomically:YES]`; sent to nil, it answers `NO`. -/
def writeToFile (files : Files String NSData) (data : Option NSData) (written : Bool) :
    Files String NSData × Bool :=
  match data with
  | none => (files, false)
  | some bytes => if written then (files.create dbFilePath bytes, true) else (files, false)

/-- The error for a write that failed. -/
def writeError : NSError where
  domain := "password_package"
  code := 100
  localizedDescription := "写入文件失败"

/-- `retrieveToDBWithData:`. -/
def retrieveToDBWithData (files : Files String NSData) (data : Option NSData)
    (outcome : FileOutcome) : Files String NSData × Option NSError :=
  let write (files : Files String NSData) : Files String NSData × Option NSError :=
    match writeToFile files data outcome.written with
    | (files, true) => (files, none)
    | (files, false) => (files, some writeError)
  if (files.entry dbFilePath).isSome then
    match outcome.removeError with
    | some error => (files, some error)
    | none => write (files.unlink dbFilePath)
  else write files

/-- The completion of `downFromiCloud`; `document` is `none` when the download ended in an error. -/
def downFromiCloud (w : World) (document : Option (Option NSData)) (outcome : FileOutcome) :
    World :=
  match document with
  | none => w
  | some data =>
      match retrieveToDBWithData w.files data outcome with
      | (files, none) => openDB S files
      | (files, some _) => { w with files := files }

inductive Event where
  | exec (op : Op)
  | downFromiCloud (document : Option (Option NSData)) (outcome : FileOutcome)
  | relaunch
deriving DecidableEq

def step (w : World) : Event → World
  | .exec op => (exec S w op).1
  | .downFromiCloud document outcome => downFromiCloud S w document outcome
  | .relaunch => openDB S w.files

/-! ## All or nothing -/

/-- The world after some statements. -/
def execs (w : World) (ops : List Op) : World :=
  ops.foldl (fun w op => (exec S w op).1) w

/-- What the statements report, one after the other. -/
def reports (w : World) : List Op → List Bool
  | [] => []
  | op :: ops => (exec S w op).2 :: reports (exec S w op).1 ops

/-- The database file after a relaunch. -/
def relaunched (w : World) : Option NSData :=
  (openDB S w.files).files.read dbFilePath

/-- The content after the statements that a connection to it would report as successful. -/
def replay (content : NSData) (ops : List Op) : NSData :=
  ops.foldl (fun content op => (S.exec content op).getD content) content

/-- Nothing is lost between two worlds: the file is the same, and whatever statements follow, they
report the same, and after a relaunch the file is the same and holds all that was reported. -/
structure Unharmed (w w' : World) : Prop where
  sameFile : w'.files.read dbFilePath = w.files.read dbFilePath
  sameReports : ∀ ops, reports S w' ops = reports S w ops
  sameRelaunched : ∀ ops, relaunched S (execs S w' ops) = relaunched S (execs S w ops)
  kept : ∀ ops, relaunched S (execs S w' ops) =
    (w.files.read dbFilePath).map fun content => S.openTables (replay S content ops)

/-- A restore that returns an error leaves everything unharmed. -/
def AllOrNothingStep (w : World) : Event → Prop
  | .downFromiCloud (some data) outcome =>
      (retrieveToDBWithData w.files data outcome).2 ≠ none →
        Unharmed S w { w with files := (retrieveToDBWithData w.files data outcome).1 }
  | _ => True

/-- Every restore of the run after a launch is all or nothing. -/
def AllOrNothing (files : Files String NSData) (es : List Event) : Prop :=
  Guarded (step S) (AllOrNothingStep S) (openDB S files) es

/-- The file is not removed in a restore whose write then fails. -/
def Recoverable (w : World) : Event → Prop
  | .downFromiCloud (some data) outcome =>
      ¬ ((w.files.entry dbFilePath).isSome = true ∧ outcome.removeError = none ∧
        (data = none ∨ outcome.written = false))
  | _ => True

/-! ## A connection to the file under the path -/

/-- The connection is open on the file under the path. -/
def Connected (w : World) : Prop :=
  w.files.Attached dbFilePath w.dataBase

variable {S}

theorem connected_openDB (files : Files String NSData) : Connected (openDB S files) := by
  unfold openDB Connected
  cases h : files.entry dbFilePath with
  | none => exact attached_create S.create
  | some file => exact Files.Attached.write h file _

/-- A statement on the file under the path does to it what SQLite does to its content. -/
theorem Connected.exec {w : World} (h : Connected w) (op : Op) {content : NSData}
    (hread : w.files.read dbFilePath = some content) :
    Connected (exec S w op).1 ∧
      (exec S w op).1.files.read dbFilePath = some ((S.exec content op).getD content) := by
  have hcontent : w.files.content w.dataBase = content := by
    rw [Files.Attached.read h] at hread
    exact Option.some.inj hread
  have hentry : w.files.entry dbFilePath = some w.dataBase := h
  unfold Restore.exec
  simp only [hcontent, if_pos hentry]
  cases hexec : S.exec content op with
  | none => exact ⟨h, hread⟩
  | some content' => exact ⟨Files.Attached.write h _ _, Files.Attached.read_write h content'⟩

theorem Connected.execs {w : World} (h : Connected w) (ops : List Op) {content : NSData}
    (hread : w.files.read dbFilePath = some content) :
    (execs S w ops).files.read dbFilePath = some (replay S content ops) := by
  induction ops generalizing w content with
  | nil => exact hread
  | cons op ops ih =>
      obtain ⟨hnext, hreadNext⟩ := h.exec (S := S) op hread
      exact ih hnext hreadNext

theorem relaunched_of_read {w : World} {content : NSData}
    (hread : w.files.read dbFilePath = some content) :
    relaunched S w = some (S.openTables content) := by
  obtain ⟨file, hentry, hcontent⟩ := Option.map_eq_some_iff.mp hread
  have hattached : w.files.Attached dbFilePath file := hentry
  unfold relaunched openDB
  simp only [hentry]
  rw [hattached.read_write, hcontent]

/-- Without any restore, a connection keeps all that it reports. -/
theorem Connected.unharmed {w : World} (h : Connected w) : Unharmed S w w where
  sameFile := rfl
  sameReports := fun _ => rfl
  sameRelaunched := fun _ => rfl
  kept := by
    intro ops
    have hread := Files.Attached.read h
    rw [hread, Option.map_some, relaunched_of_read (h.execs ops hread)]

/-! ## Restores that fail -/

/-- An error leaves the files alone, except after the file was removed. -/
theorem retrieve_error {files : Files String NSData} {data : Option NSData}
    {outcome : FileOutcome} (herror : (retrieveToDBWithData files data outcome).2 ≠ none) :
    (retrieveToDBWithData files data outcome).1 =
      if (files.entry dbFilePath).isSome = true ∧ outcome.removeError = none ∧
          (data = none ∨ outcome.written = false)
        then files.unlink dbFilePath else files := by
  revert herror
  unfold retrieveToDBWithData writeToFile
  cases hexists : (files.entry dbFilePath).isSome <;> cases hremove : outcome.removeError <;>
    cases data <;> cases hwritten : outcome.written <;> simp

/-- A restore that removes the file and then fails to write returns an error. -/
theorem retrieve_error_of_not_recoverable {w : World} {data : Option NSData}
    {outcome : FileOutcome} (h : ¬ Recoverable w (.downFromiCloud (some data) outcome)) :
    (retrieveToDBWithData w.files data outcome).2 ≠ none := by
  obtain ⟨hexists, hremove, hwrite⟩ := not_not.mp h
  unfold retrieveToDBWithData writeToFile
  rcases hwrite with rfl | hwritten
  · simp [hexists, hremove]
  · cases data <;> simp [hexists, hremove, hwritten]

theorem Connected.allOrNothingStep_iff {w : World} (h : Connected w) (e : Event) :
    AllOrNothingStep S w e ↔ Recoverable w e := by
  cases e with
  | exec op => exact Iff.rfl
  | relaunch => exact Iff.rfl
  | downFromiCloud document outcome =>
      cases document with
      | none => exact Iff.rfl
      | some data =>
          constructor
          · intro hstep
            by_contra hlost
            have herror := retrieve_error_of_not_recoverable hlost
            -- the path named the file of the connection before, and names nothing now
            have hfile := (hstep herror).sameFile
            dsimp only at hfile
            rw [retrieve_error herror, if_pos (not_not.mp hlost), read_unlink,
              Files.Attached.read h] at hfile
            exact absurd hfile (by simp)
          · intro hrecoverable herror
            rw [retrieve_error herror, if_neg hrecoverable]
            exact h.unharmed

theorem Connected.step {w : World} (h : Connected w) (e : Event) (hrecoverable : Recoverable w e) :
    Connected (step S w e) := by
  cases e with
  | exec op => exact (h.exec op (Files.Attached.read h)).1
  | relaunch => exact connected_openDB w.files
  | downFromiCloud document outcome =>
      cases document with
      | none => exact h
      | some data =>
          show Connected (downFromiCloud S w (some data) outcome)
          unfold downFromiCloud
          dsimp only
          split
          · -- a restore that succeeds opens the new file
            exact connected_openDB _
          · next files error heq =>
              have hfiles : (retrieveToDBWithData w.files data outcome).1 = w.files := by
                rw [retrieve_error (by rw [heq]; simp), if_neg hrecoverable]
              rw [heq] at hfiles
              obtain rfl : files = w.files := hfiles
              exact h

/-- Restores are all or nothing exactly in the runs in which no restore removes the file and then
fails to write. -/
theorem allOrNothing_iff (S : Sqlite) (files : Files String NSData) (es : List Event) :
    AllOrNothing S files es ↔ Guarded (step S) Recoverable (openDB S files) es :=
  guarded_congr (fun _ e h hrecoverable => h.step e hrecoverable)
    (fun _ e h => h.allOrNothingStep_iff e) (connected_openDB files)

/-- An engine that appends a byte for every statement. -/
def countingSqlite : Sqlite where
  create := []
  openTables := id
  exec := fun content _ => some (content ++ [1])
  execMoved := fun content _ => some (content ++ [1])

/-- A database file of two bytes. -/
def twoBytes : Files String NSData where
  entry := fun p => if p = dbFilePath then some 0 else none
  content := fun _ => [7, 7]
  next := 1

/-- A download that cannot be written, after the file was removed. -/
def failedWrite : List Event :=
  [.downFromiCloud (some (some [9])) { removeError := none, written := false }]

theorem not_allOrNothing_failedWrite :
    ¬ AllOrNothing countingSqlite twoBytes failedWrite := by
  rintro ⟨h, -⟩
  have hfile := (h (by decide)).sameFile
  revert hfile
  decide

end PasswordPackage.Restore
