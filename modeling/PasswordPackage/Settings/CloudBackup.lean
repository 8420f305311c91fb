import PasswordPackage.Data.ICloud
import PasswordPackage.Data.Restore
import PasswordPackage.Settings.SaveConfig

/-!
# Backup and restore

`backUpToiCloud` reads the database file and hands it to the pod, and `downFromiCloud` puts what the
pod retrieves in the place of the database file. The answers come later and in any order, between
statements, other presses, changes of the document from another device and relaunches.
-/

namespace PasswordPackage.CloudBackup

open Machine FMDB DataManager FileSystem Restore ICloud Settings

/-! ## The device -/

/-- The database file and its connection, the document in the ubiquity container, the calls that
wait for an answer, the saved configuration, and the texts shown to the user. -/
structure Device where
  world : World
  document : Option NSData
  calls : ℕ → Option Call
  nextCall : ℕ
  file : AppConfig.File
  texts : List String

/-- What iCloud answers in the course of a press. -/
structure Availability where
  checkCloudAvailability : Bool
  checkCloudUbiquityContainer : Bool
  quickCloudCheck : Bool
deriving DecidableEq

/-- `getDBFileData`. -/
def getDBFileData (w : World) : Option NSData :=
  w.files.read dbFilePath

/-- A text for the user. -/
def Device.shows (d : Device) (text : String) : Device :=
  { d with texts := d.texts ++ [text] }

/-- A new call, unless the pod has returned. -/
def Device.begins (d : Device) : Option Call → Device
  | none => d
  | some call =>
      { d with
        calls := Function.update d.calls d.nextCall (some call)
        nextCall := d.nextCall + 1 }

/-- The checks that both actions make before they call the pod. -/
def Device.presses (d : Device) (cloud : Availability) (call : Option Call) : Device :=
  if cloud.checkCloudAvailability = false then d.shows "本设备未登陆iCloud账号"
  else if cloud.checkCloudAvailability = false ∨ cloud.checkCloudUbiquityContainer = false then
    d.shows "当前iCloud连接失败,请检查网络设置并重试!"
  else d.begins call

/-- `backUpToiCloud`, up to the call of the pod. -/
def backUpToiCloud (cloud : Availability) (d : Device) : Device :=
  d.presses cloud (saveAndCloseDocument cloud.quickCloudCheck (getDBFileData d.world))

/-- `downFromiCloud`, up to the call of the pod. -/
def downFromiCloud (cloud : Availability) (documentState : ℕ) (d : Device) : Device :=
  d.presses cloud (retrieveCloudDocument cloud.quickCloudCheck documentState d.document)

/-- The completion block of `backUpToiCloud`. -/
def backUpHandler (reply : Reply) (now : ℤ) (d : Device) : Device :=
  { d with
    file := backUpCompletion reply.error.isSome now d.file
    texts := d.texts ++
      [if reply.error = none then "备份数据成功!" else "备份数据失败,请重试!"] }

/-- The data a restore works with, when the retrieval had no error. -/
def restoredData (reply : Reply) : Option (Option NSData) :=
  if reply.error = none then some reply.documentData else none

variable (S : Sqlite)

/-- The completion block of `downFromiCloud`. -/
def downHandler (reply : Reply) (outcome : FileOutcome) (now : ℤ) (d : Device) : Device :=
  let retrieveResult :=
    (restoredData reply).bind fun data => (retrieveToDBWithData d.world.files data outcome).2
  { d with
    world := Restore.downFromiCloud S d.world (restoredData reply) outcome
    file := downCompletion reply.error.isSome retrieveResult.isSome now d.file
    texts := d.texts ++ [if reply.error = none ∧ retrieveResult = none then "恢复数据成功!"
      else "恢复数据失败,请重试!"] }

/-- The call `id` goes on. -/
def proceeds (id : ℕ) (outcome : FileOutcome) (now : ℤ) (d : Device) (progress : Progress) :
    Device :=
  let d := { d with calls := Function.update d.calls id progress.call }
  match progress with
  | .waits _ => d
  | .saved reply => backUpHandler reply now d
  | .retrieved reply => downHandler S reply outcome now d

/-- An answer comes with the outcome of the file operations that a restore would do, and the
time. `synced` is a change of the document from another device. -/
inductive Event where
  | exec (op : Op)
  | backUpToiCloud (cloud : Availability)
  | downFromiCloud (cloud : Availability) (documentState : ℕ)
  | answered (id : ℕ) (success : Bool) (outcome : FileOutcome) (now : ℤ)
  | synced (document : Option NSData)
  | relaunch
deriving DecidableEq

def step (d : Device) : Event → Device
  | .exec op => { d with world := (exec S d.world op).1 }
  | .backUpToiCloud cloud => backUpToiCloud cloud d
  | .downFromiCloud cloud documentState => downFromiCloud cloud documentState d
  | .answered id success outcome now =>
      match d.calls id with
      | none => d
      | some call =>
          proceeds S id outcome now
            { d with document := (ICloud.answered d.document call success).1 }
            (ICloud.answered d.document call success).2
  | .synced document => { d with document := document }
  | .relaunch => { d with world := openDB S d.world.files, calls := fun _ => none }

/-- The app is launched: nothing is under way. -/
def launch (files : Files String NSData) (document : Option NSData) (file : AppConfig.File) :
    Device where
  world := openDB S files
  document := document
  calls := fun _ => none
  nextCall := 0
  file := file
  texts := []

/-! ## The database file -/

/-- What an event does to the database file and its connection. -/
def worldEvent (d : Device) : Event → Option Restore.Event
  | .exec op => some (.exec op)
  | .answered id success outcome _ =>
      match (d.calls id).map fun call => (ICloud.answered d.document call success).2 with
      | some (.retrieved reply) => some (.downFromiCloud (restoredData reply) outcome)
      | _ => none
  | .relaunch => some .relaunch
  | .backUpToiCloud _ | .downFromiCloud _ _ | .synced _ => none

variable {S} {d : Device}

/-- A press shows a text, begins a call, or does nothing. -/
theorem presses_cases (cloud : Availability) (call : Option Call) :
    (∃ text, d.presses cloud call = d.shows text) ∨ d.presses cloud call = d ∨
      ∃ call', call = some call' ∧ d.presses cloud call = d.begins (some call') := by
  unfold Device.presses
  split
  · exact Or.inl ⟨_, rfl⟩
  · split
    · exact Or.inl ⟨_, rfl⟩
    · cases call with
      | none => exact Or.inr (Or.inl rfl)
      | some call' => exact Or.inr (Or.inr ⟨call', rfl, rfl⟩)

theorem world_presses (cloud : Availability) (call : Option Call) :
    (d.presses cloud call).world = d.world := by
  rcases presses_cases (d := d) cloud call with ⟨text, h⟩ | h | ⟨call', -, h⟩
  all_goals rw [h]
  all_goals rfl

/-- The device does to its database what the restores, statements and relaunches of it do. -/
theorem world_step (e : Event) :
    (step S d e).world = match worldEvent d e with
      | none => d.world
      | some e' => Restore.step S d.world e' := by
  cases e with
  | exec op => rfl
  | backUpToiCloud cloud => exact world_presses cloud _
  | downFromiCloud cloud documentState => exact world_presses cloud _
  | synced document => rfl
  | relaunch => rfl
  | answered id success outcome now =>
      simp only [step, worldEvent]
      cases d.calls id with
      | none => rfl
      | some call =>
          rw [Option.map_some]
          dsimp only
          cases (ICloud.answered d.document call success).2 <;> rfl

/-- No restore of the run removes the database file and then fails to write it. -/
def Recoverable (d : Device) (e : Event) : Prop :=
  ∀ e' ∈ worldEvent d e, Restore.Recoverable d.world e'

theorem connected_step (h : Connected d.world) {e : Event} (hrecoverable : Recoverable d e) :
    Connected (step S d e).world := by
  rw [world_step]
  cases he : worldEvent d e with
  | none => exact h
  | some e' => exact h.step e' (hrecoverable e' he)

theorem connected_run (h : Connected d.world) {es : List Event}
    (hrecoverable : Guarded (step S) Recoverable d es) :
    Connected (run (step S) d es).world := by
  have halways : Always (step S) (fun d => Connected d.world) d es :=
    hrecoverable.always (fun _ _ h hrecoverable => connected_step h hrecoverable) h
  exact always_iff_run.mp halways es List.prefix_rfl

/-! ## The calls -/

theorem nextCall_presses (cloud : Availability) (call : Option Call) :
    d.nextCall ≤ (d.presses cloud call).nextCall := by
  rcases presses_cases (d := d) cloud call with ⟨text, h⟩ | h | ⟨call', -, h⟩
  · rw [h]
    exact Nat.le_refl _
  · rw [h]
  · rw [h]
    exact Nat.le_succ _

theorem document_presses (cloud : Availability) (call : Option Call) :
    (d.presses cloud call).document = d.document := by
  rcases presses_cases (d := d) cloud call with ⟨text, h⟩ | h | ⟨call', -, h⟩
  all_goals rw [h]
  all_goals rfl

/-- A press leaves the calls before it alone. -/
theorem calls_presses (cloud : Availability) (call : Option Call) {id : ℕ}
    (hid : id < d.nextCall) : (d.presses cloud call).calls id = d.calls id := by
  rcases presses_cases (d := d) cloud call with ⟨text, h⟩ | h | ⟨call', -, h⟩
  · rw [h]
    rfl
  · rw [h]
  · rw [h]
    exact Function.update_of_ne (Nat.ne_of_lt hid) _ _

section Proceeds

variable (id : ℕ) (outcome : FileOutcome) (now : ℤ) (progress : Progress)

theorem calls_proceeds :
    (proceeds S id outcome now d progress).calls =
      Function.update d.calls id progress.call := by
  cases progress <;> rfl

theorem nextCall_proceeds : (proceeds S id outcome now d progress).nextCall = d.nextCall := by
  cases progress <;> rfl

theorem document_proceeds : (proceeds S id outcome now d progress).document = d.document := by
  cases progress <;> rfl

end Proceeds

theorem step_answered {id : ℕ} {call : Call} (hcall : d.calls id = some call) (success : Bool)
    (outcome : FileOutcome) (now : ℤ) :
    step S d (.answered id success outcome now) =
      proceeds S id outcome now
        { d with document := (ICloud.answered d.document call success).1 }
        (ICloud.answered d.document call success).2 := by
  simp only [step, hcall]

theorem nextCall_step (e : Event) : d.nextCall ≤ (step S d e).nextCall := by
  cases e with
  | exec op => exact Nat.le_refl _
  | synced document => exact Nat.le_refl _
  | relaunch => exact Nat.le_refl _
  | backUpToiCloud cloud => exact nextCall_presses cloud _
  | downFromiCloud cloud documentState => exact nextCall_presses cloud _
  | answered id success outcome now =>
      cases hcall : d.calls id with
      | none => simp [step, hcall]
      | some call =>
          rw [step_answered hcall, nextCall_proceeds]

/-- A call goes on when it is answered, is dropped by a relaunch, and else waits. -/
theorem calls_step {id : ℕ} (hid : id < d.nextCall) (e : Event) :
    (step S d e).calls id = d.calls id ∨ (step S d e).calls id = none ∨
      ∃ success outcome now call, e = .answered id success outcome now ∧
        d.calls id = some call ∧
        (step S d e).calls id = (ICloud.answered d.document call success).2.call := by
  cases e with
  | exec op => exact Or.inl rfl
  | synced document => exact Or.inl rfl
  | relaunch => exact Or.inr (Or.inl rfl)
  | backUpToiCloud cloud => exact Or.inl (calls_presses cloud _ hid)
  | downFromiCloud cloud documentState => exact Or.inl (calls_presses cloud _ hid)
  | answered id' success outcome now =>
      cases hcall : d.calls id' with
      | none => exact Or.inl (by simp [step, hcall])
      | some call =>
          rw [step_answered hcall, calls_proceeds]
          by_cases hsame : id = id'
          · subst hsame
            exact Or.inr (Or.inr ⟨success, outcome, now, call, rfl, hcall,
              Function.update_self ..⟩)
          · exact Or.inl (Function.update_of_ne hsame _ _)

/-! ## A backup on its way -/

/-- The call `id` is a backup of `contents`, or is over. -/
def Saving (id : ℕ) (contents : NSData) (d : Device) : Prop :=
  id < d.nextCall ∧
    (d.calls id = some (.writing contents) ∨ d.calls id = some (.closing contents) ∨
      d.calls id = none)

theorem saving_step {id : ℕ} {contents : NSData} (h : Saving id contents d) (e : Event) :
    Saving id contents (step S d e) := by
  obtain ⟨hid, hcall⟩ := h
  refine ⟨Nat.lt_of_lt_of_le hid (nextCall_step e), ?_⟩
  rcases calls_step (S := S) hid e with
    hsame | hnone | ⟨success, outcome, now, call, rfl, hwas, his⟩
  · rw [hsame]
    exact hcall
  · exact Or.inr (Or.inr hnone)
  · rw [his]
    rw [hwas] at hcall
    rcases hcall with hwriting | hclosing | hover
    · obtain rfl := Option.some.inj hwriting
      cases success with
      | true => exact Or.inr (Or.inl rfl)
      | false => exact Or.inr (Or.inr rfl)
    · obtain rfl := Option.some.inj hclosing
      cases success <;> exact Or.inr (Or.inr rfl)
    · cases hover

theorem saving_run {id : ℕ} {contents : NSData} (h : Saving id contents d) (es : List Event) :
    Saving id contents (run (step S) d es) := by
  have hkeeps : ∀ d e, Saving id contents d → Saving id contents (step S d e) :=
    fun _ e h => saving_step h e
  exact run_invariant hkeeps h es

theorem eq_of_saving {id : ℕ} {contents contents' : NSData} (h : Saving id contents d)
    (hcall : d.calls id = some (.writing contents') ∨ d.calls id = some (.closing contents')) :
    contents' = contents := by
  rcases h.2 with h | h | h <;> rcases hcall with hcall | hcall <;> rw [hcall] at h <;> cases h
  all_goals rfl

/-! ## A restore on its way -/

/-- The event leaves the document as it is. -/
def KeepsDocument (d : Device) : Event → Prop
  | .synced _ => False
  | .answered id _ _ _ => ∀ call ∈ d.calls id, ¬ call.Writes
  | .exec _ | .backUpToiCloud _ | .downFromiCloud _ _ | .relaunch => True

theorem document_step {e : Event} (h : KeepsDocument d e) :
    (step S d e).document = d.document := by
  cases e with
  | exec op => rfl
  | synced document => exact h.elim
  | relaunch => rfl
  | backUpToiCloud cloud => exact document_presses cloud _
  | downFromiCloud cloud documentState => exact document_presses cloud _
  | answered id success outcome now =>
      cases hcall : d.calls id with
      | none => simp [step, hcall]
      | some call =>
          rw [step_answered hcall, document_proceeds]
          exact answered_document_of_not_writes (h call hcall) d.document success

/-- The document is `contents`, and the call `id` opens it, hands over `contents` or an error, or is
over. -/
def Restoring (id : ℕ) (contents : NSData) (d : Device) : Prop :=
  d.document = some contents ∧ id < d.nextCall ∧
    (d.calls id = some .opening ∨
      (∃ data error, d.calls id = some (.dispatched { documentData := data, error := error }) ∧
        (error = none → data = some contents)) ∨
      d.calls id = none)

theorem restoring_step {id : ℕ} {contents : NSData} (h : Restoring id contents d) {e : Event}
    (hkeeps : KeepsDocument d e) : Restoring id contents (step S d e) := by
  obtain ⟨hdocument, hid, hcall⟩ := h
  refine ⟨(document_step hkeeps).trans hdocument, Nat.lt_of_lt_of_le hid (nextCall_step e), ?_⟩
  rcases calls_step (S := S) hid e with
    hsame | hnone | ⟨success, outcome, now, call, rfl, hwas, his⟩
  · rw [hsame]
    exact hcall
  · exact Or.inr (Or.inr hnone)
  · rw [his]
    rw [hwas] at hcall
    rcases hcall with hopening | ⟨data, error, hdispatched, -⟩ | hover
    · obtain rfl := Option.some.inj hopening
      right
      left
      rcases answered_opening d.document success with herror | ⟨contents', hcontents, hdata⟩
      · exact ⟨some [], some 200, by rw [herror]; rfl, fun hnone => by cases hnone⟩
      · rw [hdocument] at hcontents
        obtain rfl := Option.some.inj hcontents
        exact ⟨_, _, by rw [hdata]; rfl, fun _ => rfl⟩
    · obtain rfl := Option.some.inj hdispatched
      exact Or.inr (Or.inr rfl)
    · cases hover

theorem restoring_run {id : ℕ} {contents : NSData} (h : Restoring id contents d) {es : List Event}
    (hkeeps : Guarded (step S) KeepsDocument d es) :
    Restoring id contents (run (step S) d es) := by
  have halways : Always (step S) (Restoring id contents) d es :=
    hkeeps.always (fun _ _ h hkeeps => restoring_step h hkeeps) h
  exact always_iff_run.mp halways es List.prefix_rfl

theorem document_run {es : List Event} (hkeeps : Guarded (step S) KeepsDocument d es) :
    (run (step S) d es).document = d.document := by
  have halways : Always (step S) (fun d' => d'.document = d.document) d es :=
    hkeeps.always (fun _ _ h hkeeps => (document_step hkeeps).trans h) rfl
  exact always_iff_run.mp halways es List.prefix_rfl

theorem eq_of_restoring {id : ℕ} {contents : NSData} {data : Option NSData}
    (h : Restoring id contents d)
    (hcall : d.calls id = some (.dispatched { documentData := data, error := none })) :
    data = some contents := by
  rcases h.2.2 with h | ⟨data', error, h, hdata⟩ | h
  · rw [hcall] at h
    cases h
  · rw [hcall] at h
    cases h
    exact hdata rfl
  · rw [hcall] at h
    cases h

/-! ## From a backup to a restore -/

/-- iCloud is there, all through a press. -/
def Availability.Ready (cloud : Availability) : Prop :=
  cloud.checkCloudAvailability = true ∧ cloud.checkCloudUbiquityContainer = true ∧
    cloud.quickCloudCheck = true

theorem presses_of_ready {cloud : Availability} (h : cloud.Ready) (call : Option Call) :
    d.presses cloud call = d.begins call := by
  simp [Device.presses, h.1, h.2.1]

/-- A backup uploads what is under the path, and an empty document when there is nothing. -/
theorem saving_backUpToiCloud {cloud : Availability} (h : cloud.Ready) :
    Saving d.nextCall ((getDBFileData d.world).getD [])
      (step S d (.backUpToiCloud cloud)) := by
  have hpress : step S d (.backUpToiCloud cloud) =
      d.begins (some (.writing ((getDBFileData d.world).getD []))) := by
    simp [step, backUpToiCloud, presses_of_ready h, saveAndCloseDocument, h.2.2, contentsForType]
  rw [hpress]
  exact ⟨Nat.lt_succ_self _, Or.inl (Function.update_self ..)⟩

/-- What is under the path is what a connection to it works on. -/
theorem getDBFileData_of_connected {w : World} (h : Connected w) :
    getDBFileData w = some (w.files.content w.dataBase) :=
  Files.Attached.read h

/-- Once the writing is answered, the document is what was uploaded. -/
theorem document_answered_writing {id : ℕ} {contents : NSData}
    (hcall : d.calls id = some (.writing contents)) (outcome : FileOutcome) (now : ℤ) :
    (step S d (.answered id true outcome now)).document = some contents := by
  rw [step_answered hcall, document_proceeds]
  rfl

theorem restoring_downFromiCloud {cloud : Availability} (h : cloud.Ready) {documentState : ℕ}
    (hclosed : documentState &&& UIDocumentStateClosed ≠ 0) {contents : NSData}
    (hdocument : d.document = some contents) :
    Restoring d.nextCall contents (step S d (.downFromiCloud cloud documentState)) := by
  have hpress : step S d (.downFromiCloud cloud documentState) = d.begins (some .opening) := by
    simp [step, downFromiCloud, presses_of_ready h, retrieveCloudDocument, h.2.2, hdocument,
      hclosed]
  rw [hpress]
  exact ⟨hdocument, Nat.lt_succ_self _, Or.inl (Function.update_self ..)⟩

/-- A restore that reports no error has written its data. -/
theorem read_of_retrieve {files : Files String NSData} {data : Option NSData}
    {outcome : FileOutcome} (h : (retrieveToDBWithData files data outcome).2 = none) :
    (retrieveToDBWithData files data outcome).1.read dbFilePath = data := by
  revert h
  unfold retrieveToDBWithData writeToFile
  cases (files.entry dbFilePath).isSome <;> cases outcome.removeError <;> cases data <;>
    cases outcome.written <;> simp [Files.create, Files.read]

theorem retrieve_of_written (files : Files String NSData) (contents : NSData) :
    (retrieveToDBWithData files (some contents) { removeError := none, written := true }).2 =
      none := by
  unfold retrieveToDBWithData writeToFile
  cases (files.entry dbFilePath).isSome <;> rfl

/-- A restore that reports no error opens its data. -/
theorem downFromiCloud_of_retrieve {w : World} {contents : NSData} {outcome : FileOutcome}
    (h : (retrieveToDBWithData w.files (some contents) outcome).2 = none) :
    (Restore.downFromiCloud S w (some (some contents)) outcome).files.read dbFilePath =
        some (S.openTables contents) ∧
      Connected (Restore.downFromiCloud S w (some (some contents)) outcome) := by
  have hread := read_of_retrieve h
  unfold Restore.downFromiCloud
  dsimp only
  split
  · next files heq =>
      rw [heq] at hread
      exact ⟨relaunched_of_read (w := ⟨files, 0⟩) hread, connected_openDB files⟩
  · next files error heq =>
      rw [heq] at h
      cases h

/-- What a device shows, saves and works on after a restore of `contents`. -/
structure Restored (S : Sqlite) (contents : NSData) (now : ℤ) (before after : Device) : Prop where
  read : after.world.files.read dbFilePath = some (S.openTables contents)
  connected : Connected after.world
  texts : after.texts = before.texts ++ ["恢复数据成功!"]
  config : AppConfig.config after.file =
    { AppConfig.config before.file with pinCode := 0, lastDownloadTimeStamp := now }

theorem restored_answered {id : ℕ} {contents : NSData}
    (hcall : d.calls id =
      some (.dispatched { documentData := some contents, error := none }))
    (success : Bool) (now : ℤ) :
    Restored S contents now d
      (step S d (.answered id success { removeError := none, written := true } now)) := by
  have hnone := retrieve_of_written d.world.files contents
  obtain ⟨hread, hconnected⟩ := downFromiCloud_of_retrieve (S := S) hnone
  rw [step_answered hcall]
  refine ⟨hread, hconnected, ?_, ?_⟩
  · simp [ICloud.answered, proceeds, downHandler, restoredData, hnone]
  · simp [ICloud.answered, proceeds, downHandler, restoredData, hnone, downCompletion,
      modifyConfig]

/-- A backup that was written comes back with a later restore, as long as no restore before it loses
the database file and nothing else writes the document: the restored database is the one the
connection worked on when the backup was pressed. -/
theorem restored_of_backUp {files : Files String NSData} {document : Option NSData}
    {file : AppConfig.File} {before during after during' : List Event}
    {cloud cloud' : Availability} {documentState : ℕ} {outcome : FileOutcome} {time : ℤ}
    {d d₁ d₂ d₃ : Device}
    (hbefore : Guarded (step S) Recoverable (launch S files document file) before)
    (hd : d = run (step S) (launch S files document file) before)
    (hready : cloud.Ready)
    (hd₁ : d₁ = run (step S) (step S d (.backUpToiCloud cloud)) during)
    (hwriting : ∃ contents, d₁.calls d.nextCall = some (.writing contents))
    (hd₂ : d₂ = run (step S) (step S d₁ (.answered d.nextCall true outcome time)) after)
    (hafter : Guarded (step S) KeepsDocument
      (step S d₁ (.answered d.nextCall true outcome time)) after)
    (hready' : cloud'.Ready) (hclosed : documentState &&& UIDocumentStateClosed ≠ 0)
    (hd₃ : d₃ = run (step S) (step S d₂ (.downFromiCloud cloud' documentState)) during')
    (hduring' : Guarded (step S) KeepsDocument
      (step S d₂ (.downFromiCloud cloud' documentState)) during')
    (hdispatched : ∃ data,
      d₃.calls d₂.nextCall = some (.dispatched { documentData := data, error := none }))
    (success : Bool) (now : ℤ) :
    Restored S (d.world.files.content d.world.dataBase) now d₃
      (step S d₃
        (.answered d₂.nextCall success { removeError := none, written := true } now)) := by
  have hconnected : Connected d.world := by
    rw [hd]
    exact connected_run (connected_openDB files) hbefore
  -- until it is written, the backup holds what the connection worked on
  have hsaving : Saving d.nextCall (d.world.files.content d.world.dataBase) d₁ := by
    have hstart := saving_backUpToiCloud (S := S) (d := d) hready
    rw [getDBFileData_of_connected hconnected, Option.getD_some] at hstart
    rw [hd₁]
    exact saving_run hstart during
  obtain ⟨contents, hcall⟩ := hwriting
  obtain rfl := eq_of_saving hsaving (Or.inl hcall)
  -- from then on it is the document
  have hdocument : d₂.document = some (d.world.files.content d.world.dataBase) := by
    rw [hd₂, document_run hafter]
    exact document_answered_writing hcall outcome time
  have hrestoring : Restoring d₂.nextCall (d.world.files.content d.world.dataBase) d₃ := by
    rw [hd₃]
    exact restoring_run (restoring_downFromiCloud hready' hclosed hdocument) hduring'
  obtain ⟨data, hcall'⟩ := hdispatched
  obtain rfl := eq_of_restoring hrestoring hcall'
  exact restored_answered hcall' success now

/-- iCloud is there. -/
def available : Availability where
  checkCloudAvailability := true
  checkCloudUbiquityContainer := true
  quickCloudCheck := true

theorem ready_available : available.Ready :=
  ⟨rfl, rfl, rfl⟩

/-- Both file operations of a restore succeed. -/
def written : FileOutcome where
  removeError := none
  written := true

/-- A backup of two bytes, and a restore after a relaunch. -/
theorem restored_of_backUp_twoBytes :
    (run (step countingSqlite) (launch countingSqlite twoBytes none none)
      [.backUpToiCloud available, .answered 0 true written 5, .relaunch,
        .downFromiCloud available 1, .answered 1 true written 6,
        .answered 1 true written 7]).world.files.read dbFilePath = some [7, 7] := by
  have hopening : Guarded (step countingSqlite) KeepsDocument
      (run (step countingSqlite) (launch countingSqlite twoBytes none none)
        [.backUpToiCloud available, .answered 0 true written 5, .relaunch,
          .downFromiCloud available 1]) [.answered 1 true written 6] := by
    refine ⟨?_, trivial⟩
    intro call hcall
    cases hcall
    exact False.elim
  exact (@restored_of_backUp countingSqlite twoBytes none none [] [] [.relaunch]
    [.answered 1 true written 6] available available 1 written 5 _ _ _ _ trivial rfl
    ready_available rfl ⟨[7, 7], rfl⟩ rfl ⟨trivial, trivial⟩ ready_available (by decide) rfl
    hopening ⟨some [7, 7], rfl⟩ true 7).read

end PasswordPackage.CloudBackup
