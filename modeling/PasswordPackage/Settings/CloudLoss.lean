import PasswordPackage.Settings.CloudBackup

/-!
# Restores and backups that lose data

Neither action looks at what it is about to overwrite. A restore takes an empty document for a
backup when there was none, and a backup takes a database file that is gone for an empty one.
-/

namespace PasswordPackage.CloudBackup

open Machine FMDB DataManager FileSystem Restore ICloud

variable {S : Sqlite} {d : Device}

/-! ## Restoring without a backup -/

/-- The call `id` creates the document, hands over an empty one, or is over. -/
def Creating (id : ℕ) (d : Device) : Prop :=
  id < d.nextCall ∧
    (d.calls id = some .creating ∨
      d.calls id = some (.dispatched { documentData := some [], error := none }) ∨
      d.calls id = none)

theorem creating_step {id : ℕ} (h : Creating id d) (e : Event) : Creating id (step S d e) := by
  obtain ⟨hid, hcall⟩ := h
  refine ⟨Nat.lt_of_lt_of_le hid (nextCall_step e), ?_⟩
  rcases calls_step (S := S) hid e with
    hsame | hnone | ⟨success, outcome, now, call, rfl, hwas, his⟩
  · rw [hsame]
    exact hcall
  · exact Or.inr (Or.inr hnone)
  · rw [his]
    rw [hwas] at hcall
    rcases hcall with hcreating | hdispatched | hover
    · obtain rfl := Option.some.inj hcreating
      exact Or.inr (Or.inl rfl)
    · obtain rfl := Option.some.inj hdispatched
      exact Or.inr (Or.inr rfl)
    · cases hover

theorem eq_of_creating {id : ℕ} {reply : Reply} {es : List Event} (h : Creating id d)
    (hcall : (run (step S) d es).calls id = some (.dispatched reply)) :
    reply = { documentData := some [], error := none } := by
  have hkeeps : ∀ d e, Creating id d → Creating id (step S d e) := fun _ e h => creating_step h e
  rcases (run_invariant hkeeps h es).2 with h | h | h <;> rw [hcall] at h <;> cases h
  rfl

theorem creating_downFromiCloud {cloud : Availability} (h : cloud.Ready) (documentState : ℕ)
    (hdocument : d.document = none) :
    Creating d.nextCall (step S d (.downFromiCloud cloud documentState)) := by
  have hpress : step S d (.downFromiCloud cloud documentState) = d.begins (some .creating) := by
    simp [step, downFromiCloud, presses_of_ready h, retrieveCloudDocument, h.2.2, hdocument]
  rw [hpress]
  exact ⟨Nat.lt_succ_self _, Or.inl (Function.update_self ..)⟩

/-- A restore pressed while there is no document replaces the database by an empty file and reports
success if it can write the file, even if a document has come in the meantime or none could be
created. -/
theorem restored_of_no_document {cloud : Availability} {documentState : ℕ} {during : List Event}
    {d d₁ : Device} {reply : Reply} (hready : cloud.Ready) (hdocument : d.document = none)
    (hd₁ : d₁ = run (step S) (step S d (.downFromiCloud cloud documentState)) during)
    (hdispatched : d₁.calls d.nextCall = some (.dispatched reply)) (success : Bool) (now : ℤ) :
    Restored S [] now d₁
      (step S d₁
        (.answered d.nextCall success { removeError := none, written := true } now)) := by
  have hcall := hdispatched
  rw [hd₁] at hcall
  obtain rfl := eq_of_creating (creating_downFromiCloud hready documentState hdocument) hcall
  exact restored_answered hdispatched success now

/-- The document of two bytes comes right after the press, and is not restored. -/
theorem restored_of_no_document_synced :
    (run (step countingSqlite) (launch countingSqlite twoBytes none none)
      [.downFromiCloud available 1, .synced (some [7, 7]), .answered 0 false written 5,
        .answered 0 true written 6]).world.files.read dbFilePath = some [] :=
  (@restored_of_no_document countingSqlite available 1
    [.synced (some [7, 7]), .answered 0 false written 5]
    (launch countingSqlite twoBytes none none) _ _ ready_available rfl rfl rfl true 6).read

/-! ## A backup after a failed restore -/

/-- The event does not bring the database file back. -/
def KeepsMissing (d : Device) (e : Event) : Prop :=
  ∀ e' ∈ worldEvent d e, e' ≠ .relaunch ∧
    ∀ data outcome, e' = .downFromiCloud (some data) outcome → data = none ∨ outcome.written = false

theorem missing_step {e : Event} (h : d.world.files.entry dbFilePath = none)
    (hkeeps : KeepsMissing d e) : (step S d e).world.files.entry dbFilePath = none := by
  rw [world_step]
  cases he : worldEvent d e with
  | none => exact h
  | some e' =>
      obtain ⟨hrelaunch, hwrite⟩ := hkeeps e' he
      cases e' with
      | relaunch => exact absurd rfl hrelaunch
      | exec op =>
          show (exec S d.world op).1.files.entry dbFilePath = none
          unfold exec
          dsimp only
          split <;> exact h
      | downFromiCloud document outcome =>
          cases document with
          | none => exact h
          | some data =>
              -- nothing is removed, and nothing is written
              have hretrieve : retrieveToDBWithData d.world.files data outcome =
                  (d.world.files, some writeError) := by
                unfold retrieveToDBWithData writeToFile
                rcases hwrite data outcome rfl with rfl | hwritten
                · simp [h]
                · cases data <;> simp [h, hwritten]
              show (Restore.downFromiCloud S d.world (some data) outcome).files.entry dbFilePath =
                none
              unfold Restore.downFromiCloud
              simp only [hretrieve]
              exact h

theorem missing_run {es : List Event} (h : d.world.files.entry dbFilePath = none)
    (hkeeps : Guarded (step S) KeepsMissing d es) :
    (run (step S) d es).world.files.entry dbFilePath = none := by
  have halways : Always (step S) (fun d => d.world.files.entry dbFilePath = none) d es :=
    hkeeps.always (fun _ _ h hkeeps => missing_step h hkeeps) h
  exact always_iff_run.mp halways es List.prefix_rfl

/-- A restore that removes the database file and then fails to write it. -/
theorem missing_answered {id : ℕ} {data : Option NSData}
    (hcall : d.calls id = some (.dispatched { documentData := data, error := none }))
    (success : Bool) {outcome : FileOutcome} (hremove : outcome.removeError = none)
    (hwritten : outcome.written = false) (now : ℤ) :
    (step S d (.answered id success outcome now)).world.files.entry dbFilePath = none := by
  rw [step_answered hcall]
  show (Restore.downFromiCloud S d.world (some data) outcome).files.entry dbFilePath = none
  unfold Restore.downFromiCloud retrieveToDBWithData writeToFile
  cases hentry : (d.world.files.entry dbFilePath).isSome <;> cases data <;>
    simp_all [Files.unlink]

theorem relaunched_of_missing {w : World} (h : w.files.entry dbFilePath = none) :
    relaunched S w = some S.create := by
  unfold relaunched openDB
  simp [h, Files.create, Files.read]

theorem answered_closing {id : ℕ} {contents : NSData}
    (hcall : d.calls id = some (.closing contents)) (outcome : FileOutcome) (now : ℤ) :
    (step S d (.answered id true outcome now)).texts = d.texts ++ ["备份数据成功!"] := by
  rw [step_answered hcall]
  rfl

/-- The answer to a backup does nothing to the database file. -/
theorem keepsMissing_answered {id : ℕ} {contents : NSData}
    (hcall : d.calls id = some (.writing contents) ∨ d.calls id = some (.closing contents))
    (success : Bool) (outcome : FileOutcome) (now : ℤ) :
    KeepsMissing d (.answered id success outcome now) := by
  intro e' he'
  rcases hcall with hcall | hcall <;> rw [worldEvent, hcall] at he' <;> cases success <;>
    cases he'

/-- After a restore that lost the database file, a backup replaces the document by an empty one and
reports success. As long as no restore or relaunch brings the file back and nothing else writes the
document after the backup, neither copy is left, and a relaunch starts on a new database. -/
theorem emptied_of_failed_restore {during waiting closing : List Event} {cloud : Availability}
    {id : ℕ} {data : Option NSData} {success : Bool} {outcome outcome' outcome'' : FileOutcome}
    {now now' now'' : ℤ} {d d₁ d₂ d₃ d₄ d₅ : Device}
    (hdispatched : d.calls id = some (.dispatched { documentData := data, error := none }))
    (hremove : outcome.removeError = none) (hwritten : outcome.written = false)
    (hd₁ : d₁ = run (step S) (step S d (.answered id success outcome now)) during)
    (hduring : Guarded (step S) KeepsMissing (step S d (.answered id success outcome now)) during)
    (hready : cloud.Ready)
    (hd₂ : d₂ = run (step S) (step S d₁ (.backUpToiCloud cloud)) waiting)
    (hwaiting : Guarded (step S) KeepsMissing (step S d₁ (.backUpToiCloud cloud)) waiting)
    (hwriting : ∃ contents, d₂.calls d₁.nextCall = some (.writing contents))
    (hd₃ : d₃ = step S d₂ (.answered d₁.nextCall true outcome' now'))
    (hd₄ : d₄ = run (step S) d₃ closing)
    (hclosing : Guarded (step S) (fun d e => KeepsMissing d e ∧ KeepsDocument d e) d₃ closing)
    (hclosed : ∃ contents, d₄.calls d₁.nextCall = some (.closing contents))
    (hd₅ : d₅ = step S d₄ (.answered d₁.nextCall true outcome'' now'')) :
    d₅.document = some [] ∧ relaunched S d₅.world = some S.create ∧
      d₅.texts = d₄.texts ++ ["备份数据成功!"] := by
  -- the restore has lost the file
  have hmissing : d₁.world.files.entry dbFilePath = none := by
    rw [hd₁]
    exact missing_run (missing_answered hdispatched success hremove hwritten now) hduring
  -- so the backup uploads nothing
  have hsaving : Saving d₁.nextCall [] d₂ := by
    have hstart := saving_backUpToiCloud (S := S) (d := d₁) hready
    have hnothing : getDBFileData d₁.world = none := by
      rw [getDBFileData, Files.read, hmissing, Option.map_none]
    rw [hnothing, Option.getD_none] at hstart
    rw [hd₂]
    exact saving_run hstart waiting
  obtain ⟨contents, hcall⟩ := hwriting
  obtain rfl := eq_of_saving hsaving (Or.inl hcall)
  obtain ⟨contents', hcall'⟩ := hclosed
  -- the file stays missing through every stage of the backup
  have hmissing₂ : d₂.world.files.entry dbFilePath = none := by
    rw [hd₂]
    have hpress : KeepsMissing d₁ (.backUpToiCloud cloud) := fun _ he' => by cases he'
    exact missing_run (missing_step hmissing hpress) hwaiting
  have hmissing₃ : d₃.world.files.entry dbFilePath = none := by
    rw [hd₃]
    exact missing_step hmissing₂ (keepsMissing_answered (Or.inl hcall) true outcome' now')
  have hmissing₄ : d₄.world.files.entry dbFilePath = none := by
    rw [hd₄]
    exact missing_run hmissing₃ (hclosing.mono (fun _ _ h => h.1))
  have hmissing₅ : d₅.world.files.entry dbFilePath = none := by
    rw [hd₅]
    exact missing_step hmissing₄ (keepsMissing_answered (Or.inr hcall') true outcome'' now'')
  -- nothing writes the document after it
  have hdocument : d₄.document = some [] := by
    rw [hd₄, document_run (hclosing.mono (fun _ _ h => h.2)), hd₃]
    exact document_answered_writing hcall outcome' now'
  have hkeeps : KeepsDocument d₄ (.answered d₁.nextCall true outcome'' now'') := by
    intro call hclosing'
    rw [hcall'] at hclosing'
    cases hclosing'
    exact False.elim
  refine ⟨?_, relaunched_of_missing hmissing₅, ?_⟩
  · rw [hd₅, document_step hkeeps, hdocument]
  · rw [hd₅]
    exact answered_closing hcall' outcome'' now''

/-- A restore of one byte loses a file of two bytes, and the next backup the byte. -/
theorem emptied_of_failed_restore_twoBytes :
    (run (step countingSqlite) (launch countingSqlite twoBytes (some [9]) none)
      [.downFromiCloud available 1, .answered 0 true written 5,
        .answered 0 true { removeError := none, written := false } 6, .backUpToiCloud available,
        .answered 1 true written 7, .answered 1 true written 8]).document = some [] :=
  (@emptied_of_failed_restore countingSqlite [] [] [] available 0 (some [9]) true
    { removeError := none, written := false } written written 6 7 8
    (run (step countingSqlite) (launch countingSqlite twoBytes (some [9]) none)
      [.downFromiCloud available 1, .answered 0 true written 5]) _ _ _ _ _ rfl rfl rfl rfl trivial
    ready_available rfl trivial ⟨[], rfl⟩ rfl rfl trivial ⟨[], rfl⟩ rfl).1

end PasswordPackage.CloudBackup
