import PasswordPackage.Settings.CloudBackup

/-!
# Where restored data comes from

A restore reports success only for data that was the document at some time, or for an empty file;
and the document only ever holds what a backup read, what came from another device, or nothing. So
no run ends on a database that nobody has stored.
-/

namespace PasswordPackage.CloudBackup

open Machine FMDB DataManager FileSystem Restore ICloud

variable {S : Sqlite} {d : Device}

/-! ## Origins -/

/-- Content that the run has found in the document, received from another device, or read from the
database file for a backup; or empty content. -/
def Origin (S : Sqlite) (d₀ : Device) (es : List Event) (contents : NSData) : Prop :=
  contents = [] ∨ d₀.document = some contents ∨ .synced (some contents) ∈ es ∨
    ∃ pre cloud post, es = pre ++ .backUpToiCloud cloud :: post ∧
      getDBFileData (run (step S) d₀ pre).world = some contents

theorem origin_snoc {d₀ : Device} {es : List Event} {contents : NSData}
    (h : Origin S d₀ es contents) (e : Event) : Origin S d₀ (es ++ [e]) contents := by
  rcases h with hempty | hfirst | hsynced | ⟨pre, cloud, post, rfl, hread⟩
  · exact Or.inl hempty
  · exact Or.inr (Or.inl hfirst)
  · exact Or.inr (Or.inr (Or.inl (List.mem_append_left _ hsynced)))
  · exact Or.inr (Or.inr (Or.inr ⟨pre, cloud, post ++ [e], by simp, hread⟩))

/-- The contents a call holds and may still put somewhere. -/
def Holds : Call → NSData → Prop
  | .writing contents', contents => contents' = contents
  | .dispatched reply, contents => reply.error = none ∧ reply.documentData = some contents
  | .closing _, _ | .opening, _ | .creating, _ => False

/-- The document and the calls hold only what has an origin, and a retrieval without an error hands
something over. -/
structure Traced (S : Sqlite) (d₀ : Device) (es : List Event) (d : Device) : Prop where
  document : ∀ contents, d.document = some contents → Origin S d₀ es contents
  calls : ∀ id call, d.calls id = some call → ∀ contents, Holds call contents →
    Origin S d₀ es contents
  handsOver : ∀ id reply, d.calls id = some (.dispatched reply) → reply.error = none →
    reply.documentData ≠ none

/-- A call that a press begins holds what the run has read, and hands something over. -/
def Begun (S : Sqlite) (d₀ : Device) (es : List Event) (call : Call) : Prop :=
  (∀ contents, Holds call contents → Origin S d₀ es contents) ∧
    ∀ reply, call = .dispatched reply → reply.error = none → reply.documentData ≠ none

theorem traced_presses {d₀ : Device} {es : List Event} (h : Traced S d₀ es d)
    (cloud : Availability) {call : Option Call} (hcall : ∀ c ∈ call, Begun S d₀ es c) :
    Traced S d₀ es (d.presses cloud call) := by
  rcases presses_cases (d := d) cloud call with ⟨text, heq⟩ | heq | ⟨call', rfl, heq⟩ <;> rw [heq]
  · exact ⟨h.document, h.calls, h.handsOver⟩
  · exact h
  · obtain ⟨hholds, hhands⟩ := hcall call' rfl
    -- a call that is there was there before, or has just begun
    have hnew : ∀ id call, (d.begins (some call')).calls id = some call →
        d.calls id = some call ∨ call = call' := by
      intro id call hid
      by_cases hsame : id = d.nextCall
      · subst hsame
        rw [show (d.begins (some call')).calls d.nextCall = some call' from
          Function.update_self ..] at hid
        exact Or.inr (Option.some.inj hid).symm
      · rw [show (d.begins (some call')).calls id = d.calls id from
          Function.update_of_ne hsame ..] at hid
        exact Or.inl hid
    refine ⟨h.document, ?_, ?_⟩
    · intro id call hid contents hcontents
      rcases hnew id call hid with hold | rfl
      · exact h.calls id call hold contents hcontents
      · exact hholds contents hcontents
    · intro id reply hid
      rcases hnew id _ hid with hold | hreply
      · exact h.handsOver id reply hold
      · exact hhands reply hreply.symm

theorem traced_snoc {d₀ : Device} {es : List Event} (h : Traced S d₀ es d) (e : Event) :
    Traced S d₀ (es ++ [e]) d where
  document := fun contents hdocument => origin_snoc (h.document contents hdocument) e
  calls := fun id call hid contents hcontents =>
    origin_snoc (h.calls id call hid contents hcontents) e
  handsOver := h.handsOver

theorem begun_saveAndCloseDocument {d₀ : Device} {es : List Event} {cloud : Availability}
    (hd : d = run (step S) d₀ es) :
    ∀ c ∈ saveAndCloseDocument cloud.quickCloudCheck (getDBFileData d.world),
      Begun S d₀ (es ++ [.backUpToiCloud cloud]) c := by
  intro c hc
  unfold saveAndCloseDocument contentsForType at hc
  split at hc
  · cases hc
  · obtain rfl := Option.some.inj hc
    refine ⟨?_, nofun⟩
    rintro contents rfl
    cases hread : getDBFileData d.world with
    | none => exact Or.inl rfl
    | some contents => exact Or.inr (Or.inr (Or.inr ⟨es, cloud, [], rfl, hd ▸ hread⟩))

theorem begun_retrieveCloudDocument {d₀ : Device} {es : List Event} {quickCloudCheck : Bool}
    {documentState : ℕ} {document : Option NSData} :
    ∀ c ∈ retrieveCloudDocument quickCloudCheck documentState document, Begun S d₀ es c := by
  have hdispatched : ∀ error : Option ℤ,
      Begun S d₀ es (.dispatched { documentData := some [], error := error }) := by
    intro error
    refine ⟨?_, ?_⟩
    · rintro contents ⟨-, hdata⟩
      exact Or.inl (Option.some.inj hdata).symm
    · rintro reply hreply -
      obtain rfl := Call.dispatched.inj hreply
      exact Option.some_ne_none []
  have hopening : Begun S d₀ es .opening := ⟨fun _ => False.elim, nofun⟩
  have hcreating : Begun S d₀ es .creating := ⟨fun _ => False.elim, nofun⟩
  intro c hc
  unfold retrieveCloudDocument at hc
  split_ifs at hc <;> cases hc
  · exact hopening
  · exact hdispatched none
  · exact hdispatched (some 200)
  · exact hdispatched none
  · exact hcreating

/-- What an answered call goes on with was in the document, was being handed over, or is empty. -/
theorem traced_answered {d₀ : Device} {es : List Event} (h : Traced S d₀ es d) {id : ℕ}
    {call : Call} (hcall : d.calls id = some call) (success : Bool) :
    (∀ contents, (ICloud.answered d.document call success).1 = some contents →
        Origin S d₀ es contents) ∧
      ∀ call', (ICloud.answered d.document call success).2.call = some call' →
        Begun S d₀ es call' := by
  constructor
  · -- the document stays, takes what was written, or is created empty
    intro contents hcontents
    rcases answered_document d.document call success with
      hsame | ⟨contents', rfl, hwritten⟩ | hempty
    · exact h.document contents (hsame ▸ hcontents)
    · rw [hwritten] at hcontents
      exact h.calls id _ hcall contents (Option.some.inj hcontents)
    · rw [hempty] at hcontents
      exact Or.inl (Option.some.inj hcontents).symm
  · -- a call hands on what it was begun with, or what the document is
    intro call' hcall'
    cases call with
    | writing contents =>
        cases success <;> cases hcall'
        exact ⟨fun _ => False.elim, nofun⟩
    | closing contents => cases success <;> cases hcall'
    | dispatched reply => cases hcall'
    | creating =>
        cases hcall'
        refine ⟨?_, ?_⟩
        · rintro contents ⟨-, hdata⟩
          exact Or.inl (Option.some.inj hdata).symm
        · rintro reply hreply -
          obtain rfl := Call.dispatched.inj hreply
          exact Option.some_ne_none []
    | opening =>
        rcases answered_opening d.document success with herror | ⟨contents, hdocument, hdata⟩
        · rw [herror] at hcall'
          cases hcall'
          refine ⟨fun contents hcontents => ?_, ?_⟩
          · cases hcontents.1
          · rintro reply hreply herror'
            obtain rfl := Call.dispatched.inj hreply
            cases herror'
        · rw [hdata] at hcall'
          cases hcall'
          refine ⟨?_, ?_⟩
          · rintro contents' ⟨-, hcontents⟩
            obtain rfl := Option.some.inj hcontents
            exact h.document contents hdocument
          · rintro reply hreply -
            obtain rfl := Call.dispatched.inj hreply
            exact Option.some_ne_none contents

theorem traced_step {d₀ : Device} {es : List Event} (h : Traced S d₀ es d)
    (hd : d = run (step S) d₀ es) (e : Event) : Traced S d₀ (es ++ [e]) (step S d e) := by
  have hsnoc := traced_snoc h e
  cases e with
  | exec op => exact ⟨hsnoc.document, hsnoc.calls, hsnoc.handsOver⟩
  | relaunch => exact ⟨hsnoc.document, nofun, nofun⟩
  | synced document =>
      refine ⟨?_, hsnoc.calls, hsnoc.handsOver⟩
      rintro contents rfl
      exact Or.inr (Or.inr (Or.inl (by simp)))
  | backUpToiCloud cloud => exact traced_presses hsnoc cloud (begun_saveAndCloseDocument hd)
  | downFromiCloud cloud documentState =>
      exact traced_presses hsnoc cloud begun_retrieveCloudDocument
  | answered id success outcome now =>
      cases hcall : d.calls id with
      | none =>
          have hsame : step S d (.answered id success outcome now) = d := by simp [step, hcall]
          rw [hsame]
          exact hsnoc
      | some call =>
          obtain ⟨hdocument, hbegun⟩ := traced_answered hsnoc hcall success
          rw [step_answered hcall]
          -- the answered call goes on as another one, and the others wait
          have hcalls : ∀ id' call', (proceeds S id outcome now
              { d with document := (ICloud.answered d.document call success).1 }
              (ICloud.answered d.document call success).2).calls id' = some call' →
              d.calls id' = some call' ∨ Begun S d₀ (es ++ [.answered id success outcome now])
                call' := by
            intro id' call' hid'
            rw [calls_proceeds] at hid'
            by_cases hsame : id' = id
            · subst hsame
              rw [Function.update_self] at hid'
              exact Or.inr (hbegun call' hid')
            · rw [Function.update_of_ne hsame] at hid'
              exact Or.inl hid'
          refine ⟨?_, ?_, ?_⟩
          · rw [document_proceeds]
            exact hdocument
          · intro id' call' hid' contents hcontents
            rcases hcalls id' call' hid' with hold | hnew
            · exact hsnoc.calls id' call' hold contents hcontents
            · exact hnew.1 contents hcontents
          · intro id' reply hid' herror
            rcases hcalls id' _ hid' with hold | hnew
            · exact hsnoc.handsOver id' reply hold herror
            · exact hnew.2 reply rfl herror

theorem traced_run (d₀ : Device) (hcalls : ∀ id, d₀.calls id = none) (es : List Event) :
    Traced S d₀ es (run (step S) d₀ es) := by
  induction es using List.reverseRecOn with
  | nil =>
      refine ⟨fun _ hdocument => Or.inr (Or.inl hdocument), ?_, ?_⟩
      · intro id call hid
        rw [run_nil, hcalls id] at hid
        cases hid
      · intro id reply hid
        rw [run_nil, hcalls id] at hid
        cases hid
  | append_singleton es e ih =>
      rw [run_append]
      exact traced_step ih rfl e

/-- Only the handler of a retrieval reports that a restore succeeded. -/
theorem answered_of_texts {e : Event} (h : (step S d e).texts = d.texts ++ ["恢复数据成功!"]) :
    ∃ id success outcome now reply, e = .answered id success outcome now ∧
      d.calls id = some (.dispatched reply) ∧ reply.error = none ∧
      (retrieveToDBWithData d.world.files reply.documentData outcome).2 = none := by
  have hsilent : d.texts ≠ d.texts ++ ["恢复数据成功!"] := by simp
  -- no press and no backup shows this text
  have hpress : ∀ cloud call, (d.presses cloud call).texts ≠ d.texts ++ ["恢复数据成功!"] := by
    intro cloud call
    unfold Device.presses
    split
    · simp [Device.shows]
    · split
      · simp [Device.shows]
      · cases call <;> exact hsilent
  cases e with
  | exec op => exact absurd h hsilent
  | synced document => exact absurd h hsilent
  | relaunch => exact absurd h hsilent
  | backUpToiCloud cloud => exact absurd h (hpress cloud _)
  | downFromiCloud cloud documentState => exact absurd h (hpress cloud _)
  | answered id success outcome now =>
      cases hcall : d.calls id with
      | none => exact absurd h (by simp [step, hcall])
      | some call =>
          rw [step_answered hcall] at h
          cases hprogress : (ICloud.answered d.document call success).2 with
          | waits call' =>
              rw [hprogress] at h
              exact absurd h hsilent
          | saved reply =>
              rw [hprogress] at h
              simp only [proceeds, backUpHandler, List.append_cancel_left_eq] at h
              split at h <;> exact absurd h (by decide)
          | retrieved reply =>
              -- a restore shows it only after it has written the file
              obtain rfl := answered_retrieved hprogress
              rw [hprogress] at h
              simp only [proceeds, downHandler, List.append_cancel_left_eq] at h
              split at h
              · next hok =>
                  obtain ⟨herror, hresult⟩ := hok
                  refine ⟨id, success, outcome, now, reply, rfl, hcall, herror, ?_⟩
                  simpa [restoredData, herror] using hresult
              · exact absurd h (by decide)

/-- Whenever a restore is reported as successful, in any run, the database is the file as it was at
some earlier backup, a document of before the run or from another device, or an empty file. -/
theorem restored_from_origin {files : Files String NSData} {document : Option NSData}
    {file : AppConfig.File} (es : List Event) (e : Event)
    (hshown : (step S (run (step S) (launch S files document file) es) e).texts =
      (run (step S) (launch S files document file) es).texts ++ ["恢复数据成功!"]) :
    ∃ contents, Origin S (launch S files document file) es contents ∧
      (step S (run (step S) (launch S files document file) es) e).world.files.read dbFilePath =
        some (S.openTables contents) := by
  have htraced := traced_run (S := S) (launch S files document file) (fun _ => rfl) es
  obtain ⟨id, success, outcome, now, reply, rfl, hcall, herror, hresult⟩ := answered_of_texts hshown
  obtain ⟨contents, hdata⟩ :=
    Option.ne_none_iff_exists'.mp (htraced.handsOver id reply hcall herror)
  refine ⟨contents, htraced.calls id _ hcall contents ⟨herror, hdata⟩, ?_⟩
  rw [step_answered hcall]
  show (Restore.downFromiCloud S _ (restoredData reply) outcome).files.read dbFilePath = _
  rw [restoredData, if_pos herror, hdata]
  rw [hdata] at hresult
  exact (downFromiCloud_of_retrieve hresult).1

/-- A document of one byte is restored. -/
theorem restored_from_origin_oneByte :
    ∃ contents, Origin countingSqlite (launch countingSqlite twoBytes (some [9]) none)
        [.downFromiCloud available 1, .answered 0 true written 5] contents ∧
      (run (step countingSqlite) (launch countingSqlite twoBytes (some [9]) none)
        [.downFromiCloud available 1, .answered 0 true written 5,
          .answered 0 true written 6]).world.files.read dbFilePath = some contents :=
  restored_from_origin (S := countingSqlite) [.downFromiCloud available 1,
    .answered 0 true written 5] (.answered 0 true written 6) rfl

end PasswordPackage.CloudBackup
