import Mathlib.Data.Nat.Bitwise
import Mathlib.Data.Nat.Notation
import PasswordPackage.Data.FMDB

/-!
# The iCloud document

The pod keeps one document in the ubiquity container. Saving writes it and closes it, and reports an
error after either half. Retrieving opens it, or creates an empty one when there is none, and hands
over what it has without looking at whether the creation succeeded.
-/

namespace PasswordPackage.ICloud

open FMDB

/-! ## Calls -/

/-- What a handler is called with: the data of the document, and the code of the error. -/
structure Reply where
  documentData : Option NSData
  error : Option ℤ
deriving DecidableEq

/-- The operations of a call, each answered by the system later. -/
inductive Call where
  | writing (contents : NSData)
  | closing (contents : NSData)
  | opening
  | creating
  | dispatched (reply : Reply)
deriving DecidableEq

/-- How a call goes on: it waits for the next answer, or it is over and calls the handler of the
save or of the retrieval. -/
inductive Progress where
  | waits (call : Call)
  | saved (reply : Reply)
  | retrieved (reply : Reply)
deriving DecidableEq

/-- The operation a call waits for. -/
def Progress.call : Progress → Option Call
  | .waits call => some call
  | .saved _ | .retrieved _ => none

/-- `contentsForType:error:` writes nil as empty data. -/
def contentsForType (contents : Option NSData) : NSData :=
  contents.getD []

/-- `saveAndCloseDocumentWithName:withContent:completion:`, up to the answer of `saveToURL:`.
Without iCloud it returns, and the handler is never called. -/
def saveAndCloseDocument (quickCloudCheck : Bool) (content : Option NSData) : Option Call :=
  if quickCloudCheck = false then none
  else some (.writing (contentsForType content))

/-! ## The state of a document -/

def UIDocumentStateNormal : ℕ := 0
def UIDocumentStateClosed : ℕ := 1
def UIDocumentStateInConflict : ℕ := 2
def UIDocumentStateEditingDisabled : ℕ := 8

/-- `retrieveCloudDocumentWithName:completion:`, up to the first answer. A document that is not
opened has the empty contents it was initialised with. -/
def retrieveCloudDocument (quickCloudCheck : Bool) (documentState : ℕ)
    (document : Option NSData) : Option Call :=
  if quickCloudCheck = false then none
  else if document.isSome then
    if documentState &&& UIDocumentStateClosed ≠ 0 then some .opening
    else if documentState &&& UIDocumentStateNormal ≠ 0 then
      some (.dispatched { documentData := some [], error := none })
    else if documentState &&& UIDocumentStateInConflict ≠ 0 then
      some (.dispatched { documentData := some [], error := some 200 })
    else if documentState &&& UIDocumentStateEditingDisabled ≠ 0 then
      some (.dispatched { documentData := some [], error := none })
    else none
  else some .creating

/-- `loadFromContents:ofType:error:`, for a document that is opened. -/
def loadFromContents (fileContents : NSData) : NSData :=
  if fileContents.length > 0 then fileContents else []

/-- The system answers an operation: what becomes of the document, and how the call goes on. A
document that is gone cannot be opened. -/
def answered (document : Option NSData) : Call → Bool → Option NSData × Progress
  | .writing contents, true => (some contents, .waits (.closing contents))
  | .writing contents, false =>
      (document, .saved { documentData := some contents, error := some 100 })
  | .closing contents, true => (document, .saved { documentData := some contents, error := none })
  | .closing contents, false =>
      (document, .saved { documentData := some contents, error := some 110 })
  | .opening, success =>
      match document, success with
      | some contents, true =>
          (document, .waits (.dispatched
            { documentData := some (loadFromContents contents), error := none }))
      | _, _ =>
          (document, .waits (.dispatched { documentData := some [], error := some 200 }))
  | .creating, success =>
      (if success then some [] else document,
        .waits (.dispatched { documentData := some [], error := none }))
  | .dispatched reply, _ => (document, .retrieved reply)

/-! ## What an answer can do -/

@[simp] theorem loadFromContents_eq_self (contents : NSData) :
    loadFromContents contents = contents := by
  unfold loadFromContents
  split
  · rfl
  · next h => exact (List.length_eq_zero_iff.mp (by omega)).symm

/-- A state that is normal has no bit to test for. -/
theorem normal_never (documentState : ℕ) : documentState &&& UIDocumentStateNormal = 0 :=
  Nat.and_zero documentState

/-- The calls whose answer may change the document. -/
def Call.Writes : Call → Prop
  | .writing _ | .creating => True
  | .closing _ | .opening | .dispatched _ => False

theorem answered_document_of_not_writes {call : Call} (h : ¬ call.Writes)
    (document : Option NSData) (success : Bool) :
    (answered document call success).1 = document := by
  cases call with
  | writing contents => exact absurd trivial h
  | creating => exact absurd trivial h
  | closing contents => cases success <;> rfl
  | opening => cases document <;> cases success <;> rfl
  | dispatched reply => rfl

/-- Only the last answer of a retrieval calls its handler. -/
theorem answered_retrieved {document : Option NSData} {call : Call} {success : Bool}
    {reply : Reply} (h : (answered document call success).2 = .retrieved reply) :
    call = .dispatched reply := by
  cases call with
  | dispatched reply' => exact congrArg Call.dispatched (Progress.retrieved.inj h)
  | opening => rcases document with _ | contents <;> cases success <;> cases h
  | writing contents => cases success <;> cases h
  | closing contents => cases success <;> cases h
  | creating => cases h

/-- Opening delivers the document as it is at the time, or an error. -/
theorem answered_opening (document : Option NSData) (success : Bool) :
    (answered document .opening success).2 =
        .waits (.dispatched { documentData := some [], error := some 200 }) ∨
      ∃ contents, document = some contents ∧ (answered document .opening success).2 =
        .waits (.dispatched { documentData := some contents, error := none }) := by
  cases document with
  | none => exact Or.inl rfl
  | some contents =>
      cases success with
      | false => exact Or.inl rfl
      | true => exact Or.inr ⟨contents, rfl, by simp [answered]⟩

/-- After any answer the document is what it was, what was being written, or empty. -/
theorem answered_document (document : Option NSData) (call : Call) (success : Bool) :
    (answered document call success).1 = document ∨
      (∃ contents, call = .writing contents ∧
        (answered document call success).1 = some contents) ∨
      (answered document call success).1 = some [] := by
  cases call with
  | writing contents =>
      cases success with
      | false => exact Or.inl rfl
      | true => exact Or.inr (Or.inl ⟨contents, rfl, rfl⟩)
  | creating =>
      cases success with
      | false => exact Or.inl rfl
      | true => exact Or.inr (Or.inr rfl)
  | closing contents => exact Or.inl (answered_document_of_not_writes id document success)
  | opening => exact Or.inl (answered_document_of_not_writes id document success)
  | dispatched reply => exact Or.inl rfl

end PasswordPackage.ICloud
