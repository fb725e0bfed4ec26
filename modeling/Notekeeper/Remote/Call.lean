import Notekeeper.Note
import Notekeeper.Note.Filter
/-!
# Calls to the remote service

Notes and notebooks belong to a remote service, which is asked by calls.  The type of an answer
hangs on the call; any call may fail.
-/

namespace Notekeeper

/-- **A call to the remote service.** -/
inductive RemoteCall
  /-- The notes that a filter lets through, at most `count` from the one at `offset` on, without
  their content. -/
  | findNotes (filter : NoteFilter) (offset count : Nat)
  | allNotebooks
  | notebook (guid : String)
  | createNotebook (notebook : Notebook) (makeDefault : Bool)
  | updateNotebook (notebook : Notebook)
  /-- The content of a note in its envelope. -/
  | noteContent (guid : String)
  | createNote (note : Note)
  | updateNote (note : Note)
  | deleteNote (guid : String)
  deriving DecidableEq

namespace RemoteCall

/-- What the answer to a call holds when the call succeeds. -/
@[reducible] def Answer : RemoteCall → Type
  | findNotes _ _ _ => List Note
  | allNotebooks => List Notebook
  | notebook _ => Notebook
  | noteContent _ => String
  | createNotebook _ _ | updateNotebook _ | createNote _ | updateNote _ | deleteNote _ => Unit

/-- The name of a call. -/
def name : RemoteCall → String
  | findNotes _ _ _ => "find_notes"
  | allNotebooks => "get_all_notebooks"
  | notebook _ => "get_notebook"
  | createNotebook _ _ => "create_notebook"
  | updateNotebook _ => "update_notebook"
  | noteContent _ => "get_note_content"
  | createNote _ => "create_note"
  | updateNote _ => "update_note"
  | deleteNote _ => "delete_note"

/-- Whether a call is meant to change something. -/
def isWrite : RemoteCall → Bool
  | createNotebook _ _ | updateNotebook _ | createNote _ | updateNote _ | deleteNote _ => true
  | findNotes _ _ _ | allNotebooks | notebook _ | noteContent _ => false

end RemoteCall
end Notekeeper
