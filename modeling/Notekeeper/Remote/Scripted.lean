import Notekeeper.Error
import Notekeeper.Remote.Call
import Notekeeper.Store.Entries
/-!
# A remote service in memory

A remote service that answers from fixed lists and that no call changes.  Calls can be made to
fail by name.
-/

namespace Notekeeper

/-- **A remote service in memory.** -/
structure ScriptedRemote where
  notebooks : List Notebook := []
  notes : List Note := []
  /-- The content of notes, in its envelope, by identifier. -/
  contents : List (String × String) := []
  /-- The names of the calls that fail. -/
  failing : List String := []
  deriving Inhabited

namespace ScriptedRemote

/-- The error of a call that is made to fail. -/
def refusal : RemoteCall → Error
  | .updateNote _ => .remote "update rejected"
  | .updateNotebook _ => .remote "notebook update rejected"
  | call => .remote (call.name ++ " failed")

/-- Whether a filter lets a note through. -/
def passes (filter : NoteFilter) (n : Note) : Bool :=
  (filter.words = "" || Text.contains filter.words.toList n.title.toList)
    && (filter.notebookGuid = "" || n.notebookGuid = some filter.notebookGuid)

/-- **The answer to a call.** -/
def answer (r : ScriptedRemote) (call : RemoteCall) : Except Error call.Answer :=
  if r.failing.contains call.name then .error (refusal call)
  else match call with
    | .findNotes filter offset count =>
      .ok (((r.notes.filter (passes filter)).drop offset).take count)
    | .allNotebooks => .ok r.notebooks
    | .notebook guid =>
      match r.notebooks.find? (·.guid = guid) with
      | some nb => .ok nb
      | none => .error (.remote ("no notebook with guid " ++ guid))
    | .noteContent guid =>
      match Entries.get? guid r.contents with
      | some content => .ok content
      | none => .error (.remote ("no content for " ++ guid))
    | .createNotebook _ _ | .updateNotebook _ | .createNote _ | .updateNote _
    | .deleteNote _ => .ok ()

end ScriptedRemote
end Notekeeper
