import Notekeeper.Json.Record
/-!
# Notebooks

A notebook groups notes.  It belongs to the remote note service, which gives it an identifier.
-/

namespace Notekeeper

/-- **A notebook.** -/
structure Notebook where
  name : String
  /-- The identifier that the remote service gave it, empty before that. -/
  guid : String := ""
  /-- The stack that the notebook is sorted under, if not empty. -/
  stack : String := ""
  deriving DecidableEq, Inhabited

/-- What to change about a notebook: an absent or empty field leaves things as they are. -/
structure NotebookPatch where
  name : Option String := none
  stack : Option String := none
  deriving DecidableEq

namespace Notebook

instance : Record Notebook where
  toJson nb := .record [("name", .text nb.name), ("guid", .text nb.guid), ("stack", .text nb.stack)]
  ofJson? j := do
    let [name, guid, stack] ← j.fields? true [["name"], ["guid"], ["stack"]] | none
    let name ← Json.required Json.string? name
    let guid ← Json.optional "" Json.string? guid
    let stack ← Json.optional "" Json.string? stack
    some { name, guid, stack }

/-- The field of a patch, when it says to change something. -/
def patched (old : String) (new : Option String) : String :=
  match new with
  | some s => if s = "" then old else s
  | none => old

/-- A notebook with a patch applied. -/
def patch (nb : Notebook) (p : NotebookPatch) : Notebook :=
  { nb with name := patched nb.name p.name, stack := patched nb.stack p.stack }

end Notebook
end Notekeeper
