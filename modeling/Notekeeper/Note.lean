import Notekeeper.EditBuffer
import Notekeeper.Fingerprint
import Notekeeper.Notebook
/-!
# Notes

A note carries its content in two forms: the markup that the remote service stores, without its
envelope, and the markdown that a user edits.  Either is edited as a buffer under the title; the
raw form is the markup.
-/

namespace Notekeeper

/-- **A note.** -/
structure Note where
  title : String
  /-- The identifier that the remote service gave the note, empty before that. -/
  guid : String := ""
  /-- The markup. -/
  body : String := ""
  /-- The markdown. -/
  md : String := ""
  /-- The fingerprint of the edit buffer as it was loaded. -/
  mdHash : Option Fingerprint := none
  deleted : Bool := false
  notebook : Option Notebook := none
  created : Option Timestamp := none
  updated : Option Timestamp := none
  deriving DecidableEq

instance : Inhabited Note := ⟨{ title := "" }⟩

namespace Note

/-- The content that is edited: the markup in raw mode, else the markdown. -/
def editableContent (n : Note) (raw : Bool) : String := if raw then n.body else n.md

/-- The buffer in which a note is edited. -/
def buffer (n : Note) (raw : Bool) : EditBuffer := ⟨n.title, n.editableContent raw⟩

/-- The fingerprint of a buffer. -/
def fingerprintOf (b : EditBuffer) : Fingerprint := .ofText b.format

/-- A note that remembers the fingerprint of its buffer. -/
def markLoaded (n : Note) (raw : Bool) : Note :=
  { n with mdHash := some (fingerprintOf (n.buffer raw)) }

/-- A note with an edited buffer taken over: its title, and its content in the mode edited. -/
def applyBuffer (n : Note) (b : EditBuffer) (raw : Bool) : Note :=
  if raw then { n with title := b.title, body := b.content }
  else { n with title := b.title, md := b.content }

/-- The identifier of the notebook that a note is in, when that is known. -/
def notebookGuid (n : Note) : Option String := n.notebook.map (·.guid)

instance : Record Note where
  toJson n := .record [("title", .text n.title), ("guid", .text n.guid), ("body", .text n.body),
    ("md", .text n.md), ("md_hash", Record.toJson n.mdHash), ("deleted", .bool n.deleted),
    ("notebook", Record.toJson n.notebook), ("created", Record.toJson n.created),
    ("updated", Record.toJson n.updated)]
  ofJson? j := do
    let [title, guid, body, md, mdHash, deleted, notebook, created, updated] ←
      j.fields? true [["title"], ["guid"], ["body"], ["md"], ["md_hash"], ["deleted"],
        ["notebook"], ["created"], ["updated"]] | none
    let title ← Json.required Json.string? title
    let guid ← Json.optional "" Json.string? guid
    let body ← Json.optional "" Json.string? body
    let md ← Json.optional "" Json.string? md
    let mdHash ← Json.optional none Record.ofJson? mdHash
    let deleted ← Json.optional false Json.bool? deleted
    let notebook ← Json.optional none Record.ofJson? notebook
    let created ← Json.optional none Record.ofJson? created
    let updated ← Json.optional none Record.ofJson? updated
    some { title, guid, body, md, mdHash, deleted, notebook, created, updated }

end Note
end Notekeeper
