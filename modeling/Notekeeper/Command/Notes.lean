import Notekeeper.Command.Notebooks
import Notekeeper.Markup.Codec
import Notekeeper.Markup.Envelope
/-!
# Notes

A note is named by its title, or by an ordinal: its place among the notes that the last search
found.  An ordinal past the end of these is a title like any other.
-/

namespace Notekeeper.Command

/-! ## 1. Finding notes -/

/-- **The notes that a filter lets through**, kept for use by ordinal. -/
def findNotes (filter : NoteFilter) (offset count : Nat) : Command (List Note) := do
  let notes ← asked (.findNotes filter offset count)
  storeSearch notes
  pure notes

/-- The ordinal that a text is. -/
def ordinal? (title : String) : Option Nat :=
  (Text.unsigned? 10 Text.wordBound title.toList).filter (0 < ·)

/-- The note at an ordinal's place in the last search, if the title is such an ordinal. -/
def noteByOrdinal (title : String) : Command (Option Note) :=
  match ordinal? title with
  | some n => return (← lastSearch)[n - 1]?
  | none => pure none

/-- The first note that the remote service finds under exactly this title. -/
def noteByTitle (config : Config) (title : String) (notebook : Option String) :
    Command Note := do
  let notebookGuid ←
    match notebook.filter (· ≠ "") with
    | some name => do pure (← findNotebook config name).guid
    | none => pure ""
  let found ← asked (.findNotes { notebookGuid, words := title } 0 config.searchPageSize.toNat)
  match found.find? (·.title = title) with
  | some note => pure note
  | none => fail .noNoteFound

/-- **The note that a title or ordinal names**, without its content.  A notebook narrows a search
by title. -/
def note (config : Config) (title : String) (notebook : Option String) : Command Note := do
  match ← noteByOrdinal title with
  | some note => pure note
  | none => noteByTitle config title notebook

/-- The note that a title or ordinal names, with its content in both forms. -/
def noteWithContent (codec : Codec) (config : Config) (title : String) : Command Note := do
  let note ← note config title none
  let content ← asked (.noteContent note.guid)
  let body ← done (Envelope.unwrap content)
  let md ← done (codec.toMarkdown body)
  pure { note with body, md }

/-! ## 2. Changing notes -/

/-- Gives a note a new title. -/
def changeTitle (config : Config) (old new : String) : Command Note := do
  let note := { ← note config old none with title := new }
  asked (.updateNote note)
  pure note

/-- Moves a note into the notebook with this name. -/
def moveNote (config : Config) (title notebook : String) : Command Note := do
  let found ← note config title none
  let note := { found with notebook := some (← findNotebook config notebook) }
  asked (.updateNote note)
  pure note

/-- Moves a note into the remote trash. -/
def deleteNote (config : Config) (title : String) (notebook : Option String) : Command Note := do
  let note ← note config title notebook
  asked (.deleteNote note.guid)
  pure note

/-! ## 3. Sending notes -/

/-- A note with its markup made from its markdown, unless the markup was edited itself. -/
def rendered (codec : Codec) (note : Note) (raw : Bool) : Note :=
  if raw then note
  else { note with body := if note.md = "" then "" else codec.toMarkup note.md }

/-- A note as it is sent: its markup in the envelope. -/
def outgoing (note : Note) : Note := { note with body := Envelope.wrap note.body }

/-- **Creates a note** at the remote service. -/
def saveNewNote (codec : Codec) (note : Note) (raw : Bool) : Command Note := do
  let note := rendered codec note raw
  asked (.createNote (outgoing note))
  pure note

end Notekeeper.Command
