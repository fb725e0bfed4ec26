import Notekeeper.Json.Record
/-!
# Searching for notes

What a search asks the remote service for, and in which order the notes found come.
-/

namespace Notekeeper

/-- The order in which the notes found come. -/
inductive NoteOrder
  | created
  | updated
  | relevance
  | sequenceNumber
  | title
  deriving DecidableEq

namespace NoteOrder

instance : Inhabited NoteOrder := ⟨relevance⟩

/-- The name under which an order is stored. -/
def name : NoteOrder → String
  | created => "Created"
  | updated => "Updated"
  | relevance => "Relevance"
  | sequenceNumber => "SequenceNumber"
  | title => "Title"

/-- All orders. -/
def all : List NoteOrder := [created, updated, relevance, sequenceNumber, title]

instance : Record NoteOrder where
  toJson o := .text o.name
  ofJson? j := j.choice?.bind fun s => all.find? (·.name = s)

end NoteOrder

/-- **What notes a search is for.** -/
structure NoteFilter where
  /-- The notebook to search in, any if empty. -/
  notebookGuid : String := ""
  /-- The words or the title to search for. -/
  words : String := ""
  order : NoteOrder := .relevance
  deriving DecidableEq

end Notekeeper
