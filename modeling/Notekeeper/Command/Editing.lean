import Notekeeper.Command.Notes
/-!
# Editing notes

A note is loaded, shown in the editor and sent when it comes back changed.  When sending fails the
edited note is kept as the recovery point, from which a later edit can start; such an edit is sent
even if the text comes back unchanged, for it never reached the remote service.
-/

namespace Notekeeper

/-- What came of an edit. -/
inductive EditOutcome
  /-- The text came back unchanged, and nothing was sent. -/
  | unchanged
  | saved (note : Note)
  deriving DecidableEq

namespace Command

/-- The note to recover.  Only a note that the remote service knows can be. -/
def noteToRecover : Command Note := do
  match (← recoveryPoint).filter (·.guid ≠ "") with
  | some note => pure note
  | none => fail .noRecoveryPoint

/-- **Sends an edited note**, or keeps it as the recovery point when the remote service refuses. -/
def saveChanges (codec : Codec) (note : Note) (raw : Bool) : Command Note := do
  let note := rendered codec note raw
  match ← (asked (.updateNote (outgoing note))).attempt with
  | .ok _ => pure note
  | .error save =>
    match ← (storeRecoveryPoint note).attempt with
    | .ok _ => fail save
    | .error recovery => fail (.recoveryFailed save recovery)

/-- **Edits a note.** -/
def editNote (codec : Codec) (config : Config) (title : String) (opts : EditOptions) :
    Command EditOutcome := do
  let loaded ← if opts.recover then noteToRecover else noteWithContent codec config title
  let note := loaded.markLoaded opts.raw
  let text ← edited (note.buffer opts.raw).format
  if !opts.recover && some (Fingerprint.ofText text) = note.mdHash then pure .unchanged
  else
    let saved ← saveChanges codec (note.applyBuffer (.parse text) opts.raw) opts.raw
    if opts.recover then clearRecoveryPoint
    pure (.saved saved)

/-- The title of a new note that is given none. -/
def untitled : String := "Untitled note"

/-- **Lets the user write a new note** and creates it. -/
def createNoteInEditor (codec : Codec) (title : Option String) (raw : Bool) : Command Note := do
  let note : Note := { title := (title.filter (· ≠ "")).getD untitled }
  let text ← edited (EditBuffer.format { title := note.title, content := "" })
  saveNewNote codec (note.applyBuffer (.parse text) raw) raw

end Command
end Notekeeper
