/-!
# Errors

Every way in which an operation can fail, the sentence that tells the user about it, and which of
them only say that something asked for is not there.
-/

namespace Notekeeper

/-- **Why an operation failed.** -/
inductive Error
  /-- The store file cannot be used as a store. -/
  | database (text : String)
  /-- A file cannot be read or written. -/
  | io (text : String)
  /-- A text is no record of the wanted kind. -/
  | serialization (text : String)
  /-- The store refuses an operation. -/
  | store (text : String)
  /-- Another process is writing to the store. -/
  | storeLocked (text : String)
  /-- A stored record cannot be read. -/
  | corruptRecord (bucket key reason : String)
  /-- The configuration is unusable. -/
  | config (text : String)
  | noMatchingCredential
  | negativeIndex
  | indexTooBig
  | indexOutOfRange
  | noNotebookFound
  | noNoteFound
  /-- The remote note service refuses a call. -/
  | remote (text : String)
  /-- The content of a note is malformed. -/
  | markup (text : String)
  | noRecoveryPoint
  | noEditorFound
  /-- The editor did not finish well. -/
  | editor (text : String)
  /-- An edit reached neither the remote service nor the recovery point. -/
  | recoveryFailed (save recovery : Error)
  deriving DecidableEq, Inhabited

namespace Error

/-- The sentence shown to the user. -/
def message : Error → String
  | database text => "Database error: " ++ text
  | io text => "IO error: " ++ text
  | serialization text => "Serialization error: " ++ text
  | store text => "Store error: " ++ text
  | storeLocked text => "Store is locked by another process: " ++ text
  | corruptRecord bucket key reason =>
    "Corrupt record " ++ bucket ++ "/" ++ key ++ ": " ++ reason
  | config text => "Configuration error: " ++ text
  | noMatchingCredential => "no matching credential found"
  | negativeIndex => "index negative"
  | indexTooBig => "index greater than the list"
  | indexOutOfRange => "index out of range"
  | noNotebookFound => "no notebook found"
  | noNoteFound => "no note found"
  | remote text => "Remote error: " ++ text
  | markup text => "Malformed note content: " ++ text
  | noRecoveryPoint => "no note to recover"
  | noEditorFound => "no editor found"
  | editor text => "Editor error: " ++ text
  | recoveryFailed save recovery =>
    "saving the note failed (" ++ save.message ++ ") and so did saving the recovery point ("
      ++ recovery.message ++ ")"

/-- Whether an error only says that something asked for is not there. -/
def isNotFound : Error → Bool
  | noMatchingCredential | negativeIndex | indexTooBig | indexOutOfRange | noNotebookFound
  | noNoteFound | noRecoveryPoint => true
  | _ => false

end Error
end Notekeeper
