import Notekeeper.Error
import Notekeeper.Text.Search
/-!
# The envelope of a note

The remote service stores a note as a document: a fixed header, then one element that holds the
markup.  Taking the markup out looks for the first opening tag and the last closing tag, so that
markup which itself holds an envelope comes out whole.
-/

namespace Notekeeper.Envelope

open Text

/-- What stands before the element. -/
def header : String :=
  "<?xml version=\"1.0\" encoding=\"UTF-8\"?>"
    ++ "<!DOCTYPE en-note SYSTEM \"http://xml.evernote.com/pub/enml2.dtd\">"

/-- The start of the opening tag, which may go on with attributes. -/
def openMark : String := "<en-note"

/-- The closing tag. -/
def closeTag : String := "</en-note>"

/-- **The document that holds this markup.** -/
def wrap (body : String) : String := header ++ openMark ++ ">" ++ body ++ closeTag

/-- The error about a document without the element. -/
def missing : Error := .markup "no <en-note> element"

/-- The error about an element that is not closed. -/
def unclosed : Error := .markup "unclosed <en-note> element"

/-- **The markup that a document holds.**  An opening tag that closes itself holds none. -/
def unwrap (content : String) : Except Error String :=
  match splitFirst openMark.toList content.toList with
  | none => .error missing
  | some (_, element) =>
    match splitAt '>' element with
    | none => .error missing
    | some (attributes, inner) =>
      if attributes.getLast? = some '/' then .ok ""
      else
        match splitLast closeTag.toList inner with
        | none => .error unclosed
        | some (body, _) => .ok (String.ofList body)

end Notekeeper.Envelope
