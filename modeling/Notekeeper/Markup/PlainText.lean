import Notekeeper.Error
import Notekeeper.Text.Blank
import Notekeeper.Text.Numeral
import Notekeeper.Text.Search
import Notekeeper.Text.Utf8
/-!
# Markup as plain text

The plain text of markup: tags are dropped, but a line break and the end of a block start a new
line; entities stand for their character.  An ampersand that starts no known entity is text.

* `read` fails only at a tag that never ends.
-/

namespace Notekeeper.PlainText

open Text

/-! ## 1. Tags -/

/-- The elements after which a new line starts. -/
def blockTags : List String :=
  ["p", "div", "h1", "h2", "h3", "h4", "h5", "h6", "li", "pre", "blockquote", "ul", "ol", "tr"]

/-- The name of a tag without its opening slashes, up to a blank or a slash, in lower case. -/
def tagName (tag : List Char) : String :=
  String.ofList (((tag.dropWhile (· = '/')).takeWhile fun c => !isBlank c && c != '/').map
    Char.toLower)

/-- Whether a tag, given by what stands between its brackets, starts a new line. -/
def breaksLine (tag : List Char) : Bool :=
  let name := tagName tag
  name == "br" || (tag.head? == some '/' && blockTags.contains name)

/-! ## 2. Entities -/

/-- The character with a number, when there is one. -/
def charOf? (n : Nat) : Option Char :=
  if h : n.isValidChar then some (Char.ofNatAux n h) else none

/-- The number that a numeric entity stands for, decimal or hexadecimal. -/
def numeric? : List Char → Option Nat
  | 'x' :: ds => unsigned? 16 (Nat.pow 2 32) ds
  | 'X' :: ds => unsigned? 16 (Nat.pow 2 32) ds
  | ds => unsigned? 10 (Nat.pow 2 32) ds

/-- The character that an entity of this name stands for. -/
def entity? (name : List Char) : Option Char :=
  match name with
  | '#' :: ds => (numeric? ds).bind charOf?
  | _ =>
    if name = ['a', 'm', 'p'] then some '&'
    else if name = ['l', 't'] then some '<'
    else if name = ['g', 't'] then some '>'
    else if name = ['q', 'u', 'o', 't'] then some '"'
    else if name = ['a', 'p', 'o', 's'] then some '\x27'
    else if name = ['n', 'b', 's', 'p'] then some ' '
    else none

/-- The greatest number of bytes in the name of an entity. -/
def maxEntityLength : Nat := 10

/-- The character of the entity whose name starts here, and what follows its semicolon. -/
def readEntity (cs : List Char) : Option (Char × List Char) :=
  match splitAt ';' cs with
  | some (name, rest) =>
    if Utf8.size name ≤ maxEntityLength then (entity? name).map (·, rest) else none
  | none => none

/-! ## 3. Reading -/

/-- The error about a tag that never ends. -/
def unterminated : Error := .markup "unterminated tag"

/-- What follows an entity is shorter than what starts with its name. -/
theorem length_of_readEntity {cs rest : List Char} {c : Char}
    (h : readEntity cs = some (c, rest)) : rest.length < cs.length := by
  unfold readEntity at h
  split at h
  · next name rest' hs =>
    split at h
    · obtain ⟨d, _, he⟩ := Option.map_eq_some_iff.1 h
      cases he
      exact length_of_splitAt hs
    · simp at h
  · simp at h

/-- The text of markup, new lines at its ends included. -/
def scan (cs : List Char) : Except Error (List Char) :=
  match cs with
  | [] => .ok []
  | '<' :: rest =>
    match h : splitAt '>' rest with
    | none => .error unterminated
    | some (tag, after) =>
      have : after.length < rest.length := length_of_splitAt h
      (scan after).map fun text => if breaksLine tag then '\n' :: text else text
  | '&' :: rest =>
    match h : readEntity rest with
    | some (c, after) =>
      have : after.length < rest.length := length_of_readEntity h
      (scan after).map (c :: ·)
    | none => (scan rest).map ('&' :: ·)
  | c :: rest => (scan rest).map (c :: ·)
termination_by cs.length

/-- **The plain text of markup**, without new lines at its ends. -/
def read (body : String) : Except Error String :=
  (scan body.toList).map fun text => String.ofList (trimWhile (· = '\n') text)

end Notekeeper.PlainText
