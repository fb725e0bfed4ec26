import Notekeeper.Markdown.Tag
import Notekeeper.Text.Numeral
/-!
# How blocks start

What the front of a line tells about the block that it starts.  Indentation is passed over before.

* `interrupts` : whether a line ends the paragraph in front of it.
-/

namespace Notekeeper.Markdown

open Text

/-! ## 1. Rules and headings -/

/-- Whether a line is a rule: three marks or more of one kind, and blanks. -/
def isRule : List Char → Bool
  | [] => false
  | c :: cs =>
    (c = '*' || c = '-' || c = '_') && cs.all (fun d => d = c || d = ' ' || d = '\t') &&
      decide (2 ≤ cs.count c)

/-- The level of the heading that a line is, from one to six. -/
def headingLevel? (cs : List Char) : Option Nat :=
  let level := (cs.takeWhile (· = '#')).length
  if 1 ≤ level ∧ level ≤ 6 ∧ (cs.drop level).head?.all isGap then some level else none

/-- How much of the text of a heading belongs to it: the marks that may close it and the blanks
in front of them do not. -/
def headingLength (cs : List Char) : Nat :=
  let text := trimEndWhile (fun c => c = ' ' || endsLine c) cs
  let kept := trimEndWhile (· = '#') text
  if kept.isEmpty then 0
  else if kept.getLast? = some ' ' then (trimEndWhile (· = ' ') kept).length else text.length

/-- The level of the heading that a line underlines. -/
def underline? : List Char → Option Nat
  | c :: cs =>
    if (c = '=' ∨ c = '-') ∧ (cs.dropWhile (· = c)).all isGap then
      some (if c = '=' then 1 else 2)
    else none
  | [] => none

/-! ## 2. Fences -/

/-- A fence: its mark, how many there are, and what is said about the code. -/
structure Fence where
  mark : Char
  length : Nat
  info : List Char

/-- **A fence that opens a block of code** in front of a text.  Its line ends with a line feed. -/
def fence? : List Char → Option Fence
  | [] => none
  | c :: cs =>
    if c = '\x60' ∨ c = '~' then
      let length := 1 + (cs.takeWhile (· = c)).length
      let info := (cs.drop (length - 1)).takeWhile (· ≠ '\n')
      if 3 ≤ length ∧ ¬ (c = '\x60' ∧ info.contains '\x60') then
        some { mark := c, length, info := trimEndWhile isSpace (info.dropWhile isGap) }
      else none
    else none

/-- How many characters the end of the code of a fence has; the end of the text is one. -/
def Fence.endLength? (f : Fence) (cs : List Char) : Option Nat :=
  let marks := (cs.takeWhile (· = f.mark)).length
  let spaces := ((cs.drop marks).takeWhile (· = ' ')).length
  if cs.isEmpty then some 0
  else if f.length ≤ marks ∧ (eol? (cs.drop (marks + spaces))).isSome then some (marks + spaces)
  else none

/-! ## 3. Items of lists -/

/-- The marker of an item: the character that tells lists apart, the number in front of it, and how
many characters both have. -/
structure Marker where
  delimiter : Char
  number : Nat
  width : Nat

/-- A marker in front of a text, and what follows it. -/
def marker? (cs : List Char) : Option (Marker × List Char) :=
  match cs with
  | [] => none
  | c :: rest =>
    if c = '-' ∨ c = '+' ∨ c = '*' then some ({ delimiter := c, number := 0, width := 1 }, rest)
    else
      let (ds, after) := takeDigits 9 cs
      match digits? 10 ds, after with
      | some number, d :: rest =>
        if d = '.' ∨ d = ')' then
          some ({ delimiter := d, number, width := ds.length + 1 }, rest)
        else none
      | _, _ => none

/-- The number that a list starts with; a list with bullets has none. -/
def Marker.first? (m : Marker) : Option Nat :=
  if m.delimiter = '.' ∨ m.delimiter = ')' then some m.number else none

/-- **The start of an item** behind `outer` spaces: its marker, the indentation of its content,
and what is left of the line. -/
def itemStart? (outer : Nat) (c : Cursor) : Option (Marker × Nat × Cursor) :=
  if isRule (lineOf c.rest) then none
  else
    (marker? c.rest).bind fun (m, rest) =>
      let marked : Cursor := ⟨rest, c.taken + m.width, c.column + m.width, 0⟩
      let (missing, next) := marked.skip 1
      if missing = 1 ∧ ¬ marked.atEnd then none
      else
        let indent := outer + m.width + 1
        if isBlankLine next.rest then some (m, indent, next)
        else
          let (post, content) := next.indent
          if post < 4 then some (m, indent + post, content) else some (m, indent, next)

/-- Whether a line may interrupt a paragraph with an item.  Within the same containers only an item
with content may, and among numbered items only the first. -/
def interruptsWithItem (within : Bool) (cs : List Char) : Bool :=
  match marker? cs with
  | none => false
  | some (m, rest) =>
    rest.head?.all Cursor.isSpacing &&
      (!within || (decide (m.first?.getD 1 = 1) && !rest.all isGap))

/-! ## 4. Paragraphs -/

/-- Whether a block of HTML starts that may interrupt a paragraph. -/
def startsFirmHtml (cs : List Char) : Bool :=
  match cs with
  | '<' :: rest => (verbatimBlockEnd? rest).isSome || startsBlockTag rest
  | _ => false

/-- **Whether a line ends the paragraph in front of it.**  `within` tells whether the line stands
in the same containers. -/
def interrupts (within : Bool) (cs : List Char) : Bool :=
  let line := lineOf cs
  line.isEmpty || isRule line || (headingLevel? line).isSome || (fence? cs).isSome
    || line.head? = some '>' || interruptsWithItem within line || startsFirmHtml line

end Notekeeper.Markdown
