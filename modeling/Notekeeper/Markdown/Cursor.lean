import Notekeeper.Markdown.Place
/-!
# The front of a line

The structure of blocks is told from the front of each line.  A tab stands for the spaces up to
the next column that is a multiple of four, so that a cursor in a line may stand within a tab.

* `Cursor.skip` : spaces at the front of what is left of a line.
* `Container.descend` : how far a line stays within some containers.
-/

namespace Notekeeper.Markdown

/-! ## 1. Cursors -/

/-- **A place in a line**: what is left, how many characters were passed, the column counted from
the last tab, and how many spaces of a tab are left. -/
structure Cursor where
  rest : List Char
  taken : Nat
  column : Nat
  spaces : Nat

namespace Cursor

/-- The start of a line. -/
def start (cs : List Char) : Cursor := ⟨cs, 0, 0, 0⟩

/-- How many of `n` spaces were missing in front of a text, and what is left after them. -/
def skipFrom (n taken column : Nat) : List Char → Nat × Cursor
  | ' ' :: cs =>
    if n = 0 then (0, ⟨' ' :: cs, taken, column, 0⟩)
    else skipFrom (n - 1) (taken + 1) (column + 1) cs
  | '\t' :: cs =>
    let width := 4 - column % 4
    if n = 0 then (0, ⟨'\t' :: cs, taken, column, 0⟩)
    else if n ≤ width then (0, ⟨cs, taken + 1, 0, width - n⟩)
    else skipFrom (n - width) (taken + 1) 0 cs
  | cs => (n, ⟨cs, taken, column, 0⟩)

/-- **Skips up to `n` spaces**: how many were missing, and what is left. -/
def skip (n : Nat) (c : Cursor) : Nat × Cursor :=
  if n ≤ c.spaces then (0, { c with spaces := c.spaces - n })
  else skipFrom (n - c.spaces) c.taken c.column c.rest

/-- How many spaces stand in front, four at most, and what is left after them. -/
def indent (c : Cursor) : Nat × Cursor :=
  let (missing, next) := c.skip 4
  (4 - missing, next)

/-- Whether a character is a space or a tab. -/
def isSpacing (c : Char) : Bool := c = ' ' || c = '\t'

/-- How many characters were passed once all spaces and tabs in front are passed too. -/
def takenWithSpaces (c : Cursor) : Nat := c.taken + (c.rest.takeWhile isSpacing).length

/-- What is left after a character that is the next of the text. -/
def drop? (mark : Char) (c : Cursor) : Option Cursor :=
  match c.rest with
  | d :: rest => if d = mark then some ⟨rest, c.taken + 1, c.column + 1, c.spaces⟩ else none
  | [] => none

/-- Whether the line ends here. -/
def atEnd (c : Cursor) : Bool := (eol? c.rest).isSome

end Cursor

/-! ## 2. Containers -/

/-- **What holds other blocks**: a quote, a list, or an item whose content stands behind `indent`
spaces. -/
inductive Container where
  | quote
  | list
  | item (indent : Nat)

namespace Container

/-- The place in a line behind what continues a container. -/
def next? (c : Cursor) : Container → Option Cursor
  | quote => ((c.skip 3).2.drop? '>').map fun inner => (inner.skip 1).2
  | list => some c
  | item indent =>
    let (missing, next) := c.skip indent
    if missing = 0 ∨ next.atEnd then some next else none

/-- **How many containers a line stays within**, of those listed outermost first, and what is left
of the line. -/
def descend (c : Cursor) : List Container → Nat × Cursor
  | [] => (0, c)
  | b :: bs =>
    match b.next? c with
    | some next =>
      let (n, rest) := descend next bs
      (n + 1, rest)
    | none => (0, c)

/-- How many characters in front of a line continue some containers. -/
def marginLength (containers : List Container) (cs : List Char) : Nat :=
  (descend (Cursor.start cs) containers).2.taken

end Container

end Notekeeper.Markdown
