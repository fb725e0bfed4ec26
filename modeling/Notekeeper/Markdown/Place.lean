import Notekeeper.Markdown.Character
/-!
# Places and ends of lines

A place in a text knows what stands before it and what follows it.  A line ends with a line feed,
with a carriage return, or with both; the lines of code end with line feeds alone.

* `Place.text_move` : moving a place leaves the text as it is.
-/

namespace Notekeeper.Markdown

/-! ## 1. Places -/

/-- **A place in a text**: how many characters stand before it, these characters, last first, and
what follows. -/
structure Place where
  offset : Nat
  before : List Char
  rest : List Char

namespace Place

/-- The start of a text. -/
def start (cs : List Char) : Place := ⟨0, [], cs⟩

/-- The text that a place is in. -/
def text (p : Place) : List Char := p.before.reverse ++ p.rest

/-- The place behind the next character. -/
def next (p : Place) : Place :=
  match p.rest with
  | [] => p
  | c :: cs => ⟨p.offset + 1, c :: p.before, cs⟩

/-- The place in front of the last character. -/
def previous (p : Place) : Place :=
  match p.before with
  | [] => p
  | c :: cs => ⟨p.offset - 1, cs, c :: p.rest⟩

/-- The place `n` characters further. -/
def move : (n : Nat) → Place → Place
  | 0, p => p
  | n + 1, p => move n p.next

/-- The place `n` characters before. -/
def back : (n : Nat) → Place → Place
  | 0, p => p
  | n + 1, p => back n p.previous

/-- The place with an offset, or this one if it is further. -/
def reach (offset : Nat) (p : Place) : Place := p.move (offset - p.offset)

/-- The text from a place up to an offset. -/
def upTo (p : Place) (stop : Nat) : List Char := p.rest.take (stop - p.offset)

theorem text_next (p : Place) : p.next.text = p.text := by
  unfold next text
  split
  · rfl
  · next h => simp [h]

/-- **Moving a place leaves the text as it is.** -/
theorem text_move (n : Nat) (p : Place) : (p.move n).text = p.text := by
  induction n generalizing p with
  | zero => rfl
  | succ n ih => rw [move, ih, text_next]

end Place

/-! ## 2. Ends of lines -/

/-- How many characters the end of line has that stands in front.  The end of the text is one too,
of no characters. -/
def eol? : List Char → Option Nat
  | [] => some 0
  | '\n' :: _ => some 1
  | '\r' :: '\n' :: _ => some 2
  | '\r' :: _ => some 1
  | _ => none

/-- Whether a character ends a line. -/
def endsLine (c : Char) : Bool := c = '\n' || c = '\r'

/-- The text up to the end of its first line. -/
def lineOf (cs : List Char) : List Char := cs.takeWhile fun c => !endsLine c

/-- How many characters there are up to the next line, if only blanks stand before it. -/
def blankLine? (cs : List Char) : Option Nat :=
  (eol? (cs.dropWhile isGap)).map ((cs.takeWhile isGap).length + ·)

/-- Whether only blanks stand before the end of a line. -/
def isBlankLine (cs : List Char) : Bool := (blankLine? cs).isSome

/-- How many characters there are up to what follows the next line feed. -/
def feedLength : List Char → Nat
  | [] => 0
  | c :: cs => if c = '\n' then 1 else feedLength cs + 1

end Notekeeper.Markdown
