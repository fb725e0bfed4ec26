import Notekeeper.Markdown.Character
/-!
# Runs

Emphasis is marked by runs of `*` and `_`.  What stands next to a run tells whether it may open or
close emphasis.
-/

namespace Notekeeper.Markdown

/-- **A run of one mark**, and what it may do. -/
structure Run where
  mark : Char
  length : Nat
  opens : Bool
  closes : Bool

namespace Run

/-- The run of `length` marks between two characters.  The one before is missing at the start of a
line, the one after at the end of the text. -/
def between (before : Option Char) (mark : Char) (length : Nat) (after : Option Char) : Run where
  mark := mark
  length := length
  opens := after.any fun c => !Text.isBlank c &&
    before.all fun b => (mark = '*' && !isPunctuation c) || Text.isBlank b || isPunctuation b
  closes := before.any fun b => !Text.isBlank b &&
    after.all fun c => (mark = '*' && !isPunctuation b) || Text.isBlank c || isPunctuation c

/-- Whether a run both opens and closes. -/
def isBoth (r : Run) : Bool := r.opens && r.closes

end Run

end Notekeeper.Markdown
