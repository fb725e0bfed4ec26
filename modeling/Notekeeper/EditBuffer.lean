import Notekeeper.Text.Blank
import Notekeeper.Text.Search
/-!
# The edit buffer

A note is edited as one text: its title on the first line, a blank line, and then its content.
Reading a buffer back is lenient: the blank line may be missing, and lines may end in a carriage
return before the newline.
-/

namespace Notekeeper

/-- **What an edit buffer holds.** -/
structure EditBuffer where
  title : String
  content : String
  deriving DecidableEq, Inhabited

namespace EditBuffer

/-- What parts the title from the content. -/
def separator : String := "\n\n"

/-- The text of a buffer. -/
def format (b : EditBuffer) : String := b.title ++ separator ++ b.content

/-- A text without one blank line in front of it. -/
def dropBlankLine (cs : List Char) : List Char :=
  match cs with
  | '\r' :: '\n' :: rest => rest
  | '\n' :: rest => rest
  | rest => rest

/-- **The buffer that a text is.**  The first line is the title, without carriage returns at its
end. -/
def parse (text : String) : EditBuffer :=
  let (title, rest) := (Text.splitAt '\n' text.toList).getD (text.toList, [])
  { title := String.ofList (Text.trimEndWhile (· = '\r') title)
    content := String.ofList (dropBlankLine rest) }

end EditBuffer
end Notekeeper
