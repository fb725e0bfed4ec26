import Notekeeper.Markdown.Block.Parser
import Notekeeper.Markdown.Html
import Notekeeper.Markdown.Inline.Parser
import Notekeeper.Markup.Codec
/-!
# Markdown

Notes are edited as Markdown and stored as markup.  Markdown is written as HTML; what is read back
from markup is its plain text.
-/

namespace Notekeeper

namespace Markdown

/-- How many characters of definitions may be written out in a text: as many as the text has, and
no less than a hundred thousand. -/
def budget (cs : List Char) : Nat := max 100000 (String.ofList cs).utf8ByteSize

/-- **The elements of a text.** -/
def read (cs : List Char) : List Element :=
  let outline := Outline.read cs
  let scope : Scope :=
    { definitions := outline.definitions, containers := [], stop := cs.length }
  (elements (2 * cs.length + 3) scope (budget cs) outline.nodes).1

/-- **The HTML of a text in Markdown.** -/
def toHtml (s : String) : String := String.ofList (html (read s.toList))

end Markdown

/-- The codec that writes Markdown as HTML and reads markup as plain text. -/
def Codec.plainText : Codec where
  toMarkdown := PlainText.read
  toMarkup := Markdown.toHtml

end Notekeeper
