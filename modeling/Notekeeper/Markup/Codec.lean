import Notekeeper.Markup.PlainText
/-!
# Codecs

A codec takes the markdown that a user edits to the markup that is stored, and back.
-/

namespace Notekeeper

/-- **A way from markdown to markup and back.** -/
structure Codec where
  /-- The markdown of markup; fails if the markup is malformed. -/
  toMarkdown : String → Except Error String
  /-- The markup of markdown. -/
  toMarkup : String → String

namespace Codec

/-- The codec for which markdown is markup. -/
def identity : Codec where
  toMarkdown body := .ok body
  toMarkup md := md

end Codec
end Notekeeper
