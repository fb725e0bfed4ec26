import Notekeeper.Markdown.Link
/-!
# Elements

What a document is made of once all of its marks are decided.
-/

namespace Notekeeper.Markdown

/-- **An element** of a document.  A list is numbered from its first number, or has bullets.  The
items of a tight list hold text beside blocks. -/
inductive Element where
  | text (cs : List Char)
  | softBreak
  | hardBreak
  | span (code : List Char)
  | markup (cs : List Char)
  | emphasis (children : List Element)
  | strong (children : List Element)
  | link (target : Target) (children : List Element)
  | image (target : Target) (children : List Element)
  | paragraph (children : List Element)
  | heading (level : Nat) (children : List Element)
  | rule
  | code (info text : List Char)
  | html (text : List Char)
  | quote (children : List Element)
  | list (first? : Option Nat) (items : List Element)
  | item (children : List Element)

end Notekeeper.Markdown
