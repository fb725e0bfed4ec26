import Notekeeper.Markdown.Element
import Notekeeper.Text.Utf8
/-!
# Writing a document as HTML

Every block starts on a line of its own.

* `Element.write` : an element as HTML.
* `html` : a document as HTML.
* `lt_not_mem_escapeText` : escaped text starts no tag.
-/

namespace Notekeeper.Markdown

open Text

/-! ## 1. Escapes -/

/-- A character of a text. -/
def escapeTextChar (c : Char) : List Char :=
  if c = '&' then "&amp;".toList
  else if c = '<' then "&lt;".toList
  else if c = '>' then "&gt;".toList
  else [c]

/-- **A text**, its characters escaped that would start a tag or a reference. -/
def escapeText (cs : List Char) : List Char := cs.flatMap escapeTextChar

/-- Escaped characters start no tag. -/
theorem lt_not_mem_escapeTextChar (c : Char) : '<' ∉ escapeTextChar c := by
  unfold escapeTextChar
  split
  · decide
  · split
    · decide
    · next h =>
      split
      · decide
      · simpa using fun hc : '<' = c => h hc.symm

/-- **Escaped text starts no tag.** -/
theorem lt_not_mem_escapeText (cs : List Char) : '<' ∉ escapeText cs := by
  intro h
  obtain ⟨c, -, hc⟩ := List.mem_flatMap.1 h
  exact lt_not_mem_escapeTextChar c hc

/-- **The value of an attribute**, its quotes escaped too. -/
def escapeValue (cs : List Char) : List Char :=
  cs.flatMap fun c =>
    if c = '"' then "&quot;".toList else if c = '\x27' then "&#39;".toList else escapeTextChar c

/-- Whether a character stands for itself in an address. -/
def isAddressChar (c : Char) : Bool :=
  c.isAlphanum || "!#$%()*+,-./:;=?@^_~".toList.contains c

/-- A byte of an address as a percent sign and two digits. -/
def percentByte (b : UInt8) : List Char := '%' :: (hexByte b).map Char.toUpper

/-- **An address**, all bytes escaped that an address does not hold. -/
def escapeAddress (cs : List Char) : List Char :=
  cs.flatMap fun c =>
    if isAddressChar c then [c]
    else if c = '&' then "&amp;".toList
    else if c = '\x27' then "&#x27;".toList
    else (Utf8.encodeChar c).flatMap percentByte

/-! ## 2. Plain text -/

mutual

/-- The text of an element without its marks. -/
def Element.plain : Element → List Char
  | .text cs | .span cs | .markup cs | .code _ cs => cs
  | .softBreak | .hardBreak | .rule => [' ']
  | .html _ => []
  | .emphasis children | .strong children | .link _ children | .image _ children
  | .paragraph children | .heading _ children | .quote children | .list _ children
  | .item children => plainAll children

/-- The text of some elements without their marks. -/
def plainAll : List Element → List Char
  | [] => []
  | e :: es => e.plain ++ plainAll es

end

/-! ## 3. Elements -/

/-- What is written so far, last character first. -/
abbrev Written := List Char

namespace Written

/-- More of the text. -/
def put (w : Written) (cs : List Char) : Written := cs.reverseAux w

/-- More of the text. -/
def say (w : Written) (s : String) : Written := w.put s.toList

/-- Starts a line, unless nothing has been written since the last one ended. -/
def fresh (w : Written) : Written :=
  match w with
  | [] => []
  | '\n' :: _ => w
  | _ => '\n' :: w

end Written

/-- A title as an attribute; no title, no attribute. -/
def titleAttribute (title : List Char) : List Char :=
  if title.isEmpty then [] else "\" title=\"".toList ++ escapeValue title

/-- The name of the element of a heading. -/
def headingName (level : Nat) : List Char := 'h' :: decimal level

/-- The tags of code, with the language that is named first. -/
def codeTag (info : List Char) : List Char :=
  let language := info.takeWhile (· ≠ ' ')
  if language.isEmpty then "<pre><code>".toList
  else "<pre><code class=\"language-".toList ++ escapeValue language ++ "\">".toList

/-- The opening tag of a list. -/
def listTag : Option Nat → List Char
  | none => "<ul>\n".toList
  | some 1 => "<ol>\n".toList
  | some n => "<ol start=\"".toList ++ decimal n ++ "\">\n".toList

/-- The closing tag of a list. -/
def listEnd : Option Nat → String
  | none => "</ul>\n"
  | some _ => "</ol>\n"

mutual

/-- **An element as HTML**, behind what is written. -/
def Element.write (w : Written) : Element → Written
  | .text cs => w.put (escapeText cs)
  | .softBreak => w.say "\n"
  | .hardBreak => w.say "<br />\n"
  | .span cs => ((w.say "<code>").put (escapeText cs)).say "</code>"
  | .markup cs => w.put cs
  | .emphasis children => (writeAll (w.say "<em>") children).say "</em>"
  | .strong children => (writeAll (w.say "<strong>") children).say "</strong>"
  | .link target children =>
    let tag := "<a href=\"".toList ++ escapeAddress target.destination ++
      titleAttribute target.title ++ "\">".toList
    (writeAll (w.put tag) children).say "</a>"
  | .image target children =>
    w.put ("<img src=\"".toList ++ escapeAddress target.destination ++ "\" alt=\"".toList ++
      escapeValue (plainAll children) ++ titleAttribute target.title ++ "\" />".toList)
  | .paragraph children => (writeAll (w.fresh.say "<p>") children).say "</p>\n"
  | .heading level children =>
    let name := headingName level
    (writeAll (w.fresh.put ('<' :: name ++ ['>'])) children).put
      ("</".toList ++ name ++ ">\n".toList)
  | .rule => w.fresh.say "<hr />\n"
  | .code info text =>
    ((w.fresh.put (codeTag info)).put (escapeText text)).say "</code></pre>\n"
  | .html text => w.put text
  | .quote children => (writeAll (w.fresh.say "<blockquote>\n") children).say "</blockquote>\n"
  | .list first? items => (writeAll (w.fresh.put (listTag first?)) items).say (listEnd first?)
  | .item children => (writeAll (w.fresh.say "<li>") children).say "</li>\n"

/-- Elements as HTML. -/
def writeAll (w : Written) : List Element → Written
  | [] => w
  | e :: es => writeAll (e.write w) es

end

/-- **A document as HTML.** -/
def html (elements : List Element) : List Char := (writeAll [] elements).reverse

end Notekeeper.Markdown
