import Notekeeper.Markdown.Link
import Notekeeper.Text.Search
/-!
# Tags

The constructs of HTML that Markdown hands through: tags, comments, instructions, declarations and
marked sections.  Each reader takes what follows the opening `<`.  A tag may span several lines;
what continues the containers around it in front of a line does not belong to it.
-/

namespace Notekeeper.Markdown

open Text

/-! ## 1. Drafts -/

/-- **A tag that is read**: its text so far, last character first, and what follows. -/
structure Draft where
  written : List Char
  rest : List Char

namespace Draft

/-- The next `n` characters belong to the tag. -/
def take (n : Nat) (d : Draft) : Draft := ⟨(d.rest.take n).reverseAux d.written, d.rest.drop n⟩

/-- The next characters for which `p` holds belong to the tag. -/
def takeWhile (p : Char → Bool) (d : Draft) : Draft :=
  ⟨(d.rest.takeWhile p).reverseAux d.written, d.rest.dropWhile p⟩

/-- The next `n` characters do not belong to the tag. -/
def pass (n : Nat) (d : Draft) : Draft := { d with rest := d.rest.drop n }

/-- The end of a line belongs to the tag, what `margin` passes after it does not. -/
def endLine? (margin : Margin) (d : Draft) : Option Draft :=
  let ended := d.take ((eol? d.rest).getD 0)
  (margin ended.rest).map ended.pass

/-- Blanks and ends of lines.  The fuel bounds their number. -/
def blanks? (margin : Margin) : (fuel : Nat) → Draft → Option Draft
  | 0, _ => none
  | fuel + 1, d =>
    match d.rest with
    | [] => some d
    | c :: _ =>
      if isGap c then blanks? margin fuel (d.take 1)
      else if endsLine c then (d.endLine? margin).bind (blanks? margin fuel)
      else some d

/-! ## 2. Attributes -/

/-- A quoted value, after its opening quote.  The fuel bounds its length. -/
def quoted? (margin : Margin) (quote : Char) : (fuel : Nat) → Draft → Option Draft
  | 0, _ => none
  | fuel + 1, d =>
    match d.rest with
    | [] => none
    | c :: _ =>
      if c = quote then some (d.take 1)
      else if endsLine c then (d.endLine? margin).bind (quoted? margin quote fuel)
      else quoted? margin quote fuel (d.take 1)

/-- Whether a character may stand in a value without quotes. -/
def isValueLetter (c : Char) : Bool :=
  !(endsLine c || " \"\x27=<>\x60".toList.contains c)

/-- The value of an attribute. -/
def value? (margin : Margin) (size : Nat) (d : Draft) : Option Draft :=
  match d.rest with
  | [] => none
  | c :: _ =>
    if c = '"' ∨ c = '\x27' then quoted? margin c size (d.take 1)
    else if isValueLetter c then some (d.takeWhile isValueLetter)
    else none

/-- Whether the name of an attribute may start with a character. -/
def isNameStart (c : Char) : Bool := c.isAlpha || c = '_' || c = ':'

/-- Whether the name of an attribute may go on with a character. -/
def isNameRest (c : Char) : Bool := c.isAlphanum || c = '_' || c = '.' || c = ':' || c = '-'

/-- An attribute: a name, and a value behind an equals sign. -/
def attribute? (margin : Margin) (size : Nat) (d : Draft) : Option Draft :=
  if d.rest.head?.any isNameStart then
    let named := d.takeWhile isNameRest
    (named.blanks? margin size).bind fun next =>
      if next.rest.head? = some '=' then
        ((next.take 1).blanks? margin size).bind (value? margin size)
      else some named
  else none

/-! ## 3. Tags -/

/-- The rest of an opening tag after its name.  A blank stands in front of each attribute.  The
fuel bounds their number. -/
def attributes? (margin : Margin) (size : Nat) : (fuel : Nat) → Draft → Option Draft
  | 0, _ => none
  | fuel + 1, d =>
    (d.blanks? margin size).bind fun next =>
      match next.rest with
      | '>' :: _ => some (next.take 1)
      | '/' :: '>' :: _ => some (next.take 2)
      | rest =>
        if rest.length = d.rest.length then none
        else (next.attribute? margin size).bind (attributes? margin size fuel)

/-- Whether the name of a tag may go on with a character. -/
def isTagRest (c : Char) : Bool := c.isAlphanum || c = '-'

/-- The name of a tag. -/
def name? (d : Draft) : Option Draft :=
  if d.rest.head?.any Char.isAlpha then some (d.takeWhile isTagRest) else none

end Draft

/-- **An opening or a closing tag** and what follows it.  Its text comes without the margins of its
lines. -/
def tag? (margin : Margin) (cs : List Char) : Option (List Char × List Char) :=
  let size := cs.length + 1
  let read : Option Draft :=
    match cs with
    | '/' :: _ =>
      (Draft.name? (Draft.take 1 ⟨[], cs⟩)).bind fun d =>
        let closed := d.takeWhile isGap
        if closed.rest.head? = some '>' then some (closed.take 1) else none
    | _ => (Draft.name? ⟨[], cs⟩).bind (Draft.attributes? margin size size)
  read.map fun d => (d.written.reverse, d.rest)

/-! ## 4. Other constructs -/

/-- What follows the first occurrence of a piece. -/
def after? (piece : String) (cs : List Char) : Option (List Char) :=
  (splitFirst piece.toList cs).map (·.2)

/-- What follows a comment, after its opening dashes. -/
def afterComment? : List Char → Option (List Char)
  | '>' :: rest => some rest
  | '-' :: '>' :: rest => some rest
  | cs => after? "-->" cs

/-- What follows a marked section: it ends with its first brackets. -/
def afterSection? (cs : List Char) : Option (List Char) :=
  match cs.dropWhile (· ≠ ']') with
  | [] => none
  | rest => dropPrefix? ['>'] (rest.dropWhile (· = ']'))

/-- **A construct of HTML** within a text, and what follows it.  Only tags have margins. -/
def construct? (margin : Margin) (cs : List Char) : Option (List Char × List Char) :=
  let raw (rest : List Char) : List Char × List Char := (cs.take (cs.length - rest.length), rest)
  match cs with
  | '?' :: rest => (after? "?>" rest).map raw
  | '!' :: '-' :: '-' :: rest => (afterComment? rest).map raw
  | '!' :: '[' :: rest => ((dropPrefix? "CDATA[".toList rest).bind afterSection?).map raw
  | '!' :: c :: rest => if c.isAlpha then (after? ">" rest).map raw else none
  | _ => tag? margin cs

/-! ## 5. Constructs that start a block -/

/-- The tags of blocks. -/
def blockTags : List String :=
  ["address", "article", "aside", "base", "basefont", "blockquote", "body", "caption", "center",
   "col", "colgroup", "dd", "details", "dialog", "dir", "div", "dl", "dt", "fieldset",
   "figcaption", "figure", "footer", "form", "frame", "frameset", "h1", "h2", "h3", "h4", "h5",
   "h6", "head", "header", "hr", "html", "iframe", "legend", "li", "link", "main", "menu",
   "menuitem", "nav", "noframes", "ol", "optgroup", "option", "p", "param", "search", "section",
   "summary", "table", "tbody", "td", "tfoot", "th", "thead", "title", "tr", "track", "ul"]

/-- Whether a text starts with the tag of a block. -/
def startsBlockTag (cs : List Char) : Bool :=
  let named := match cs with
    | '/' :: rest => rest
    | _ => cs
  let name := named.takeWhile Char.isAlphanum
  blockTags.contains (String.ofList (name.map Char.toLower)) &&
    match named.dropWhile Char.isAlphanum with
    | [] => true
    | '/' :: '>' :: _ => true
    | c :: _ => c = ' ' || c = '\t' || c = '\n' || c = '\r' || c = '>'

/-- The elements whose content is no Markdown. -/
def verbatimTags : List String := ["pre", "style", "script", "textarea"]

/-- The closing tag of the verbatim element that a text starts with. -/
def verbatimEnd? (cs : List Char) : Option (List Char) :=
  (verbatimTags.find? fun tag =>
    (cs.take tag.length).map Char.toLower = tag.toList &&
      match cs.drop tag.length with
      | [] => true
      | c :: _ => isSpace c || c = '>').map fun tag => "</".toList ++ tag.toList ++ ['>']

/-- **What ends a verbatim block**: the first piece that closes the construct which a text starts
with. -/
def verbatimBlockEnd? (cs : List Char) : Option (List Char) :=
  match verbatimEnd? cs with
  | some closing => some closing
  | none =>
    match cs with
    | '!' :: '-' :: '-' :: _ => some "-->".toList
    | '?' :: _ => some "?>".toList
    | '!' :: rest =>
      if (dropPrefix? "[CDATA[".toList rest).isSome then some "]]>".toList
      else match rest with
        | c :: _ => if c.isAlpha then some ['>'] else none
        | [] => none
    | _ => none

/-- Whether a line starts with a tag that stands alone on it. -/
def startsLoneTag (cs : List Char) : Bool :=
  match tag? (fun _ => none) cs with
  | some (_, rest) => isBlankLine rest
  | none => false

end Notekeeper.Markdown
