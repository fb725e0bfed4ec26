import Notekeeper.Markdown.Cursor
import Notekeeper.Markdown.FoldCase
import Notekeeper.Markdown.Reference
/-!
# Parts of links

The destination and the label of a link, and definitions, which give a label a destination and a
title.  Each reader takes the text from where the part starts and gives the part and what follows
it.
-/

namespace Notekeeper.Markdown

open Text

/-! ## 1. Escapes -/

/-- A text with its escapes and character references replaced and its carriage returns left out.
`done` is what is read already, last character first; the fuel bounds the length. -/
def unescapeFrom : (fuel : Nat) → (done : List Char) → List Char → List Char
  | 0, done, cs => cs.reverseAux done
  | _ + 1, done, [] => done
  | fuel + 1, done, '\\' :: rest =>
    match rest with
    | c :: more =>
      if isMark c then unescapeFrom fuel (c :: done) more else unescapeFrom fuel ('\\' :: done) rest
    | [] => '\\' :: done
  | fuel + 1, done, '&' :: rest =>
    match reference? rest with
    | some r => unescapeFrom fuel (r.stands.reverseAux done) (rest.drop r.length)
    | none => unescapeFrom fuel ('&' :: done) rest
  | fuel + 1, done, '\r' :: rest => unescapeFrom fuel done rest
  | fuel + 1, done, c :: rest => unescapeFrom fuel (c :: done) rest

/-- **A text with its escapes and character references replaced.** -/
def unescape (cs : List Char) : List Char := (unescapeFrom (cs.length + 1) [] cs).reverse

/-! ## 2. Destinations -/

/-- A destination in angle brackets, after the opening one and behind `done`, which is written last
character first.  The fuel bounds its length. -/
def angled? : (fuel : Nat) → (done : List Char) → List Char → Option (List Char × List Char)
  | 0, _, _ => none
  | _ + 1, _, [] => none
  | fuel + 1, done, c :: rest =>
    if endsLine c || c = '<' then none
    else if c = '>' then some (done.reverse, rest)
    else match c, rest with
      | '\\', d :: more =>
        if isMark d then angled? fuel (d :: '\\' :: done) more else angled? fuel ('\\' :: done) rest
      | _, _ => angled? fuel (c :: done) rest

/-- How deep parentheses may be nested in a destination. -/
def maxParentheses : Nat := 33

/-- A destination without brackets: it ends at a blank, or where a parenthesis closes that was not
opened in it. -/
def bare? : (fuel : Nat) → (nested : Nat) → (done : List Char) → List Char →
    Option (List Char × List Char)
  | 0, _, _, _ => none
  | fuel + 1, nested, done, cs =>
    let ended (_ : Unit) : Option (List Char × List Char) :=
      if nested = 0 then some (done.reverse, cs) else none
    match cs with
    | [] => ended ()
    | c :: rest =>
      if c.toNat ≤ 0x20 then ended ()
      else if c = '(' then
        if nested = maxParentheses then none else bare? fuel (nested + 1) (c :: done) rest
      else if c = ')' then
        if nested = 0 then ended () else bare? fuel (nested - 1) (c :: done) rest
      else match c, rest with
        | '\\', d :: more =>
          if isMark d then bare? fuel nested (d :: '\\' :: done) more
          else bare? fuel nested ('\\' :: done) rest
        | _, _ => bare? fuel nested (c :: done) rest

/-- **A destination**, as it is written. -/
def destination? (cs : List Char) : Option (List Char × List Char) :=
  match cs with
  | '<' :: rest => angled? (cs.length + 1) [] rest
  | _ => bare? (cs.length + 1) 0 [] cs

/-! ## 3. Labels -/

/-- How many characters of a line are passed in front of what belongs to the part that is read; a
line may end the part instead. -/
abbrev Margin := List Char → Option Nat

/-- The length of some blanks in a row with one end of line at most among them.  The fuel bounds
their number. -/
def blanksLength? (margin : Margin) : (fuel : Nat) → (ended : Bool) → (length : Nat) →
    List Char → Option Nat
  | 0, _, _, _ => none
  | _ + 1, _, length, [] => some length
  | fuel + 1, ended, length, c :: cs =>
    if isGap c then blanksLength? margin fuel ended (length + 1) cs
    else if endsLine c then
      if ended then none
      else
        let width := (eol? (c :: cs)).getD 0
        let next := (c :: cs).drop width
        (margin next).bind fun n =>
          blanksLength? margin fuel true (length + width + n) (next.drop n)
    else some length

/-- How much of a label may be counted.  Characters of ASCII are free, apart from blanks and
escaped ones. -/
def maxLabel : Nat := 1000

/-- A label up to its closing bracket, its blanks in a row made one; `done` is what is read
already, last character first, and `counted` how much of it counts.  The fuel bounds its length. -/
def labelFrom? (margin : Margin) : (fuel : Nat) → (counted : Nat) → (done : List Char) →
    List Char → Option (List Char × List Char)
  | 0, _, _, _ => none
  | _ + 1, _, _, [] => none
  | fuel + 1, counted, done, c :: cs =>
    if maxLabel ≤ counted || c = '[' then none
    else if c = ']' then some (done.reverse, cs)
    else if c = '\\' then
      match cs with
      | [] => none
      | d :: rest => labelFrom? margin fuel (counted + 1 + d.utf8Size) (d :: c :: done) rest
    else if isSpace c then
      (blanksLength? margin (cs.length + 2) false 0 (c :: cs)).bind fun n =>
        labelFrom? margin fuel (counted + n) (' ' :: done) ((c :: cs).drop n)
    else
      let counts := if c.toNat < 0x80 then 0 else c.utf8Size
      labelFrom? margin fuel (counted + counts) (c :: done) cs

/-- **A label** after its opening bracket, without the blanks at its ends; one of blanks only is
none. -/
def label? (margin : Margin) (cs : List Char) : Option (List Char × List Char) :=
  (labelFrom? margin (cs.length + 1) 0 [] cs).bind fun (label, rest) =>
    if label.all (· = ' ') then none else some (trimWhile isBlank label, rest)

/-! ## 4. Definitions -/

/-- What a link leads to. -/
structure Target where
  destination : List Char
  title : List Char

/-- **Definitions**: the targets of labels, whose cases are folded. -/
abbrev Definitions := List (List Char × Target)

/-- The target that a label was first defined to have. -/
def Definitions.find? (ds : Definitions) (label : List Char) : Option Target :=
  let folded := foldCase label
  (List.find? (fun d => decide (d.1 = folded)) ds).map (·.2)

end Notekeeper.Markdown
