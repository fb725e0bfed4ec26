import Notekeeper.Markdown.Block.Opening
/-!
# Definitions in a text

A paragraph may start with definitions.  A definition spans several lines as long as none of them
would end the paragraph.

* `definition?` : the definition in front of a text.
-/

namespace Notekeeper.Markdown

open Text

/-! ## 1. Lines of a definition -/

/-- **The front of a further line** of a definition, behind the margin of its containers.  A line
that ends the paragraph, and one that could underline it, is none; where `inside` holds, only a
line within the same containers could. -/
def furtherLine? (containers : List Container) (inside : Bool) (cs : List Char) :
    Option Cursor :=
  let (n, c) := Container.descend (Cursor.start cs) containers
  let within := decide (n = containers.length)
  let (missing, next) := c.skip 4
  let underlines := (within || !inside) && (underline? (lineOf next.rest)).isSome
  if missing ≠ 0 ∧ (interrupts within next.rest ∨ underlines) then none else some next

/-- Blanks with at most one end of line among them: whether there is one, and what follows. -/
def definitionGap? (containers : List Container) (cs : List Char) : Option (Bool × List Char) :=
  let next := cs.dropWhile isGap
  match eol? next with
  | none => some (false, next)
  | some width =>
    let line := next.drop width
    (furtherLine? containers false line).bind fun c =>
      let rest := c.rest.dropWhile isGap
      if (eol? rest).isSome then none else some (true, rest)

/-! ## 2. Titles -/

/-- A title up to its closing mark, its ends of lines made line feeds.  `done` is what is read
already, last character first; the fuel bounds the length. -/
def definitionTitleFrom? (containers : List Container) (closing : Char) : (fuel : Nat) →
    (done : List Char) → List Char → Option (List Char × List Char)
  | 0, _, _ => none
  | _ + 1, _, [] => none
  | fuel + 1, done, c :: cs =>
    if c = '(' && closing = ')' then none
    else if endsLine c then
      let line := (c :: cs).drop ((eol? (c :: cs)).getD 0)
      (furtherLine? containers false line).bind fun front =>
        let rest := front.rest.dropWhile Cursor.isSpacing
        if isBlankLine rest then none
        else definitionTitleFrom? containers closing fuel ('\n' :: done) rest
    else if c = closing then some (done.reverse, cs)
    else match c, cs with
      | '\\', d :: rest =>
        if endsLine d then definitionTitleFrom? containers closing fuel (c :: done) cs
        else definitionTitleFrom? containers closing fuel (d :: c :: done) rest
      | _, _ => definitionTitleFrom? containers closing fuel (c :: done) cs

/-- The mark that closes a title which another opens. -/
def titleEnd? (c : Char) : Option Char :=
  if c = '"' ∨ c = '\x27' then some c else if c = '(' then some ')' else none

/-- A title in a definition, as it is written. -/
def definitionTitle? (containers : List Container) (cs : List Char) :
    Option (List Char × List Char) :=
  match cs with
  | [] => none
  | c :: rest =>
    (titleEnd? c).bind fun closing =>
      definitionTitleFrom? containers closing (cs.length + 1) [] rest

/-! ## 3. Definitions -/

/-- **The definition in front of a text**: its folded label, its target, and what follows it.  A
title on a line of its own that does not end with it is left to the text that follows. -/
def definition? (containers : List Container) (cs : List Char) :
    Option ((List Char × Target) × List Char) :=
  match cs with
  | '[' :: rest => do
    let margin : Margin := fun line => (furtherLine? containers true line).map (·.taken)
    let (label, rest) ← label? margin rest
    let rest ← dropPrefix? [':'] rest
    let (_, start) ← definitionGap? containers rest
    let (written, after) ← destination? start
    if written.isEmpty && start.head? ≠ some '<' then none
    let destination := unescape written
    let found (title rest : List Char) : (List Char × Target) × List Char :=
      ((foldCase label, { destination, title }), rest)
    match definitionGap? containers after with
    | none => some (found [] after)
    | some (ended, next) =>
      if next.length = after.length && !ended then none
      else match definitionTitle? containers next with
        | some (title, rest) =>
          if isBlankLine rest then some (found (unescape title) rest)
          else if ended then some (found [] after)
          else none
        | none => if ended then some (found [] after) else none
  | _ => none

end Notekeeper.Markdown
