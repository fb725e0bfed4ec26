import Notekeeper.Markdown.Block.Building
import Notekeeper.Markdown.Block.Definition
import Notekeeper.Markdown.Inline.Line
/-!
# Reading blocks

A text is read block by block.  Each block starts at the front of a line, within the containers
that the line stays in, and gives the place where the next one starts.

* `Outline.read` : the nodes of a text, its marks undecided, and what it defines.
-/

namespace Notekeeper.Markdown

open Text

namespace Building

/-! ## 1. Lines of code and HTML -/

/-- What is left of the line at a place that stays within all open containers. -/
def within? (s : Building) (p : Place) : Option Cursor :=
  let (n, c) := s.descend p.rest
  if n = s.frames.length then some c else none

/-- The text of the line between two places, behind `spaces` spaces.  A carriage return in front of
its last character is left out. -/
def codeLine (spaces : Nat) (p q : Place) : List Char :=
  let raw := p.upTo q.offset
  let line := match q.before, raw.reverse with
    | last :: '\r' :: _, _ :: _ :: front =>
      if last.toNat < 0x80 then (last :: front).reverse else raw
    | _, _ => raw
  List.replicate spaces ' ' ++ line

/-- The place behind the next line feed. -/
def nextFeed (p : Place) : Place := p.move (feedLength p.rest)

/-- **Indented code** whose next line is at `p` behind `spaces` spaces: its lines, last first, each
with whether it is blank and where it stops, and the place behind them. -/
def codeLines (s : Building) : (fuel : Nat) → (lines : List (List Char × Bool × Nat)) →
    (blank : Bool) → (spaces : Nat) → Place → List (List Char × Bool × Nat) × Place
  | 0, lines, _, _, p => (lines, p)
  | fuel + 1, lines, blank, spaces, p =>
    let q := nextFeed p
    let lines := (codeLine spaces p q, blank, q.offset) :: lines
    match s.within? q with
    | none => (lines, q)
    | some c =>
      let (missing, next) := c.skip 4
      let start := q.move next.taken
      if (missing ≠ 0 ∧ ¬ next.atEnd) ∨ start.rest.isEmpty then (lines, q)
      else s.codeLines fuel lines (isBlankLine start.rest) next.spaces start

/-- A block of code behind four spaces. -/
def indentedCode (s : Building) (c : Cursor) (p : Place) : Building × Place :=
  let (lines, after) := s.codeLines (s.size + 1) [] false c.spaces p
  let solid := lines.dropWhile (·.2.1)
  let text := (solid.reverse.map (·.1)).flatten
  let stop := (solid.head?.map (·.2.2)).getD p.offset
  let s := s.add (.leaf p stop (.code [] text))
  ({ s with blank := (lines.head?.map (·.2.1)).getD false }, after)

/-- **Fenced code** whose next line starts at `p`: its text behind `text`, the offset where it
stops, and the place behind it. -/
def fencedLines (s : Building) (f : Fence) (indent : Nat) : (fuel : Nat) → (text : List Char) →
    Place → List Char × Nat × Place
  | 0, text, p => (text, p.offset, p)
  | fuel + 1, text, p =>
    match s.within? p with
    | none => (text, p.offset, p)
    | some c =>
      let next := (c.skip indent).2
      let (missing, closing) := next.skip (4 - indent)
      let ended := p.move closing.taken
      match if missing ≠ 0 then f.endLength? ended.rest else none with
      | some n =>
        let stop := ended.move n
        (text, stop.offset, stop.move ((blankLine? stop.rest).getD 0))
      | none =>
        let start := p.move next.taken
        let q := nextFeed start
        s.fencedLines f indent fuel ((codeLine next.spaces start q).reverseAux text) q

/-- A block of code within fences. -/
def fencedCode (s : Building) (f : Fence) (indent : Nat) (p : Place) : Building × Place :=
  let (text, stop, after) := s.fencedLines f indent (s.size + 1) [] (nextFeed p)
  (s.add (.leaf p stop (.code (unescape f.info) text.reverse)), after)

/-- **A block of HTML** whose next line is at `p` behind `spaces` spaces: its text behind `text`,
the offset where it stops, and the place behind it.  A verbatim block ends with the line in which
`closing?` stands, another one in front of a blank line. -/
def htmlLines (s : Building) (closing? : Option (List Char)) : (fuel : Nat) → (text : List Char) →
    (spaces : Nat) → Place → List Char × Nat × Place
  | 0, text, _, p => (text, p.offset, p)
  | fuel + 1, text, spaces, p =>
    let q := nextFeed p
    let text := (codeLine spaces p q).reverseAux text
    let ended := match closing? with
      | some closing => contains closing (p.upTo q.offset)
      | none => false
    match s.within? q with
    | none => (text, q.offset, q)
    | some c =>
      let start := q.move c.taken
      if ended || (closing?.isNone && c.atEnd) then (text, q.offset, q)
      else if start.rest.isEmpty || (closing?.isNone && isBlankLine start.rest) then
        (text, start.offset, q)
      else s.htmlLines closing? fuel text c.spaces start

/-- What ends the block of HTML that a line starts with; a block that is not verbatim ends in front
of a blank line. -/
def htmlEnd? (line : List Char) : Option (Option (List Char)) :=
  match line with
  | '<' :: rest =>
    match verbatimBlockEnd? rest with
    | some closing => some (some closing)
    | none => if startsBlockTag rest ∨ startsLoneTag rest then some none else none
  | _ => none

/-- A block of HTML. -/
def htmlBlock (s : Building) (closing? : Option (List Char)) (indent : Nat) (p : Place) :
    Building × Place :=
  let (text, stop, after) := s.htmlLines closing? (s.size + 1) [] indent p
  (s.add (.leaf p stop (.html text.reverse)), after)

/-! ## 2. Headings and paragraphs -/

/-- Text in place of a hard break that nothing follows. -/
def withBackslash (ended : Option Node) (nodes : List Node) : List Node :=
  match ended with
  | some n =>
    match n.body with
    | .hardBreak true => Node.addText n.start (n.start.offset + 1) nodes
    | _ => nodes
  | none => nodes

/-- The last node, which comes first, stops at another offset. -/
def stopLast (stop : Nat) : List Node → List Node
  | [] => []
  | n :: ns => { n with stop } :: ns

/-- A heading that starts with its marks. -/
def heading (s : Building) (level : Nat) (p : Place) : Building × Place :=
  let marked := p.move level
  match eol? marked.rest with
  | some width =>
    let after := marked.move width
    (s.add (.leaf p after.offset (.heading level)), after)
  | none =>
    let start := marked.move (marked.rest.takeWhile isGap).length
    let (nodes, ended, after) := readLine s.size [] start
    let length := headingLength (start.upTo after.offset)
    let nodes := stopLast (start.offset + length) (withBackslash ended nodes)
    (s.add ⟨p, after.offset, .heading level, nodes.reverse⟩, after)

/-- The further lines of a paragraph behind `nodes`, last first: all nodes, what the paragraph is,
and the place behind it. -/
def paragraphLines (s : Building) : (fuel : Nat) → (nodes : List Node) → Place →
    List Node × Body × Place
  | 0, nodes, p => (nodes, .paragraph, p)
  | fuel + 1, nodes, p =>
    let (nodes, ended, after) := readLine s.size nodes p
    let (n, c) := s.descend after.rest
    let within := decide (n = s.frames.length)
    let (missing, next) := c.skip 4
    let line := lineOf next.rest
    match if missing ≠ 0 ∧ within then underline? line else none with
    | some level =>
      let underlined := after.move (next.taken + line.length)
      let behind := underlined.move ((eol? underlined.rest).getD 0)
      (withBackslash ended nodes, .heading level, behind)
    | none =>
      let start := after.move next.takenWithSpaces
      if (missing ≠ 0 ∧ interrupts within next.rest) ∨ (eol? start.rest).isSome then
        (withBackslash ended nodes, .paragraph, after)
      else s.paragraphLines fuel (ended.toList ++ nodes) start

/-- **A paragraph**, or the heading that a line under it makes of it. -/
def paragraph (s : Building) (p : Place) : Building × Place :=
  let (nodes, body, after) := s.paragraphLines (s.size + 1) [] p
  (s.add ⟨p, after.offset, body, nodes.reverse⟩, after)

/-- Definitions in front of a paragraph: the place behind them, and whether a paragraph starts
there.  The fuel bounds their number. -/
def passDefinitions : (fuel : Nat) → Building → Place → Building × Place × Bool
  | 0, s, p => (s, p, true)
  | fuel + 1, s, p =>
    match definition? s.containers p.rest with
    | none => (s, p, true)
    | some (definition, rest) =>
      let s := { s with definitions := definition :: s.definitions }
      let ended := p.move (p.rest.length - rest.length)
      let after := ended.move ((blankLine? ended.rest).getD 0)
      let (n, c) := s.descend after.rest
      let (missing, next) := c.skip 4
      if missing ≠ 0 ∧ interrupts (decide (n = s.frames.length)) next.rest then (s, after, false)
      else passDefinitions fuel s (after.move next.takenWithSpaces)

/-! ## 3. Blocks -/

/-- **The block at a place**, behind `indent` spaces. -/
def leaf (s : Building) (indent : Nat) (p : Place) : Building × Place :=
  let line := lineOf p.rest
  match htmlEnd? line, headingLevel? line, fence? p.rest with
  | some closing?, _, _ => s.htmlBlock closing? indent p
  | none, level?, fence? =>
    if isRule line then
      let ruled := p.move line.length
      let after := ruled.move ((eol? ruled.rest).getD 0)
      (s.add (.leaf p after.offset .rule), after)
    else match level?, fence? with
      | some level, _ => s.heading level p
      | none, some f => s.fencedCode f indent p
      | none, none =>
        let (s, after, starts) := passDefinitions (s.size + 1) s p
        if starts then s.paragraph after else (s, after)

/-- Opens the containers that start in the line at `p`: what is left of the line, and whether it is
complete because an item starts that has nothing in it yet.  The fuel bounds their number. -/
def openAll : (fuel : Nat) → Place → Cursor → Building → Building × Cursor × Bool
  | 0, _, c, s => (s, c, false)
  | fuel + 1, p, c, s =>
    let (outer, next) := c.indent
    let start := p.move next.taken
    if outer = 4 then (s, c, false)
    else match itemStart? outer next with
      | some (m, indent, content) =>
        let first := start.back outer
        let s := (s.continueList m first).push (.item indent) first
        match blankLine? content.rest with
        | some n =>
          let behind := { content with taken := content.taken + n }
          ({ s with begun := some (p.offset + behind.taken) }, behind, true)
        | none => openAll fuel p content s
      | none =>
        match next.drop? '>' with
        | some inner => openAll fuel p (inner.skip 1).2 ((s.finishList p.offset).push .quote start)
        | none => (s, c, false)

/-- **One block** at the front of a line: what is open and complete after it, and the place behind
it. -/
def block (s : Building) (p : Place) : Building × Place :=
  let (n, c) := s.descend p.rest
  let s := s.popMany p.offset (s.frames.length - n)
  match openAll (s.size + 1) p c s with
  | (s, c, true) => (s, p.move c.taken)
  | (s, c, false) =>
    match blankLine? c.rest with
    | some n => (s.blankLine, p.move (c.taken + n))
    | none =>
      let s := s.finishList p.offset
      let (indent, next) := c.indent
      let start := p.move next.taken
      if indent = 4 then s.indentedCode next start else s.leaf indent start

/-- All blocks.  The fuel bounds their number. -/
def run : (fuel : Nat) → Building → Place → Building
  | 0, s, _ => s
  | fuel + 1, s, p =>
    if p.rest.isEmpty then s.popMany p.offset s.frames.length
    else
      let (next, after) := s.block p
      run fuel next after

end Building

/-- **A document that is read once**: its nodes, whose marks are undecided, and what it defines. -/
structure Outline where
  nodes : List Node
  definitions : Definitions

/-- **The outline of a text.** -/
def Outline.read (cs : List Char) : Outline :=
  let s := (Building.empty cs.length).run (cs.length + 1) (Place.start cs)
  { nodes := s.nodes.reverse, definitions := s.definitions.reverse }

end Notekeeper.Markdown
