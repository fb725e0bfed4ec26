import Notekeeper.Markdown.Element
import Notekeeper.Markdown.Inline.Autolink
import Notekeeper.Markdown.Inline.Emphasis
import Notekeeper.Markdown.Tag
/-!
# Deciding marks

The marks among some nodes are decided from left to right.  Backticks, angles and brackets are read
from the text itself, up to the end of the node that holds them; brackets wait for the bracket that
closes them.  Runs are paired last.  In an item of a tight list blocks stand between the nodes, and
all marks but backticks may reach into them.

* `decideMarks` : nodes whose marks are decided.
* `elements` : the elements that some nodes are.
-/

namespace Notekeeper.Markdown

open Text

/-! ## 1. Where marks stand -/

/-- What is known about the nodes whose marks are decided: what the document defines, the
containers around them, outermost first, and the offset where the node stops that holds them. -/
structure Scope where
  definitions : Definitions
  containers : List Container
  stop : Nat

namespace Scope

/-- How many characters in front of a line continue the containers. -/
def marginLength (sc : Scope) (cs : List Char) : Nat := Container.marginLength sc.containers cs

/-! ## 2. Code -/

/-- The text of a span of code with a space for each end of a line, without the margins.  `done` is
what is read already, last character first; the fuel bounds the length. -/
def spanText (sc : Scope) : (fuel : Nat) → (done : List Char) → List Char → List Char
  | 0, done, _ => done.reverse
  | _ + 1, done, [] => done.reverse
  | fuel + 1, done, c :: cs =>
    if endsLine c then sc.spanText fuel (' ' :: done) (cs.drop (sc.marginLength cs))
    else sc.spanText fuel (c :: done) cs

/-- **The content of a span of code**: a space at both ends is left out unless there is nothing
else. -/
def span (sc : Scope) (cs : List Char) : List Char :=
  let text := sc.spanText (cs.length + 1) [] cs
  if text.head? = some ' ' ∧ text.getLast? = some ' ' ∧ ¬ text.all (· = ' ') then
    text.tail.dropLast
  else text

/-! ## 3. Links -/

/-- What follows the blanks in front of a text and one end of line among them. -/
def skipSeparator (sc : Scope) (cs : List Char) : List Char :=
  let next := cs.dropWhile isGap
  match eol? next with
  | some width =>
    let line := next.drop width
    (line.drop (sc.marginLength line)).dropWhile isGap
  | none => next

/-- A title at `p` up to its closing mark, and the place behind it.  Where a line ends, it goes on
where the next of the nodes starts.  `done` is what is read already, last character first; the
fuel bounds the length. -/
def titleFrom? (sc : Scope) (opening closing : Char) : (fuel : Nat) → (done : List Char) →
    List Node → Place → Option (List Char × Place)
  | 0, _, _, _ => none
  | fuel + 1, done, nodes, p =>
    match p.rest with
    | [] => none
    | c :: rest =>
      let plain (_ : Unit) : Option (List Char × Place) :=
        sc.titleFrom? opening closing fuel (c :: done) nodes p.next
      if sc.stop ≤ p.offset then none
      else if c = closing then some (done.reverse, p.next)
      else if c = opening then none
      else if endsLine c then
        let nodes := nodes.dropWhile fun n => n.stop ≤ p.offset + 1
        match nodes with
        | n :: _ =>
          if p.offset < n.start.offset then
            sc.titleFrom? opening closing fuel ('\n' :: done) nodes (p.reach n.start.offset)
          else plain ()
        | [] => plain ()
      else if c = '&' then
        match reference? (rest.take (sc.stop - p.offset - 1)) with
        | some r =>
          let read := r.stands.reverseAux done
          sc.titleFrom? opening closing fuel read nodes (p.move (r.length + 1))
        | none => plain ()
      else if c = '\\' then
        match rest with
        | d :: _ =>
          if isMark d ∧ p.offset + 1 < sc.stop then
            sc.titleFrom? opening closing fuel (d :: done) nodes (p.move 2)
          else plain ()
        | [] => plain ()
      else plain ()

/-- A title at a place, with its escapes and references replaced, and the place behind it. -/
def title? (sc : Scope) (nodes : List Node) (p : Place) : Option (List Char × Place) :=
  let size := sc.stop - p.offset + 1
  match p.upTo (p.offset + 1) with
  | ['"'] => sc.titleFrom? '"' '"' size [] nodes p.next
  | ['\x27'] => sc.titleFrom? '\x27' '\x27' size [] nodes p.next
  | ['('] => sc.titleFrom? '(' ')' size [] nodes p.next
  | _ => none

/-- **The target of a link** that is written in parentheses at a place, and the offset behind
them. -/
def inlineTarget? (sc : Scope) (nodes : List Node) (p : Place) : Option (Target × Nat) :=
  match p.upTo sc.stop with
  | '(' :: rest => do
    let start := sc.skipSeparator rest
    let (written, after) ← destination? start
    let next := sc.skipSeparator after
    let place := p.move (rest.length + 1 - next.length)
    let (title, closing) := match sc.title? nodes place with
      | some (title, q) => (title, sc.skipSeparator (q.upTo sc.stop))
      | none => ([], next)
    let after ← dropPrefix? [')'] closing
    some ({ destination := unescape written, title }, p.offset + (rest.length + 1 - after.length))
  | _ => none

/-- A label at the start of a text, and its length with both brackets. -/
def labelAt? (sc : Scope) (cs : List Char) : Option (List Char × Nat) :=
  match cs with
  | '[' :: rest =>
    (label? (fun line => some (sc.marginLength line)) rest).map fun (label, after) =>
      (label, cs.length - after.length)
  | _ => none

end Scope

/-! ## 4. Marks that are decided -/

/-- A bracket that is open: whether it starts an image, whether it may still be closed to a link,
its node, and the nodes in front of it, last first. -/
structure Bracket where
  image : Bool
  live : Bool
  node : Node
  before : List Node

/-- **What has been decided**: the open brackets, innermost first, and the nodes after the
innermost, last first; the backticks that a search has met, each with its count and offset, and
whether it has met any; and how much of definitions may still be written out. -/
structure Decided where
  brackets : List Bracket
  nodes : List Node
  met : List (Nat × Nat)
  searched : Bool
  budget : Nat

namespace Decided

/-- One more node. -/
def add (s : Decided) (n : Node) : Decided := { s with nodes := n :: s.nodes }

/-- One more node, which is text. -/
def text (s : Decided) (n : Node) : Decided := s.add { n with body := .text }

/-- A bracket as text and the nodes in front of it, last first. -/
def unbracket (b : Bracket) : List Node := { b.node with body := .text } :: b.before

/-- All nodes, in order; brackets that are still open are text. -/
def finish (s : Decided) : List Node := (s.nodes ++ s.brackets.flatMap unbracket).reverse

/-! ## 5. Backticks and angles -/

/-- The nodes from the first backticks on that are `count`, if no block stands before them, and the
other backticks before them. -/
def searchBackticks (count : Nat) : List Node → Option (List Node) × List (Nat × Nat)
  | [] => (none, [])
  | n :: ns =>
    match n.body with
    | .backticks k _ =>
      if k = count then (some (n :: ns), [])
      else
        let (found, met) := searchBackticks count ns
        (found, (k, n.start.offset) :: met)
    | body => if body.isBlock then (none, []) else searchBackticks count ns

/-- **Backticks**: a span of code up to the next backticks of the same count, or text.  The first of
escaped backticks is text.  What one search has met serves the next. -/
def backticks (sc : Scope) (s : Decided) (n : Node) (count : Nat) (escaped : Bool)
    (rest : List Node) : Decided × List Node :=
  let wanted := if escaped then count - 1 else count
  let close (s : Decided) (closing : List Node) : Decided × List Node :=
    match closing with
    | [] => (s.text n, rest)
    | c :: after =>
      let content := sc.span ((n.start.reach n.stop).upTo c.start.offset)
      let s := if escaped then s.add (.leaf n.start (n.start.offset + 1) .text) else s
      (s.add (.leaf n.start c.stop (.span content)), after)
  if wanted = 0 then (s.text n, rest)
  else if s.met.isEmpty then
    match searchBackticks wanted rest with
    | (some closing, _) => close { s with met := [], searched := false } closing
    | (none, met) =>
      let met' := if s.searched then met else met.drop 1
      (text { s with met := met', searched := s.searched || !met.isEmpty } n, rest)
  else match s.met.find? fun (k, offset) => k = wanted ∧ n.start.offset < offset with
    | some (_, offset) => close s (rest.dropWhile fun m => m.start.offset ≠ offset)
    | none => (s.text n, rest)

/-- **An angle**: an address or a construct of HTML, read from where the next node starts. -/
def angle (sc : Scope) (s : Decided) (n : Node) (rest : List Node) : Decided × List Node :=
  match rest with
  | [] => (s.text n, rest)
  | m :: _ =>
    let text := m.start.upTo sc.stop
    let link (destination after : List Char) : Decided × List Node :=
      let stop := m.start.offset + text.length - after.length
      let shown := Node.leaf n.start.next (stop - 1) .text
      (s.add ⟨n.start, stop, .link { destination, title := [] }, [shown]⟩, Node.behind stop rest)
    match resource? text, mailbox? text with
    | some (address, after), _ => link address after
    | none, some (address, after) => link ("mailto:".toList ++ address) after
    | none, none =>
      match construct? (fun line => some (sc.marginLength line)) text with
      | some (written, after) =>
        let stop := m.start.offset + text.length - after.length
        (s.add (.leaf n.start stop (.markup ('<' :: written))), Node.behind stop rest)
      | none => (s.text n, rest)

/-! ## 6. Brackets -/

/-- A label that may refer to a definition, the nodes behind the link, and the offset where the link
stops. -/
structure Mention where
  label : List Char
  after : List Node
  stop : Nat

/-- **What a closing bracket refers to**, and the nodes behind it.  A bracket that closes the label
behind it refers to nothing on its own from then on. -/
def mention? (sc : Scope) (b : Bracket) (n : Node) (refers : Bool) (rest : List Node) :
    Option Mention × List Node :=
  let own (after : List Node) : Option Mention :=
    let cs := (b.node.start.reach (b.node.stop - 1)).upTo n.stop
    if refers then
      match sc.labelAt? cs with
      | some (label, length) =>
        if length = cs.length then some { label, after, stop := n.stop } else none
      | none => none
    else none
  match rest with
  | [] => (own [], rest)
  | m :: _ =>
    let tail := m.start.upTo sc.stop
    match tail with
    | '[' :: ']' :: _ => (own (rest.drop 2), rest)
    | _ =>
      match sc.labelAt? tail with
      | some (label, length) =>
        let stop := m.start.offset + length
        let (inner, outer) := rest.span fun k => k.stop ≤ stop - 1
        match outer with
        | [] => (none, rest)
        | k :: after =>
          (some { label, after, stop }, inner ++ { k with body := .closing false } :: after)
      | none => (own rest, rest)

/-- A bracket around a link: a link cannot hold it any more. -/
def deactivate (b : Bracket) : Bracket := { b with live := b.live && b.image }

/-- The nodes since a bracket as a link or an image. -/
def link (s : Decided) (b : Bracket) (outer : List Bracket) (target : Target) (stop : Nat) :
    Decided :=
  let body := if b.image then .image target else .link target
  { s with
    brackets := if b.image then outer else outer.map deactivate
    nodes := ⟨b.node.start, stop, body, s.nodes.reverse⟩ :: b.before }

/-- How much of definitions a target takes. -/
def targetSize (t : Target) : Nat := (String.ofList (t.destination ++ t.title)).utf8ByteSize

/-- **A closing bracket**: what is decided then, and the nodes behind it. -/
def closeBracket (sc : Scope) (s : Decided) (n : Node) (refers : Bool) (rest : List Node) :
    Decided × List Node :=
  match s.brackets with
  | [] => (s.text n, rest)
  | b :: outer =>
    let unlinked : Decided := text { s with brackets := outer, nodes := s.nodes ++ unbracket b } n
    if b.live then
      match sc.inlineTarget? rest (n.start.reach n.stop) with
      | some (target, stop) => (s.link b outer target stop, Node.behind stop rest)
      | none =>
        let (mention?, rest) := mention? sc b n refers rest
        let defined? : Option (Mention × Target) := mention?.bind fun m =>
          if s.budget = 0 then none else (sc.definitions.find? m.label).map (m, ·)
        match defined? with
        | some (m, target) =>
          let spent := { s with budget := s.budget - targetSize target }
          (spent.link b outer target m.stop, m.after)
        | none => (unlinked, rest)
    else (unlinked, rest)

/-! ## 7. All marks -/

/-- **One step**: what is decided with one more node, and the nodes behind. -/
def step (sc : Scope) (s : Decided) (n : Node) (rest : List Node) : Decided × List Node :=
  match n.body with
  | .backticks count escaped => s.backticks sc n count escaped rest
  | .angle => s.angle sc n rest
  | .opening image =>
    let b := { image, live := true, node := n, before := s.nodes }
    ({ s with brackets := b :: s.brackets, nodes := [] }, rest)
  | .closing refers => s.closeBracket sc n refers rest
  | _ => (s.add n, rest)

/-- All nodes but the runs are decided.  The fuel bounds their number. -/
def run (sc : Scope) : (fuel : Nat) → Decided → List Node → Decided
  | 0, s, rest => { s with nodes := rest.reverse ++ s.nodes }
  | _ + 1, s, [] => s
  | fuel + 1, s, n :: ns =>
    let (next, rest) := s.step sc n ns
    run sc fuel next rest

end Decided

/-- A hard break at the end of some nodes is text, if it is written as a backslash. -/
def endWithBackslash : List Node → List Node
  | [] => []
  | [n] =>
    match n.body with
    | .hardBreak true => [{ n with body := .given ['\\'] }]
    | _ => [n]
  | n :: ns => n :: endWithBackslash ns

/-- **Nodes whose marks are decided**, and how much of definitions may be written out after
them. -/
def decideMarks (sc : Scope) (budget : Nat) (nodes : List Node) : List Node × Nat :=
  let start : Decided := { brackets := [], nodes := [], met := [], searched := false, budget }
  let s := start.run sc (nodes.length + 1) nodes
  (pair (endWithBackslash s.finish), s.budget)

/-! ## 8. Elements -/

/-- The scope within a node. -/
def Scope.within (sc : Scope) (n : Node) : Scope :=
  let inner : List Container := match n.body with
    | .quote => [.quote]
    | .item indent => [.item indent]
    | _ => []
  { sc with containers := sc.containers ++ inner, stop := n.stop }

/-- The element that a node is, given those that it holds. -/
def Node.element (n : Node) (children : List Element) : Element :=
  match n.body with
  | .paragraph => .paragraph children
  | .heading level => .heading level children
  | .rule => .rule
  | .code info text => .code info text
  | .html text => .html text
  | .quote => .quote children
  | .list first? => .list first? children
  | .item _ => .item children
  | .given cs => .text cs
  | .softBreak => .softBreak
  | .hardBreak _ => .hardBreak
  | .span cs => .span cs
  | .markup cs => .markup cs
  | .emphasis => .emphasis children
  | .strong => .strong children
  | .link target => .link target children
  | .image target => .image target children
  | .text | .run _ | .backticks .. | .angle | .opening _ | .closing _ => .text n.source

/-- The elements that nodes are, whose marks are decided; `inner` gives those within a node. -/
def elementsOf (inner : Scope → Nat → List Node → List Element × Nat) (sc : Scope) :
    (budget : Nat) → List Node → List Element × Nat
  | budget, [] => ([], budget)
  | budget, n :: ns =>
    let (children, budget) := inner (sc.within n) budget n.children
    let (more, budget) := elementsOf inner sc budget ns
    (n.element children :: more, budget)

/-- **The elements that some nodes are**, and how much of definitions may be written out after
them.  Marks are decided from the first of them on.  The fuel bounds how deep nodes are nested. -/
def elements : (fuel : Nat) → Scope → (budget : Nat) → List Node → List Element × Nat
  | 0, _, budget, _ => ([], budget)
  | fuel + 1, sc, budget, nodes =>
    let (plain, marked) := nodes.span fun n => !n.body.isMark
    let (front, budget) := elementsOf (elements fuel) sc budget plain
    let (decided, budget) := decideMarks sc budget marked
    let (back, budget) := elementsOf (elements fuel) sc budget decided
    (front ++ back, budget)

end Notekeeper.Markdown
