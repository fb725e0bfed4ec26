import Notekeeper.Markdown.Node
/-!
# The text of a line

A line of a paragraph or a heading is cut into text and marks.  The end of the line is a break,
which belongs to the paragraph if another line follows.

* `readLine` : the nodes of a line, the break at its end, and the place behind it.
-/

namespace Notekeeper.Markdown

/-! ## 1. Breaks -/

/-- What has been read of a line: the nodes, last first, and the place where text starts that is
no node yet. -/
structure LineSoFar where
  nodes : List Node
  start : Place

namespace LineSoFar

/-- The nodes with the text up to an offset. -/
def close (s : LineSoFar) (stop : Nat) : List Node := Node.addText s.start stop s.nodes

/-- One more node, which starts at `p` and has `length` characters, behind the text before it. -/
def add (s : LineSoFar) (p : Place) (length : Nat) (body : Body) : LineSoFar where
  nodes := Node.leaf p (p.offset + length) body :: s.close p.offset
  start := p.move length

/-- **The end of a line** at `p`: the nodes, the break, and the place behind it.  A backslash makes
the break hard, if text follows, and so do two blanks; blanks do not belong to the text. -/
def breakAt (s : LineSoFar) (p : Place) : List Node × Node × Place :=
  let after := p.move ((eol? p.rest).getD 0)
  let slashes := (p.before.takeWhile (· = '\\')).length
  let blanks := (p.before.takeWhile isGap).length
  if slashes % 2 = 1 ∧ ¬ after.rest.isEmpty then
    (s.close (p.offset - 1), .leaf p.previous after.offset (.hardBreak true), after)
  else
    let body := if 2 ≤ blanks then .hardBreak false else .softBreak
    (s.close (p.offset - blanks), .leaf (p.back blanks) after.offset body, after)

/-- The nodes at the end of the text. -/
def finish (s : LineSoFar) (p : Place) : List Node :=
  let blanks := ((p.before.take (p.offset - s.start.offset)).takeWhile isGap).length
  s.close (p.offset - blanks)

/-! ## 2. Marks -/

/-- **One step**: what is read of the text at `p`, where the line started at `origin`, and the
place behind it. -/
def step (origin : Nat) (s : LineSoFar) (p : Place) (c : Char) (rest : List Char) :
    LineSoFar × Place :=
  let skip (n : Nat) : LineSoFar × Place := (s, p.move n)
  let mark (length : Nat) (body : Body) : LineSoFar × Place :=
    (s.add p length body, p.move length)
  let repeated (c : Char) (cs : List Char) : Nat := (cs.takeWhile (· = c)).length
  if c = '\\' then
    match rest with
    | '\x60' :: more =>
      let count := 1 + repeated '\x60' more
      let escaped := p.next
      let text : LineSoFar := { nodes := s.close p.offset, start := escaped }
      (text.add escaped count (.backticks count true), escaped.move count)
    | d :: _ =>
      if isMark d then ({ nodes := s.close p.offset, start := p.next }, p.move 2) else skip 1
    | [] => skip 1
  else if c = '*' ∨ c = '_' then
    let count := 1 + repeated c rest
    let before := if p.offset = origin then none else p.before.head?
    let run := Run.between before c count (rest.drop (count - 1)).head?
    if run.opens || run.closes then mark count (.run run) else skip count
  else if c = '\x60' then
    let count := 1 + repeated c rest
    mark count (.backticks count false)
  else if c = '<' then if rest.head? = some '\\' then skip 1 else mark 1 .angle
  else if c = '!' then if rest.head? = some '[' then mark 2 (.opening true) else skip 1
  else if c = '[' then mark 1 (.opening false)
  else if c = ']' then mark 1 (.closing true)
  else if c = '&' then
    match reference? rest with
    | some r => mark (r.length + 1) (.given r.stands)
    | none => skip 1
  else skip 1

/-- All that is read of a line.  The fuel bounds its length. -/
def run (origin : Nat) : (fuel : Nat) → LineSoFar → Place → List Node × Option Node × Place
  | 0, s, p => (s.finish p, none, p)
  | fuel + 1, s, p =>
    match p.rest with
    | [] => (s.finish p, none, p)
    | c :: rest =>
      if endsLine c then
        let (nodes, ended, after) := s.breakAt p
        (nodes, some ended, after)
      else
        let (next, after) := s.step origin p c rest
        run origin fuel next after

end LineSoFar

/-- **The nodes of the line at a place**, behind `nodes`, last first, with the break at its end and
the place behind it.  `size` bounds its length. -/
def readLine (size : Nat) (nodes : List Node) (p : Place) : List Node × Option Node × Place :=
  LineSoFar.run p.offset (size + 1) { nodes, start := p } p

end Notekeeper.Markdown
