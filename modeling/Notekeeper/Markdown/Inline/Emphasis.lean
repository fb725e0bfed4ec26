import Notekeeper.Markdown.Node
/-!
# Emphasis

Runs of `*` and `_` open and close emphasis.  A run that closes looks for the nearest run in front
of it that it can close; two characters of both make the nodes between strong, one emphasises them.

* `pair` : nodes whose runs are paired.
-/

namespace Notekeeper.Markdown

/-! ## 1. Open runs -/

/-- **A run that waits to be closed**: whether it counts as one that also closes, where it starts,
how many of its marks are left, and the nodes in front of it, last first. -/
structure Opener where
  run : Run
  both : Bool
  start : Place
  left : Nat
  before : List Node

/-- Whether a run may be closed by a later one.  Where one of them both opens and closes, their
lengths must not add up to a multiple of three, unless both are multiples of it. -/
def Opener.closedBy (o : Opener) (closer : Run) : Bool :=
  o.run.mark = closer.mark &&
    ((!o.both && !closer.isBoth) || (o.run.length + closer.length) % 3 ≠ 0
      || closer.length % 3 = 0)

/-- The marks of a run that are left, as text. -/
def Opener.marks (o : Opener) : Node := .leaf o.start (o.start.offset + o.left) .text

/-! ## 2. Pairing -/

/-- The pairing of the runs read so far: the open runs, innermost first, and the nodes after the
innermost, last first. -/
structure Pairing where
  openers : List Opener
  nodes : List Node

/-- Nodes behind open runs that are not closed: the marks of these are text.  Last first. -/
def unopened (openers : List Opener) (nodes : List Node) : List Node :=
  nodes ++ openers.flatMap fun o => o.marks :: o.before

/-- Nodes within as many marks on both sides. -/
def wrap (start : Place) (stop : Nat) : (n : Nat) → List Node → List Node
  | 0, children => children
  | 1, children => [⟨start, stop, .emphasis, children⟩]
  | n + 2, children => wrap start stop n [⟨start, stop, .strong, children⟩]

/-- The innermost run that a run closes, the runs inside it, and those around it. -/
def splitOpeners (closer : Run) : List Opener → Option (List Opener × Opener × List Opener)
  | [] => none
  | o :: outer =>
    if o.closedBy closer then some ([], o, outer)
    else (splitOpeners closer outer).map fun (inner, found, rest) => (o :: inner, found, rest)

/-- Closes what a run can close: the pairing, and how many marks of the run are left.  An open run
of which marks are left counts from then on as one that also closes if its closing run opens. -/
def Pairing.close (closer : Run) (stop : Nat) : (left : Nat) → Pairing → Pairing × Nat
  | 0, p => (p, 0)
  | left + 1, p =>
    match splitOpeners closer p.openers with
    | none => (p, left + 1)
    | some (inner, opener, outer) =>
      let matched := min (left + 1) opener.left
      let wrapped := wrap opener.start stop matched (unopened inner p.nodes).reverse
      if matched < opener.left then
        let opener := { opener with left := opener.left - matched, both := closer.isBoth }
        ({ openers := opener :: outer, nodes := wrapped.reverse }, 0)
      else
        let next := { openers := outer, nodes := wrapped.reverse ++ opener.before }
        if h : 0 < matched then next.close closer stop (left + 1 - matched) else (next, left + 1)
termination_by left => left

/-- The pairing after one more node. -/
def Pairing.step (p : Pairing) (n : Node) : Pairing :=
  match n.body with
  | .run r =>
    let (p, left) := if r.closes then p.close r n.stop r.length else (p, r.length)
    let start := n.start.move (r.length - left)
    if left = 0 then p
    else if r.opens then
      let opener := { run := r, both := r.isBoth, start, left, before := p.nodes }
      { openers := opener :: p.openers, nodes := [] }
    else { p with nodes := .leaf start n.stop .text :: p.nodes }
  | _ => { p with nodes := n :: p.nodes }

/-- **Nodes whose runs are paired.** -/
def pair (nodes : List Node) : List Node :=
  let p := nodes.foldl Pairing.step { openers := [], nodes := [] }
  (unopened p.openers p.nodes).reverse

end Notekeeper.Markdown
