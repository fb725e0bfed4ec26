import Notekeeper.Markdown.Block.Opening
import Notekeeper.Markdown.Node
/-!
# Open containers

Quotes, lists and their items stay open from line to line, each within the one before.  A list is
loose once a blank line stands between two things in it; in a tight list the paragraphs of an item
dissolve, so that its blocks stand beside the text.

* `Building.continueList` , `Building.finishList` : what starts a list and what ends one.
* `dissolve` : an item of a tight list.
-/

namespace Notekeeper.Markdown

/-! ## 1. Frames -/

/-- What an open container is. -/
inductive Role where
  | quote
  | list (delimiter : Char) (first? : Option Nat) (tight : Bool)
  | item (indent : Nat)

/-- The container that a role stands for. -/
def Role.container : Role → Container
  | quote => .quote
  | list .. => .list
  | item indent => .item indent

/-- **An open container**: where it starts and the nodes that it holds so far, last first. -/
structure Frame where
  role : Role
  start : Place
  nodes : List Node

/-- A list with blank lines in it. -/
def Frame.loosen (f : Frame) : Frame :=
  match f.role with
  | .list delimiter first? _ => { f with role := .list delimiter first? false }
  | _ => f

/-! ## 2. Tight lists -/

/-- Nodes whose paragraphs are replaced by what these hold; one that holds nothing stays. -/
def dissolveRest (nodes : List Node) : List Node :=
  nodes.flatMap fun n =>
    match n.body, n.children with
    | .paragraph, c :: cs => c :: cs
    | _, _ => [n]

/-- **What an item of a tight list holds**, its paragraphs replaced by what these hold.  If the
first is a paragraph that holds nothing, nothing is left. -/
def dissolve : List Node → List Node
  | [] => []
  | n :: ns =>
    match n.body, n.children with
    | .paragraph, [] => []
    | _, _ => dissolveRest (n :: ns)

/-! ## 3. Containers -/

/-- What is open and what is complete: the frames, innermost first; the nodes outside of all, last
first; whether the last line was blank; where the line ends that started an item and held nothing
else; what was defined, last first; and the length of the text. -/
structure Building where
  frames : List Frame
  nodes : List Node
  blank : Bool
  begun : Option Nat
  definitions : Definitions
  size : Nat

namespace Building

/-- Nothing yet of a text with `size` characters. -/
def empty (size : Nat) : Building where
  frames := []
  nodes := []
  blank := false
  begun := none
  definitions := []
  size := size

/-- The open containers, outermost first. -/
def containers (s : Building) : List Container := (s.frames.map (·.role.container)).reverse

/-- How many open containers a line stays within, and what is left of it. -/
def descend (s : Building) (cs : List Char) : Nat × Cursor :=
  Container.descend (Cursor.start cs) s.containers

/-- **One more node** in the innermost container. -/
def add (s : Building) (n : Node) : Building :=
  match s.frames with
  | f :: outer => { s with frames := { f with nodes := n :: f.nodes } :: outer }
  | [] => { s with nodes := n :: s.nodes }

/-- The innermost container is complete and stops at an offset. -/
def pop (stop : Nat) (s : Building) : Building :=
  match s.frames with
  | [] => s
  | f :: outer =>
    let within := { s with frames := outer }
    let children := f.nodes.reverse
    match f.role with
    | .quote => within.add ⟨f.start, stop, .quote, children⟩
    | .item indent => within.add ⟨f.start, stop, .item indent, children⟩
    | .list _ first? false => within.add ⟨f.start, stop, .list first?, children⟩
    | .list _ first? true =>
      let items := children.map fun n => { n with children := dissolve n.children }
      { within.add ⟨f.start, stop, .list first?, items⟩ with begun := none }

/-- The `n` innermost containers are complete. -/
def popMany (stop : Nat) : (n : Nat) → Building → Building
  | 0, s => s
  | n + 1, s => popMany stop n (s.pop stop)

/-- One more open container. -/
def push (s : Building) (role : Role) (start : Place) : Building :=
  { s with frames := ⟨role, start, []⟩ :: s.frames }

/-- Ends an item that started with two blank lines. -/
def finishEmptyItem (s : Building) : Building :=
  let ended := match s.begun, s.frames with
    | some stop, ⟨.item _, _, _⟩ :: _ => if s.blank then s.pop stop else s
    | _, _ => s
  { ended with begun := none }

/-- **Ends a list** in front of what is no item of it.  A blank line before makes the list around
loose. -/
def finishList (stop : Nat) (s : Building) : Building :=
  let s := s.finishEmptyItem
  let s := match s.frames with
    | ⟨.list .., _, _⟩ :: _ => s.pop stop
    | _ => s
  match s.blank, s.frames with
  | true, f :: g :: outer => { s with frames := f :: g.loosen :: outer, blank := false }
  | _, _ => { s with blank := false }

/-- **Continues a list** or starts one, in front of an item. -/
def continueList (s : Building) (m : Marker) (start : Place) : Building :=
  let s := s.finishEmptyItem
  let begin (s : Building) : Building :=
    { s.push (.list m.delimiter m.first? true) start with blank := false }
  match s.frames with
  | ⟨.list d first? tight, first, nodes⟩ :: outer =>
    if d = m.delimiter then
      let list : Frame := ⟨.list d first? (tight && !s.blank), first, nodes⟩
      { s with frames := list :: outer, blank := false }
    else begin (s.finishList start.offset)
  | _ :: _ => begin (s.finishList start.offset)
  | [] => begin s

/-- **A blank line.**  An item that it starts holds nothing that is indented like its content. -/
def blankLine (s : Building) : Building :=
  match s.frames with
  | ⟨.quote, _, _⟩ :: _ => s
  | ⟨.item indent, start, nodes⟩ :: outer =>
    let indent := if s.begun.isSome then 0 else indent
    { s with frames := ⟨.item indent, start, nodes⟩ :: outer, blank := true }
  | _ => { s with blank := true }

end Building

end Notekeeper.Markdown
