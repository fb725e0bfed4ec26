import Notekeeper.Markdown.Link
import Notekeeper.Markdown.Run
/-!
# Nodes

A document is read twice.  The first time its blocks are told apart, and every mark in the text of
a block becomes a node of its own.  What the marks mean is decided when all definitions are known.
A node keeps the places where it starts and where it stops, since a link is read from the text
itself and passes over the nodes that it covers.

* `Node.addText` : text is added to text that it continues.
-/

namespace Notekeeper.Markdown

/-- What a node is.  A run, backticks, an angle and brackets are marks, whose meaning is undecided;
`text` is the text between the ends of the node, and `given` a text that is not written so. -/
inductive Body where
  | paragraph
  | heading (level : Nat)
  | rule
  | code (info text : List Char)
  | html (text : List Char)
  | quote
  | list (first? : Option Nat)
  | item (indent : Nat)
  | text
  | given (cs : List Char)
  | softBreak
  | hardBreak (escaped : Bool)
  | span (cs : List Char)
  | markup (cs : List Char)
  | emphasis
  | strong
  | link (target : Target)
  | image (target : Target)
  | run (run : Run)
  | backticks (count : Nat) (escaped : Bool)
  | angle
  | opening (image : Bool)
  | closing (refers : Bool)

namespace Body

/-- Whether a node is a mark. -/
def isMark : Body → Bool
  | run _ | backticks .. | angle | opening _ | closing _ => true
  | _ => false

/-- Whether a node is a block. -/
def isBlock : Body → Bool
  | paragraph | heading _ | rule | code .. | html _ | quote | list _ | item _ => true
  | _ => false

end Body

/-- **A node** of a document: the place where it starts, the offset where it stops, what it is, and
what it holds. -/
structure Node where
  start : Place
  stop : Nat
  body : Body
  children : List Node

namespace Node

/-- A node that holds no others. -/
def leaf (start : Place) (stop : Nat) (body : Body) : Node := ⟨start, stop, body, []⟩

/-- The text between the ends of a node. -/
def source (n : Node) : List Char := n.start.upTo n.stop

/-- **More text** behind some nodes, last first: it is added to text that it continues. -/
def addText (start : Place) (stop : Nat) (nodes : List Node) : List Node :=
  if stop ≤ start.offset then nodes
  else match nodes with
    | ⟨first, middle, .text, children⟩ :: before =>
      if middle = start.offset then ⟨first, stop, .text, children⟩ :: before
      else leaf start stop .text :: nodes
    | _ => leaf start stop .text :: nodes

/-- The nodes behind an offset: those that stop before are left out, and the first of the others
starts there if it started before. -/
def behind (offset : Nat) (nodes : List Node) : List Node :=
  match nodes.dropWhile fun n => n.stop ≤ offset with
  | [] => []
  | n :: ns => { n with start := n.start.reach offset } :: ns

end Node

end Notekeeper.Markdown
