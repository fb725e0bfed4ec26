/-!
# Patterns

A pattern says which pieces of a text match.  Of all matches the leftmost one counts, and of those
the longest; among matches of one length the first one in the order of the alternatives, each part
taking as many repetitions as it can.  A text has one character for each byte.
-/

namespace Notekeeper.StreamEdit

/-! ## 1. Shapes -/

/-- Whether a character is part of a word. -/
def isWordPart (c : Char) : Bool := c.isAlphanum || c = '_'

/-- **A set of characters**: those in some ranges, or all others. -/
structure Letters where
  negated : Bool := false
  ranges : List (Char × Char)

/-- Whether a character is in a set; in either case, if case does not count. -/
def Letters.has (l : Letters) (ignoreCase : Bool) (c : Char) : Bool :=
  let inRanges (c : Char) : Bool := l.ranges.any fun (lo, hi) => lo ≤ c && c ≤ hi
  (inRanges c || (ignoreCase && (inRanges c.toLower || inRanges c.toUpper))) != l.negated

/-- What can be asked of a place between two characters. -/
inductive Boundary
  | lineStart
  | lineEnd
  | textStart
  | textEnd
  | wordStart
  | wordEnd
  | wordEdge
  | noWordEdge
  deriving DecidableEq

/-- **The shape of a pattern.** -/
inductive Shape
  | empty
  | letter (l : Letters)
  | place (b : Boundary)
  | seq (p q : Shape)
  | either (p q : Shape)
  /-- A shape some times in a row: at least `least` times, and at most `most` times if there is a
  limit. -/
  | times (p : Shape) (least : Nat) (most : Option Nat)
  | group (n : Nat) (p : Shape)
  /-- What a group has matched. -/
  | again (n : Nat)

/-- A pattern with what it takes for the same. -/
structure Pattern where
  shape : Shape
  /-- The number of groups. -/
  groups : Nat
  ignoreCase : Bool := false
  /-- Whether the lines of a text have starts and ends of their own. -/
  manyLines : Bool := false

/-- Whether a shape asks again for what a group has matched. -/
def Shape.refersBack : Shape → Bool
  | empty | letter _ | place _ => false
  | seq p q | either p q => p.refersBack || q.refersBack
  | times p _ _ | group _ p => p.refersBack
  | again _ => true

/-! ## 2. Matches -/

/-- What is matched so far. -/
structure Reach where
  stop : Nat
  /-- The groups with start and end, the latest first. -/
  groups : List (Nat × Nat × Nat) := []
  deriving BEq

/-- A pattern in use on a text. -/
structure Subject where
  text : Array Char
  ignoreCase : Bool
  /-- The character that ends the lines of the text, if they count. -/
  lineEnd : Option Char
  /-- Whether groups tell matches apart. -/
  refersBack : Bool

namespace Subject

/-- Whether a place is of some kind. -/
def holds (s : Subject) (b : Boundary) (i : Nat) : Bool :=
  let before? := if 0 < i then s.text[i - 1]? else none
  let after? := s.text[i]?
  let before := before?.any isWordPart
  let after := after?.any isWordPart
  match b with
  | .lineStart => before? = none || before? = s.lineEnd
  | .lineEnd => after? = none || after? = s.lineEnd
  | .textStart => before? = none
  | .textEnd => after? = none
  | .wordStart => !before && after
  | .wordEnd => before && !after
  | .wordEdge => before != after
  | .noWordEdge => before = after

/-- Whether two matches go on in the same way. -/
def same (s : Subject) (a b : Reach) : Bool :=
  a.stop = b.stop && (!s.refersBack || a.groups == b.groups)

/-- The matches that go on in different ways; the first of its kind stays. -/
def distinct (s : Subject) : List Reach → List Reach
  | [] => []
  | [a] => [a]
  | as => as.eraseDupsBy s.same

/-- The next match with what a group has matched. -/
def repeats (s : Subject) (n : Nat) (r : Reach) : List Reach :=
  match r.groups.find? (·.1 = n) with
  | none => []
  | some (_, start, stop) =>
    let fold (c : Option Char) := if s.ignoreCase then c.map Char.toLower else c
    let length := stop - start
    if r.stop + length ≤ s.text.size
        && (List.range length).all fun i => fold s.text[start + i]? = fold s.text[r.stop + i]? then
      [{ r with stop := r.stop + length }]
    else []

/-- Matches of at most `depth` more repetitions, every one getting ahead: the reaches seen so far
with the repetitions left, and the matches, the least wanted one first. -/
def deepen (s : Subject) (limited : Bool) (step : Reach → List Reach) :
    (depth : Nat) → Reach → List (Nat × Reach) × List Reach → List (Nat × Reach) × List Reach
  | 0, r, (seen, found) => (seen, r :: found)
  | depth + 1, r, (seen, found) =>
    let left := if limited then depth + 1 else 0
    if seen.any fun (n, a) => n = left && s.same a r then (seen, found)
    else
      let ahead := (step r).filter (·.stop ≠ r.stop)
      let (seen, found) := ahead.foldl (fun state next => deepen s limited step depth next state)
        ((left, r) :: seen, found)
      (seen, r :: found)

/-- The matches of `count` repetitions. -/
def repeated (s : Subject) (step : Reach → List Reach) : (count : Nat) → List Reach → List Reach
  | 0, rs => rs
  | count + 1, rs => if rs.isEmpty then [] else repeated s step count (s.distinct (rs.flatMap step))

/-- How many characters of a set stand in a row. -/
def run (s : Subject) (l : Letters) : (fuel start : Nat) → Nat
  | 0, _ => 0
  | fuel + 1, start =>
    match s.text[start]? with
    | some c => if l.has s.ignoreCase c then run s l fuel (start + 1) + 1 else 0
    | none => 0

/-- **The matches of a shape** that start where another match stops, the most wanted one first. -/
def reaches (s : Subject) : Shape → Reach → List Reach
  | .empty, r => [r]
  | .letter l, r =>
    match s.text[r.stop]? with
    | some c => if l.has s.ignoreCase c then [{ r with stop := r.stop + 1 }] else []
    | none => []
  | .place b, r => if s.holds b r.stop then [r] else []
  | .seq p q, r => s.distinct ((reaches s p r).flatMap (reaches s q))
  | .either p q, r => s.distinct (reaches s p r ++ reaches s q r)
  | .group n p, r =>
    (reaches s p r).map fun a => { a with groups := (n, r.stop, a.stop) :: a.groups }
  | .again n, r => s.repeats n r
  | .times (.letter l) least most, r =>
    let length := s.run l (most.getD s.text.size) r.stop
    let counts := (List.range (length + 1)).reverse.filter (least ≤ ·)
    counts.map fun n => { r with stop := r.stop + n }
  | .times p least most, r =>
    let rest := s.text.size - r.stop + 1
    let depth := match most with
      | some most => most - least
      | none => rest
    let starts := s.repeated (reaches s p) least [r]
    s.distinct
      (starts.foldl (fun state a => deepen s most.isSome (reaches s p) depth a state)
        ([], [])).2.reverse

/-- The longest match, the first one of its length. -/
def longest : List Reach → Option Reach
  | [] => none
  | r :: rest => some (rest.foldl (fun best a => if best.stop < a.stop then a else best) r)

/-- The first match at a place or behind it, and its start. -/
def findFrom (s : Subject) (p : Shape) : (fuel start : Nat) → Option (Nat × Reach)
  | 0, _ => none
  | fuel + 1, start =>
    match longest (s.reaches p { stop := start }) with
    | some r => some (start, r)
    | none => findFrom s p fuel (start + 1)

end Subject

/-- A match in a text. -/
structure Found where
  start : Nat
  stop : Nat
  groups : List (Nat × Nat × Nat)

/-- The start and end of a group, the whole match being group zero. -/
def Found.group? (f : Found) (n : Nat) : Option (Nat × Nat) :=
  if n = 0 then some (f.start, f.stop) else (f.groups.find? (·.1 = n)).map (·.2)

/-- **The first match of a pattern** in a text, at a place or behind it. -/
def Pattern.find? (p : Pattern) (lineEnd : Char) (text : Array Char) (start : Nat) :
    Option Found :=
  let s : Subject :=
    { text, ignoreCase := p.ignoreCase, lineEnd := if p.manyLines then some lineEnd else none,
      refersBack := p.shape.refersBack }
  (s.findFrom p.shape (text.size + 1 - start) start).map fun (start, r) =>
    { start, stop := r.stop, groups := r.groups }

end Notekeeper.StreamEdit
