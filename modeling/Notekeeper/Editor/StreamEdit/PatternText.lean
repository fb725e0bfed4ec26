import Notekeeper.Editor.StreamEdit.Escape
import Notekeeper.Editor.StreamEdit.Pattern
/-!
# Patterns in writing

Patterns are written in one of two dialects, which differ in the signs that need a backslash.
Reading gives a pattern or the exit code for a wrong one.
-/

namespace Notekeeper.StreamEdit

open Text

/-! ## 1. Signs -/

/-- A way of writing patterns. -/
inductive Dialect
  | basic
  | extended
  deriving DecidableEq

/-- A sign that puts shapes together. -/
inductive Sign
  | opening
  | closing
  | bar
  | star
  | plus
  | question
  | brace
  deriving DecidableEq

/-- The signs that need a backslash in one of the dialects. -/
def sign? : Char → Option Sign
  | '(' => some .opening
  | ')' => some .closing
  | '|' => some .bar
  | '+' => some .plus
  | '?' => some .question
  | '{' => some .brace
  | _ => none

/-- The sign in front of a text, and what follows. -/
def nextSign? (d : Dialect) : List Char → Option (Sign × List Char)
  | '*' :: rest => some (.star, rest)
  | '\\' :: c :: rest => if d = .basic then (sign? c).map (·, rest) else none
  | c :: rest => if d = .extended then (sign? c).map (·, rest) else none
  | [] => none

/-- A place that is written with a backslash. -/
def place? : Char → Option Boundary
  | '<' => some .wordStart
  | '>' => some .wordEnd
  | 'b' => some .wordEdge
  | 'B' => some .noWordEdge
  | '\x60' => some .textStart
  | '\x27' => some .textEnd
  | _ => none

/-- The parts of words. -/
def wordRanges : List (Char × Char) := [('a', 'z'), ('A', 'Z'), ('0', '9'), ('_', '_')]

/-- The blanks. -/
def spaceRanges : List (Char × Char) := [('\t', '\r'), (' ', ' ')]

/-- A set that is written with a backslash. -/
def set? : Char → Option Letters
  | 'w' => some { ranges := wordRanges }
  | 'W' => some { negated := true, ranges := wordRanges }
  | 's' => some { ranges := spaceRanges }
  | 'S' => some { negated := true, ranges := spaceRanges }
  | _ => none

/-! ## 2. Sets in brackets -/

/-- The characters of a named class. -/
def class? (name : List Char) (ignoreCase : Bool) : Option (List (Char × Char)) :=
  match String.ofList name with
  | "alpha" => some [('a', 'z'), ('A', 'Z')]
  | "digit" => some [('0', '9')]
  | "alnum" => some [('a', 'z'), ('A', 'Z'), ('0', '9')]
  | "upper" => some (if ignoreCase then [('a', 'z'), ('A', 'Z')] else [('A', 'Z')])
  | "lower" => some (if ignoreCase then [('a', 'z'), ('A', 'Z')] else [('a', 'z')])
  | "space" => some spaceRanges
  | "blank" => some [(' ', ' '), ('\t', '\t')]
  | "punct" => some [('!', '/'), (':', '@'), ('[', '\x60'), ('\x7b', '~')]
  | "print" => some [(' ', '~')]
  | "graph" => some [('!', '~')]
  | "cntrl" => some [('\x00', '\x1f'), ('\x7f', '\x7f')]
  | "xdigit" => some [('0', '9'), ('a', 'f'), ('A', 'F')]
  | _ => none

/-- A part of a set in brackets: a character, which may begin a range, or some ranges. -/
inductive SetPart
  | char (c : Char)
  | ranges (rs : List (Char × Char))

/-- The part in front of a text, and what follows. -/
def setPart? (ignoreCase : Bool) : List Char → Option (SetPart × List Char)
  | [] => none
  | '[' :: ':' :: rest => do
    let (name, rest) ← upToInner ':' rest
    some (.ranges (← class? name ignoreCase), rest)
  | '[' :: '.' :: rest => do
    match ← upToInner '.' rest with
    | ([c], rest) => some (.char c, rest)
    | _ => none
  | '[' :: '=' :: rest => do
    match ← upToInner '=' rest with
    | ([c], rest) => some (.ranges [(c, c)], rest)
    | _ => none
  | c :: rest => some (.char c, rest)

/-- The ranges of a set up to its closing bracket, and what follows; none if it is wrong.  A hyphen
that is no range stands first or last.  The fuel bounds the length. -/
def ranges? (ignoreCase : Bool) :
    (fuel : Nat) → (first : Bool) → List Char → Option (List (Char × Char) × List Char)
  | 0, _, _ => none
  | fuel + 1, first, cs =>
    match first, cs with
    | false, ']' :: rest => some ([], rest)
    | false, '-' :: d :: _ => if d = ']' then some ([('-', '-')], cs.drop 2) else none
    | _, cs => do
      let (part, rest) ← setPart? ignoreCase cs
      match part, rest with
      | .ranges rs, rest =>
        if rest.head? = some '-' ∧ (rest.drop 1).head? ≠ some ']' then none
        else
          let (more, rest) ← ranges? ignoreCase fuel false rest
          some (rs ++ more, rest)
      | .char lo, '-' :: d :: after =>
        if d = ']' then some ([(lo, lo), ('-', '-')], after)
        else
          match ← setPart? ignoreCase (d :: after) with
          | (.char hi, rest) =>
            if lo ≤ hi then
              let (more, rest) ← ranges? ignoreCase fuel false rest
              some ((lo, hi) :: more, rest)
            else none
          | (.ranges _, _) => none
      | .char c, rest =>
        let (more, rest) ← ranges? ignoreCase fuel false rest
        some ((c, c) :: more, rest)

/-- Whether a set looks like a named class without the outer brackets. -/
def looksNamed (inner : List Char) : Bool :=
  let inner := if inner.head? = some '^' then inner.drop 1 else inner
  let inner := inner.dropLast
  2 < inner.length && inner.head? = some ':' && inner.getLast? = some ':'
    && inner.any (· ≠ ':') && !(inner.drop 1).contains '-' && !inner.contains '['

/-! ## 3. Shapes -/

/-- What a reader of patterns keeps to. -/
structure Manner where
  dialect : Dialect
  ignoreCase : Bool
  manyLines : Bool

/-- A place in a pattern that is being read. -/
structure Point where
  rest : List Char
  /-- The number of groups that are opened. -/
  groups : Nat
  /-- The groups that are closed. -/
  closed : List Nat
  /-- Whether some set looks like a named class without the outer brackets. -/
  confusing : Bool := false

/-- A set in brackets from behind its opening bracket. -/
def readSet (m : Manner) (p : Point) : Except Nat (Shape × Point) :=
  let (negated, cs) := match p.rest with
    | '^' :: rest => (true, rest)
    | cs => (false, cs)
  match ranges? m.ignoreCase (cs.length + 1) true cs with
  | none => .error wrongScript
  | some (rs, rest) =>
    let rs := if negated ∧ m.manyLines then ('\n', '\n') :: rs else rs
    let confusing := p.confusing || looksNamed (p.rest.take (p.rest.length - rest.length))
    .ok (.letter { negated, ranges := rs }, { p with rest, confusing })

/-- The most repetitions that can be asked for. -/
def mostRepetitions : Nat := 32767

/-- The numbers of a repetition, and what follows its closing brace. -/
def readCounts (d : Dialect) (cs : List Char) : Except Nat (Nat × Option Nat × List Char) :=
  let (least, cs) := takeDigits cs.length cs
  let least? := digits? 10 least
  let (most, cs) : Option (Option Nat) × List Char := match cs with
    | ',' :: rest =>
      let (most, rest) := takeDigits rest.length rest
      (some (digits? 10 most), rest)
    | cs => (none, cs)
  let closing := if d = .basic then ['\\', '}'] else ['}']
  match least?, most with
  | none, none => .error wrongScript
  | least?, most =>
    let least := least?.getD 0
    let most := most.getD (some least)
    if cs.take closing.length = closing ∧ most.all (least ≤ ·)
        ∧ most.getD least ≤ mostRepetitions then
      .ok (least, most, cs.drop closing.length)
    else .error wrongScript

/-- A shape with the repetitions that follow it.  The basic dialect allows only some signs behind
another one.  The fuel bounds the length. -/
def readRepetitions (d : Dialect) : (fuel : Nat) → Shape → Point → Except Nat (Shape × Point)
  | 0, _, _ => .error wrongScript
  | fuel + 1, shape, p => do
    let next? : Option (Shape × Point) ← match nextSign? d p.rest with
      | some (.star, rest) => pure (some (.times shape 0 none, { p with rest }))
      | some (.plus, rest) => pure (some (.times shape 1 none, { p with rest }))
      | some (.question, rest) => pure (some (.times shape 0 (some 1), { p with rest }))
      | some (.brace, rest) =>
        let (least, most, rest) ← readCounts d rest
        pure (some (.times shape least most, { p with rest }))
      | _ => pure none
    match next? with
    | none => pure (shape, p)
    | some (shape, p) =>
      match d, nextSign? d p.rest with
      | .basic, some (.star, _) | .basic, some (.brace, _) => throw wrongScript
      | _, _ => readRepetitions d fuel shape p

/-- The set of one character. -/
def literal (c : Char) : Shape := .letter { ranges := [(c, c)] }

/-- The set of one escaped character.  It is compared as a capital where case does not count, so that
a small letter is in no text. -/
def escapedLiteral (m : Manner) (c : Char) : Shape :=
  if m.ignoreCase && c.isLower then .letter { ranges := [] } else literal c

/-- The set of all characters. -/
def anyLetter (m : Manner) : Shape :=
  .letter { negated := true, ranges := if m.manyLines then [('\n', '\n')] else [] }

/-- One of two shapes, the first one if both match, unless it is empty. -/
def Shape.orElse : Shape → Shape → Shape
  | .empty, q => .either q .empty
  | p, q => .either p q

/-- Two shapes in a row. -/
def Shape.followedBy : Shape → Shape → Shape
  | .empty, q => q
  | p, .empty => p
  | p, q => .seq p q

mutual

/-- Shapes with bars between them.  An empty one is wanted least, and none can refer to the groups
of another one. -/
def readChoices (m : Manner) :
    (fuel : Nat) → (depth : Nat) → Point → Except Nat (Shape × Point)
  | 0, _, _ => .error wrongScript
  | fuel + 1, depth, p => do
    let (shape, q) ← readRow m fuel depth true p
    match nextSign? m.dialect q.rest with
    | some (.bar, rest) =>
      let (other, r) ← readChoices m fuel depth { q with rest, closed := p.closed }
      pure (shape.orElse other, { r with closed := r.closed ++ q.closed })
    | _ => pure (shape, q)

/-- Shapes in a row. -/
def readRow (m : Manner) :
    (fuel : Nat) → (depth : Nat) → (first : Bool) → Point → Except Nat (Shape × Point)
  | 0, _, _, _ => .error wrongScript
  | fuel + 1, depth, first, p =>
    match p.rest, nextSign? m.dialect p.rest with
    | [], _ | _, some (.bar, _) => .ok (.empty, p)
    | _, some (.closing, _) => if depth = 0 then .error wrongScript else .ok (.empty, p)
    | _, _ => do
      let (shape, p) ← readShape m fuel depth first p
      let (others, p) ← readRow m fuel depth false p
      pure (shape.followedBy others, p)

/-- One shape with its repetitions.  `first` says whether it is the first one in its row. -/
def readShape (m : Manner) :
    (fuel : Nat) → (depth : Nat) → (first : Bool) → Point → Except Nat (Shape × Point)
  | 0, _, _, _ => .error wrongScript
  | fuel + 1, depth, first, p => do
    let repeated (shape : Shape) (p : Point) : Except Nat (Shape × Point) :=
      readRepetitions m.dialect (p.rest.length + 1) shape p
    match nextSign? m.dialect p.rest with
    | some (.opening, rest) =>
      let n := p.groups + 1
      let (shape, p) ← readChoices m fuel (depth + 1) { p with rest, groups := n }
      match nextSign? m.dialect p.rest with
      | some (.closing, rest) => repeated (.group n shape) { p with rest, closed := n :: p.closed }
      | _ => throw wrongScript
    | some (.brace, _) => throw wrongScript
    | some (_, rest) =>
      if m.dialect = .extended then throw wrongScript
      else
        let sign := p.rest.take (p.rest.length - rest.length)
        repeated (literal (sign.getLast?.getD '*')) { p with rest }
    | none =>
      match p.rest with
      | [] => throw wrongScript
      | '.' :: rest => repeated (anyLetter m) { p with rest }
      | '[' :: rest =>
        let (shape, p) ← readSet m { p with rest }
        repeated shape p
      | '^' :: rest =>
        if first ∨ m.dialect = .extended then pure (.place .lineStart, { p with rest })
        else repeated (literal '^') { p with rest }
      | '$' :: rest =>
        let atEnd := rest.isEmpty || match nextSign? m.dialect rest with
          | some (.bar, _) | some (.closing, _) => true
          | _ => false
        if atEnd ∨ m.dialect = .extended then pure (.place .lineEnd, { p with rest })
        else repeated (literal '$') { p with rest }
      | '\\' :: c :: rest =>
        match place? c, set? c with
        | some b, _ => pure (.place b, { p with rest })
        | none, some l => repeated (.letter l) { p with rest }
        | none, none =>
          if '1' ≤ c ∧ c ≤ '9' then
            let n := c.toNat - 48
            if p.closed.contains n then repeated (.again n) { p with rest } else throw wrongScript
          else repeated (escapedLiteral m c) { p with rest }
      | ['\\'] => throw wrongScript
      | c :: rest => repeated (literal c) { p with rest }

end

/-- **The pattern that a text writes**, which has to have some groups at least. -/
def readPattern (m : Manner) (groups : Nat) (text : List Char) : Except Nat Pattern := do
  let cs ← unescaped true text
  let (shape, p) ← readChoices m (3 * cs.length + 3) 0 { rest := cs, groups := 0, closed := [] }
  if p.rest.isEmpty ∧ groups ≤ p.groups then
    if p.confusing then throw noWayOn
    pure { shape, groups := p.groups, ignoreCase := m.ignoreCase, manyLines := m.manyLines }
  else throw wrongScript

end Notekeeper.StreamEdit
