import Notekeeper.Text.Numeral
/-!
# Marks and escapes in scripts

Texts in a script end at a mark that the script chooses, unless a backslash stands before it.
Other characters behind a backslash stand for characters that are hard to write.
-/

namespace Notekeeper.StreamEdit

open Text

/-- The exit code for a script that is wrong. -/
def wrongScript : Nat := 1

/-- The exit code when something else makes it impossible to go on. -/
def noWayOn : Nat := 4

/-! ## 1. Sets in brackets -/

/-- A text from a mark in brackets, such as a colon, up to this mark and a bracket, and what
follows. -/
def upToInner (mark : Char) : List Char → Option (List Char × List Char)
  | [] => none
  | [_] => none
  | c :: d :: rest =>
    if c = mark ∧ d = ']' then some ([], rest)
    else (upToInner mark (d :: rest)).map fun (a, b) => (c :: a, b)

/-- Whether a character opens a named set in brackets. -/
def opensInner (c : Char) : Bool := c = ':' || c = '.' || c = '='

/-- The rest of a set in brackets with its closing bracket, and what follows.  The fuel bounds the
length. -/
def upToBracket : (fuel : Nat) → List Char → Option (List Char × List Char)
  | 0, _ | _ + 1, [] => none
  | fuel + 1, c :: rest =>
    let plain : Option (List Char × List Char) :=
      (upToBracket fuel rest).map fun (a, b) => (c :: a, b)
    if c = ']' then some ([c], rest)
    else if c = '\n' then none
    else match c, rest with
      | '[', d :: more =>
        if opensInner d then
          match upToInner d more with
          | some (name, rest) =>
            (upToBracket fuel rest).map fun (a, b) => (['[', d] ++ name ++ [d, ']'] ++ a, b)
          | none => none
        else plain
      | _, _ => plain

/-- A set in brackets from behind its opening bracket, and what follows.  A closing bracket that
comes first is part of the set. -/
def bracketed (cs : List Char) : Option (List Char × List Char) :=
  let (front, cs) := match cs with
    | '^' :: rest => (['^'], rest)
    | cs => ([], cs)
  let (front, cs) := match cs with
    | ']' :: rest => (front ++ [']'], rest)
    | cs => (front, cs)
  (upToBracket (cs.length + 1) cs).map fun (a, b) => (front ++ a, b)

/-! ## 2. Texts up to a mark -/

/-- **A text up to a mark**, and what follows the mark.  A mark that is escaped loses its backslash,
but one that would mean something else then keeps it; in a pattern a mark may stand in brackets.
The fuel bounds the length. -/
def upToMark (mark : Char) (inPattern : Bool) :
    (fuel : Nat) → List Char → Option (List Char × List Char)
  | 0, _ | _ + 1, [] => none
  | fuel + 1, c :: rest =>
    let more (front : List Char) (rest : List Char) : Option (List Char × List Char) :=
      (upToMark mark inPattern fuel rest).map fun (a, b) => (front ++ a, b)
    if c = mark then some ([], rest)
    else if c = '\n' then none
    else match c, rest with
      | '\\', d :: rest =>
        if d = 'n' ∧ inPattern then more ['\n'] rest
        else if d = '\n' then more ['\n'] rest
        else if d = mark ∧ (inPattern ∨ d ≠ '&') then more [d] rest
        else more ['\\', d] rest
      | '[', rest =>
        if inPattern then
          match bracketed rest with
          | some (inner, rest) => more ('[' :: inner) rest
          | none => none
        else more ['['] rest
      | c, rest => more [c] rest

/-! ## 3. Escapes -/

/-- The character of a byte. -/
def byteChar (n : Nat) : Char := Char.ofNat (n % 256)

/-- The digits of a base in front of a text, `limit` of them at most, and what follows. -/
def takeDigitsIn (base : Nat) : (limit : Nat) → List Char → List Char × List Char
  | 0, cs => ([], cs)
  | _ + 1, [] => ([], [])
  | limit + 1, c :: cs =>
    if (digits? base [c]).isSome then
      let (ds, rest) := takeDigitsIn base limit cs
      (c :: ds, rest)
    else ([], c :: cs)

/-- The base of a character that is given by its number, and the most digits of one. -/
def numberBase? : Char → Option (Nat × Nat)
  | 'd' => some (10, 3)
  | 'o' => some (8, 3)
  | 'x' => some (16, 2)
  | _ => none

/-- The character that a letter behind a backslash stands for. -/
def escapedLetter? : Char → Option Char
  | 'a' => some '\x07'
  | 'f' => some '\x0c'
  | 'n' => some '\n'
  | 'r' => some '\r'
  | 't' => some '\t'
  | 'v' => some '\x0b'
  | _ => none

/-- The control character on a key. -/
def control (c : Char) : Char := Char.ofNat (c.toUpper.toNat ^^^ 64)

/-- **A text without the escapes for characters.**  Other backslashes stay.  In a pattern a
character given by its number means all that it would mean in writing, and elsewhere only itself.
The fuel bounds the length. -/
def unescape (inPattern : Bool) : (fuel : Nat) → List Char → Except Nat (List Char)
  | 0, _ => .error wrongScript
  | _ + 1, [] => .ok []
  | fuel + 1, '\\' :: c :: rest =>
    match escapedLetter? c, numberBase? c, c, rest with
    | some d, _, _, rest => (unescape inPattern fuel rest).map (d :: ·)
    | none, some (base, limit), c, rest =>
      let (ds, rest) := takeDigitsIn base limit rest
      let d := match digits? base ds with
        | some n => byteChar n
        | none => c
      let shown := if !inPattern ∧ (d = '&' ∨ d = '\\') then ['\\', d] else [d]
      (unescape inPattern fuel rest).map (shown ++ ·)
    | none, none, 'c', '\\' :: '\\' :: rest =>
      (unescape inPattern fuel rest).map (control '\\' :: ·)
    | none, none, 'c', '\\' :: _ => .error wrongScript
    | none, none, 'c', d :: rest => (unescape inPattern fuel rest).map (control d :: ·)
    | none, none, c, rest => (unescape inPattern fuel rest).map (['\\', c] ++ ·)
  | fuel + 1, c :: rest => (unescape inPattern fuel rest).map (c :: ·)

/-- A text without the escapes for characters. -/
def unescaped (inPattern : Bool) (cs : List Char) : Except Nat (List Char) :=
  unescape inPattern (cs.length + 1) cs

/-- A text in which a backslash only makes the character behind it mean itself. -/
def withoutBackslashes : List Char → List Char
  | '\\' :: c :: rest => c :: withoutBackslashes rest
  | ['\\'] => []
  | c :: rest => c :: withoutBackslashes rest
  | [] => []

end Notekeeper.StreamEdit
