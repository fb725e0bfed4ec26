import Notekeeper.Json.Basic
import Notekeeper.Text.Numeral
/-!
# Reading JSON

A value is read from the symbols of a byte string: its characters, and none for each byte that
belongs to no character.  Such a byte is refused everywhere but within a text, which it breaks.
A broken text can stand only where no record looks.
-/

namespace Notekeeper.Json

open Text

/-- The characters of a byte string, none for a byte that belongs to no character. -/
abbrev Symbols := List (Option Char)

/-! ## 1. Blanks, words and numbers -/

/-- What follows the blanks. -/
def skipBlanks : Symbols → Symbols
  | some c :: rest =>
    if c = ' ' ∨ c = '\n' ∨ c = '\t' ∨ c = '\r' then skipBlanks rest else some c :: rest
  | s => s

/-- What follows a word. -/
def word? : (word : List Char) → Symbols → Option Symbols
  | [], s => some s
  | w :: ws, some c :: s => if w = c then word? ws s else none
  | _ :: _, _ => none

/-- The digits at the front, and the rest. -/
def digits : Symbols → List Char × Symbols
  | some c :: rest =>
    if isDecimal c then
      let (ds, rest') := digits rest
      (c :: ds, rest')
    else ([], some c :: rest)
  | s => ([], s)

/-- Whether there is a fraction, and what follows it; none when it has no digits. -/
def fraction? : Symbols → Option (Bool × Symbols)
  | some '.' :: rest =>
    let (ds, rest') := digits rest
    if ds.isEmpty then none else some (true, rest')
  | s => some (false, s)

/-- Whether there is an exponent, and what follows it; none when it has no digits. -/
def exponent? : Symbols → Option (Bool × Symbols)
  | some e :: rest =>
    if e = 'e' ∨ e = 'E' then
      let unsigned := match rest with
        | some c :: rest' => if c = '+' ∨ c = '-' then rest' else some c :: rest'
        | s => s
      let (ds, rest') := digits unsigned
      if ds.isEmpty then none else some (true, rest')
    else some (false, some e :: rest)
  | s => some (false, s)

/-- A number: no leading zero, and digits on both sides of the point. -/
def number? (s : Symbols) : Option (Json × Symbols) := do
  let (negative, s) := match s with
    | some '-' :: rest => (true, rest)
    | s => (false, s)
  let (ds, s) := match s with
    | some '0' :: rest => (['0'], rest)
    | s => digits s
  let n ← digits? 10 ds
  let (fraction, s) ← fraction? s
  let (exponent, s) ← exponent? s
  some (if negative || fraction || exponent then .otherNumber else .natural n, s)

/-! ## 2. Texts -/

/-- What a text is made of. -/
inductive Piece
  | char (c : Char)
  /-- An escaped half of a character pair. -/
  | half (n : Nat)
  /-- A byte that belongs to no character. -/
  | stray

/-- The character that a letter stands for after a backslash. -/
def escape? (c : Char) : Option Char :=
  if c = '"' then some '"'
  else if c = '\\' then some '\\'
  else if c = '/' then some '/'
  else if c = 'b' then some '\x08'
  else if c = 'f' then some '\x0c'
  else if c = 'n' then some '\n'
  else if c = 'r' then some '\r'
  else if c = 't' then some '\t'
  else none

/-- The piece with a number of four hexadecimal digits. -/
def unit (n : Nat) : Piece :=
  if 0xD800 ≤ n ∧ n < 0xE000 then .half n else .char (Char.ofNat n)

/-- The pieces of a text up to its closing quote, and what follows it. -/
def pieces? : Symbols → Option (List Piece × Symbols)
  | [] => none
  | none :: rest => (pieces? rest).map fun (ps, rest') => (.stray :: ps, rest')
  | some '"' :: rest => some ([], rest)
  | some '\\' :: some 'u' :: some a :: some b :: some c :: some d :: rest =>
    match digits? 16 [a, b, c, d] with
    | some n => (pieces? rest).map fun (ps, rest') => (unit n :: ps, rest')
    | none => none
  | some '\\' :: some e :: rest =>
    match escape? e with
    | some c => (pieces? rest).map fun (ps, rest') => (.char c :: ps, rest')
    | none => none
  | some c :: rest =>
    if c.toNat < 0x20 ∨ c = '\\' then none
    else (pieces? rest).map fun (ps, rest') => (.char c :: ps, rest')

/-- The characters of a text: its two kinds of halves stand in pairs. -/
def joined? : List Piece → Option (List Char)
  | [] => some []
  | .char c :: ps => (joined? ps).map (c :: ·)
  | .half h :: .half l :: ps =>
    if h < 0xDC00 ∧ 0xDC00 ≤ l then
      (joined? ps).map (Char.ofNat (0x10000 + (h - 0xD800) * 0x400 + (l - 0xDC00)) :: ·)
    else none
  | _ => none

/-- A text up to its closing quote, none inside when it is broken, and what follows it. -/
def text? (s : Symbols) : Option (Option String × Symbols) :=
  (pieces? s).map fun (ps, rest) => ((joined? ps).map String.ofList, rest)

/-! ## 3. Values -/

mutual

/-- A value, and what follows it.  The fuel bounds how far the value reaches. -/
def value? : (fuel : Nat) → Symbols → Option (Json × Symbols)
  | 0, _ => none
  | fuel + 1, s =>
    match skipBlanks s with
    | some 'n' :: rest => (word? ['u', 'l', 'l'] rest).map (.null, ·)
    | some 't' :: rest => (word? ['r', 'u', 'e'] rest).map (.bool true, ·)
    | some 'f' :: rest => (word? ['a', 'l', 's', 'e'] rest).map (.bool false, ·)
    | some '"' :: rest =>
      (text? rest).map fun (t, rest') => (t.elim .brokenText .text, rest')
    | some '[' :: rest =>
      match skipBlanks rest with
      | some ']' :: rest => some (.array [], rest)
      | rest => (items? fuel rest).map fun (items, rest') => (.array items, rest')
    | some '\x7b' :: rest =>
      match skipBlanks rest with
      | some '\x7d' :: rest => some (.object [], rest)
      | rest => (members? fuel rest).map fun (fields, rest') => (.object fields, rest')
    | s => number? s

/-- The items of an array from one of them on, and what follows the closing bracket. -/
def items? : (fuel : Nat) → Symbols → Option (List Json × Symbols)
  | 0, _ => none
  | fuel + 1, s => do
    let (item, s) ← value? fuel s
    match skipBlanks s with
    | some ']' :: rest => some ([item], rest)
    | some ',' :: rest =>
      let (items, rest') ← items? fuel rest
      some (item :: items, rest')
    | _ => none

/-- The fields of an object from one of them on, and what follows the closing brace. -/
def members? : (fuel : Nat) → Symbols → Option (List (Option String × Json) × Symbols)
  | 0, _ => none
  | fuel + 1, s => do
    let s ← match skipBlanks s with
      | some '"' :: rest => some rest
      | _ => none
    let (name, s) ← text? s
    let s ← match skipBlanks s with
      | some ':' :: rest => some rest
      | _ => none
    let (value, s) ← value? fuel s
    match skipBlanks s with
    | some '\x7d' :: rest => some ([(name, value)], rest)
    | some ',' :: rest =>
      let (fields, rest') ← members? fuel rest
      some ((name, value) :: fields, rest')
    | _ => none

end

/-- **The value that a byte string's symbols write**, blanks around it allowed. -/
def parse? (s : Symbols) : Option Json :=
  match value? (s.length + 1) s with
  | some (j, rest) => if (skipBlanks rest).isEmpty then some j else none
  | none => none

end Notekeeper.Json
