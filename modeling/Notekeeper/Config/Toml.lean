import Notekeeper.Text.Numeral
import Notekeeper.Text.Search
import Notekeeper.Time.Date
/-!
# TOML values

The values of a configuration file.  A configuration has only whole numbers and texts; of all other
values it matters only that they are well formed, so they have no content here.
-/

namespace Notekeeper

/-- How a table came about, which decides how it may be added to. -/
inductive TableKind
  /-- By its own header. -/
  | defined
  /-- As a value, and complete. -/
  | inline
  /-- On the way to another table, by that table's header. -/
  | implied
  /-- On the way to a value, by a dotted key. -/
  | dotted
  deriving DecidableEq

/-- **A TOML value.** -/
inductive Toml
  | integer (n : Int)
  | text (s : String)
  /-- A truth value, a fraction or a date. -/
  | plain
  | array (items : List Toml)
  | table (kind : TableKind) (fields : List (String × Toml))
  /-- Tables under one header, the last one first. -/
  | tables (last : List (String × Toml)) (earlier : Nat)

namespace Toml

open Text

/-! ## 1. Numbers, dates and truth values -/

/-- The digits of a numeral in which single underscores may stand between two digits. -/
def joinDigits? (base : Nat) : List Char → Option (List Char)
  | [] => none
  | [c] => if (digit? base c).isSome then some [c] else none
  | c :: '_' :: d :: rest =>
    if (digit? base c).isSome then (joinDigits? base (d :: rest)).map (c :: ·) else none
  | c :: rest => if (digit? base c).isSome then (joinDigits? base rest).map (c :: ·) else none

/-- A text without a sign in front, and whether that was a minus. -/
def splitSign : List Char → Bool × List Char
  | '-' :: rest => (true, rest)
  | '+' :: rest => (false, rest)
  | rest => (false, rest)

/-- The digits of a decimal numeral without leading zeros. -/
def decimalDigits? (cs : List Char) : Option (List Char) :=
  match joinDigits? 10 cs with
  | some ('0' :: _ :: _) => none
  | ds => ds

/-- A whole number that fits into 128 bits, with a sign or without one. -/
def bounded? (n : Int) : Option Int :=
  if -Int.pow 2 127 ≤ n ∧ n < Int.pow 2 128 then some n else none

/-- A whole number, in base ten or with the mark of another base. -/
def integer? (cs : List Char) : Option Int :=
  let based (base : Nat) (ds : List Char) : Option Int :=
    ((joinDigits? base ds).bind (digits? base)).bind fun n => bounded? n
  match cs with
  | '0' :: 'x' :: ds => based 16 ds
  | '0' :: 'o' :: ds => based 8 ds
  | '0' :: 'b' :: ds => based 2 ds
  | _ =>
    let (negative, ds) := splitSign cs
    ((decimalDigits? ds).bind (digits? 10)).bind fun n => bounded? (if negative then -n else n)

/-- The least number that is rounded to infinity: half a unit above the greatest finite one. -/
def infinityBound : Nat := Nat.pow 2 1024 - Nat.pow 2 970

/-- Whether digits, the last `places` of them behind the point, times a power of ten make a number
that is rounded to infinity. -/
def isHuge (ds : List Char) (places : Nat) (exponent : Int) : Bool :=
  let solid := ds.dropWhile (· = '0')
  let n := (digits? 10 solid).getD 0
  let shift := exponent - places
  let width := solid.length + shift
  if n = 0 ∨ width < 300 then false
  else if 400 < width then true
  else infinityBound * Nat.pow 10 (-shift).toNat ≤ n * Nat.pow 10 shift.toNat

/-- Whether a text is a number with a fraction or an exponent, or one of the special numbers.  A
number must not be too great to be finite. -/
def isFraction (cs : List Char) : Bool :=
  let (_, cs) := splitSign cs
  let (number, exponent) := match splitAt 'e' (cs.map Char.toLower) with
    | some (a, b) => (a, some b)
    | none => (cs, none)
  let (whole, fraction) := match splitAt '.' number with
    | some (a, b) => (a, some b)
    | none => (number, none)
  let power (cs : List Char) : Option Int :=
    let (negative, cs) := splitSign cs
    ((joinDigits? 10 cs).bind (digits? 10)).map fun n => if negative then -n else n
  let places := match fraction with
    | some cs => joinDigits? 10 cs
    | none => some []
  let exponent? := match exponent with
    | some cs => power cs
    | none => some 0
  cs = ['i', 'n', 'f'] || cs = ['n', 'a', 'n'] ||
    match decimalDigits? whole, places, exponent? with
    | some ds, some more, some n =>
      (exponent.isSome || fraction.isSome) && !isHuge (ds ++ more) more.length n
    | _, _, _ => false

/-- A number of exactly `width` digits within bounds, and the rest. -/
def field? (width low high : Nat) (cs : List Char) : Option (Nat × List Char) :=
  let (ds, rest) := takeDigits width cs
  if ds.length = width then
    (digits? 10 ds).bind fun n => if low ≤ n ∧ n ≤ high then some (n, rest) else none
  else none

/-- What follows a date. -/
def skipDate? (cs : List Char) : Option (List Char) := do
  let (year, cs) ← field? 4 0 9999 cs
  let cs ← dropPrefix? ['-'] cs
  let (month, cs) ← field? 2 1 12 cs
  let cs ← dropPrefix? ['-'] cs
  let (_, cs) ← field? 2 1 (daysInMonth year month) cs
  some cs

/-- What follows the seconds of a time of day, after their colon. -/
def skipSeconds? (cs : List Char) : Option (List Char) := do
  let (_, cs) ← field? 2 0 60 cs
  match cs with
  | '.' :: rest =>
    let after := rest.dropWhile isDecimal
    if after.length < rest.length then some after else none
  | _ => some cs

/-- What follows a time of day.  It may lack seconds. -/
def skipTime? (cs : List Char) : Option (List Char) := do
  let (_, cs) ← field? 2 0 23 cs
  let cs ← dropPrefix? [':'] cs
  let (_, cs) ← field? 2 0 59 cs
  match cs with
  | ':' :: rest => skipSeconds? rest
  | _ => some cs

/-- Whether a text is an offset from UTC. -/
def isOffset (cs : List Char) : Bool :=
  match cs with
  | ['Z'] | ['z'] => true
  | sign :: rest =>
    (sign = '+' || sign = '-') && ((do
      let (_, cs) ← field? 2 0 23 rest
      let cs ← dropPrefix? [':'] cs
      let (_, cs) ← field? 2 0 59 cs
      some cs.isEmpty).getD false)
  | [] => false

/-- Whether a text is a date, a time of day or both. -/
def isDate (cs : List Char) : Bool :=
  match skipDate? cs with
  | none => skipTime? cs = some []
  | some [] => true
  | some (mark :: rest) =>
    (mark = 'T' || mark = 't' || mark = ' ') &&
      match skipTime? rest with
      | none => false
      | some after => after.isEmpty || isOffset after

/-- The value that a word stands for. -/
def word? (cs : List Char) : Option Toml :=
  if cs = ['t', 'r', 'u', 'e'] || cs = ['f', 'a', 'l', 's', 'e'] then some plain
  else match integer? cs with
    | some n => some (integer n)
    | none => if isFraction cs || isDate cs then some plain else none

/-! ## 2. Adding to a table -/

/-- The value of a field. -/
def lookup (name : String) : List (String × Toml) → Option Toml
  | [] => none
  | (n, v) :: rest => if n = name then some v else lookup name rest

/-- The fields with one of them replaced or added. -/
def assign (name : String) (value : Toml) : List (String × Toml) → List (String × Toml)
  | [] => [(name, value)]
  | (n, v) :: rest => if n = name then (n, value) :: rest else (n, v) :: assign name value rest

/-- Adds a value to a table that came about by a dotted key, or below it.  Only tables that came
about on the way to something are passed through, and the last of a list of tables; `dotted` tells
whether the table itself came about by a dotted key. -/
def insertBelow? (value : Toml) : (key : List String) → (dotted : Bool) →
    List (String × Toml) → Option (List (String × Toml))
  | [], _, _ => none
  | [name], dotted, fields =>
    if dotted && (lookup name fields).isNone then some (fields ++ [(name, value)]) else none
  | name :: rest, _, fields =>
    match lookup name fields with
    | none =>
      (insertBelow? value rest true []).map fun inner => fields ++ [(name, table .dotted inner)]
    | some (table kind inner) =>
      if kind = .defined ∨ kind = .inline then none
      else
        (insertBelow? value rest (kind = .dotted) inner).map fun inner =>
          assign name (table kind inner) fields
    | some (tables last earlier) =>
      (insertBelow? value rest false last).map fun last => assign name (tables last earlier) fields
    | some _ => none

/-- **Adds a value under a key** that is not there yet, which may be dotted. -/
def insert? (value : Toml) (key : List String) (fields : List (String × Toml)) :
    Option (List (String × Toml)) :=
  insertBelow? value key (key.length = 1) fields

/-- Changes the fields of the table that a header's path leads to, making tables on the way.  In a
list of tables the path leads into the last one. -/
def changeAt? (change : List (String × Toml) → Option (List (String × Toml))) :
    (path : List String) → List (String × Toml) → Option (List (String × Toml))
  | [], fields => change fields
  | name :: rest, fields =>
    match lookup name fields with
    | none => (changeAt? change rest []).map fun inner => fields ++ [(name, table .implied inner)]
    | some (table kind inner) =>
      if kind = .inline then none
      else (changeAt? change rest inner).map fun inner => assign name (table kind inner) fields
    | some (tables last earlier) =>
      (changeAt? change rest last).map fun last => assign name (tables last earlier) fields
    | some _ => none

/-- Opens the table `name` by its header: a new one, or one that another header implied. -/
def openTable? (name : String) (fields : List (String × Toml)) : Option (List (String × Toml)) :=
  match lookup name fields with
  | none => some (fields ++ [(name, table .defined [])])
  | some (table .implied inner) => some (assign name (table .defined inner) fields)
  | some _ => none

/-- Opens one more table in the list of tables `name`. -/
def openNext? (name : String) (fields : List (String × Toml)) : Option (List (String × Toml)) :=
  match lookup name fields with
  | none => some (fields ++ [(name, tables [] 0)])
  | some (tables _ earlier) => some (assign name (tables [] (earlier + 1)) fields)
  | some _ => none

end Toml
end Notekeeper
