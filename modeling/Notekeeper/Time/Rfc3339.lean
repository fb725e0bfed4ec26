import Notekeeper.Text.Blank
import Notekeeper.Text.Numeral
import Notekeeper.Time.Timestamp
/-!
# Timestamps as text

The RFC 3339 form.  Writing always gives UTC with `Z` and the fewest of 0, 3, 6 or 9 fraction
digits that hold the nanoseconds; a year outside four digits takes a sign.  Reading is lenient:
blanks may stand before every number and separator, numbers need not be padded, the date and the
time may be parted by a space, and any offset below a day is taken.
-/

namespace Notekeeper.Timestamp

open Text

/-! ## 1. Writing -/

/-- A year: four digits, or a sign and at least four. -/
def writeYear (year : Int) : List Char :=
  if 0 ≤ year ∧ year ≤ 9999 then padded 4 year.toNat
  else
    let digits := if year.natAbs < 10000 then padded 4 year.natAbs else decimal year.natAbs
    (if year < 0 then '-' else '+') :: digits

/-- The fraction of a second in the fewest of 0, 3, 6 or 9 digits. -/
def writeFraction (nanos : Nat) : List Char :=
  if nanos = 0 then []
  else if nanos % 1000000 = 0 then '.' :: padded 3 (nanos / 1000000)
  else if nanos % 1000 = 0 then '.' :: padded 6 (nanos / 1000)
  else '.' :: padded 9 nanos

/-- **The written form of a timestamp.** -/
def write (t : Timestamp) : List Char :=
  let (second, nanos) :=
    if t.isLeap then (t.second + 1, t.nanos - nanosPerSecond) else (t.second, t.nanos)
  writeYear t.date.year ++ '-' :: padded 2 t.date.month ++ '-' :: padded 2 t.date.day
    ++ 'T' :: padded 2 t.hour ++ ':' :: padded 2 t.minute ++ ':' :: padded 2 second
    ++ writeFraction nanos ++ ['Z']

/-! ## 2. Reading -/

/-- A number of one to `width` digits, blanks before it skipped, and the rest. -/
def readNumber (width : Nat) (cs : List Char) : Option (Nat × List Char) :=
  let (ds, rest) := takeDigits width (trimStart cs)
  (digits? 10 ds).map (·, rest)

/-- A year: up to four digits, or a sign and any number of them. -/
def readYear (cs : List Char) : Option (Int × List Char) :=
  match trimStart cs with
  | '-' :: rest =>
    let (ds, rest') := takeDigits rest.length rest
    (digits? 10 ds).map fun n => (-n, rest')
  | '+' :: rest =>
    let (ds, rest') := takeDigits rest.length rest
    (digits? 10 ds).map fun n => (n, rest')
  | rest => (readNumber 4 rest).map fun (n, rest') => (n, rest')

/-- A mark, blanks before it skipped, and the rest. -/
def readMark (mark : Char) (cs : List Char) : Option (List Char) :=
  match trimStart cs with
  | c :: rest => if c = mark then some rest else none
  | [] => none

/-- The nanoseconds that a fraction of a second stands for; digits beyond the ninth are dropped. -/
def readFraction (cs : List Char) : Option (Nat × List Char) :=
  match cs with
  | '.' :: rest =>
    let (ds, rest') := takeDigits 9 rest
    (digits? 10 ds).map fun n => (n * Nat.pow 10 (9 - ds.length), rest'.dropWhile isDecimal)
  | _ => some (0, cs)

/-- The hours or minutes of an offset: exactly two digits. -/
def readTwoDigits (cs : List Char) : Option (Nat × List Char) :=
  match cs with
  | a :: b :: rest => (digits? 10 [a, b]).map (·, rest)
  | _ => none

/-- The letters `UTC`, in either case, and the rest. -/
def readUtc (cs : List Char) : Option (List Char) :=
  match cs with
  | u :: t :: c :: rest =>
    if [u, t, c].map Char.toUpper = ['U', 'T', 'C'] then some rest else none
  | _ => none

/-- An offset from UTC in minutes: `Z`, `UTC`, or a sign, hours and minutes, with colons or blanks
allowed between the two. -/
def readOffset (cs : List Char) : Option (Int × List Char) :=
  match readUtc cs with
  | some rest => some (0, rest)
  | none =>
    match cs with
    | [] => none
    | sign :: rest =>
      if sign = 'Z' ∨ sign = 'z' then some (0, rest)
      else if sign = '+' ∨ sign = '-' ∨ sign = '\u2212' then do
        let (hours, rest) ← readTwoDigits rest
        let (minutes, rest) ← readTwoDigits (rest.dropWhile fun c => c = ':' || isBlank c)
        if minutes < 60 ∧ hours < 24 then
          let offset : Int := hours * 60 + minutes
          some (if sign = '+' then offset else -offset, rest)
        else none
      else none

/-- **The timestamp that a text stands for.** -/
def read? (cs : List Char) : Option Timestamp := do
  let (year, cs) ← readYear cs
  let cs ← readMark '-' cs
  let (month, cs) ← readNumber 2 cs
  let cs ← readMark '-' cs
  let (day, cs) ← readNumber 2 cs
  let cs ← match cs with
    | c :: rest => if c = 't' ∨ c = 'T' ∨ c = ' ' then some rest else none
    | [] => none
  let (hour, cs) ← readNumber 2 cs
  let cs ← readMark ':' cs
  let (minute, cs) ← readNumber 2 cs
  let cs ← readMark ':' cs
  let (second, cs) ← readNumber 2 cs
  let (nanos, cs) ← readFraction cs
  let (offset, cs) ← readOffset (trimStart cs)
  if (trimStart cs).isEmpty then
    let date ← Date.of? year month day
    let t ← Timestamp.of? date hour minute second nanos
    t.shiftMinutes? (-offset)
  else none

end Notekeeper.Timestamp
