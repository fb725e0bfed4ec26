/-!
# Numerals

Digits in bases up to sixteen, whole numbers written in them, and the zero-padded numerals of
fixed-width fields.

* `unsigned?` reads what a field for an unsigned number takes: one optional `+`, then digits and
  nothing else, and a value below a bound.
-/

namespace Notekeeper.Text

/-- The value of a digit in base sixteen, both cases of the letters. -/
def digitValue? (c : Char) : Option Nat :=
  let n := c.toNat
  if 48 ≤ n ∧ n ≤ 57 then some (n - 48)
  else if 97 ≤ n ∧ n ≤ 102 then some (n - 87)
  else if 65 ≤ n ∧ n ≤ 70 then some (n - 55)
  else none

/-- The value of a digit of the given base. -/
def digit? (base : Nat) (c : Char) : Option Nat :=
  (digitValue? c).filter (· < base)

/-- Whether a character is one of the digits `0` to `9`. -/
def isDecimal (c : Char) : Bool := (digit? 10 c).isSome

/-- The number that a sequence of digits continues from `acc`; none when a character is no digit
of the base. -/
def digitsFrom (base : Nat) (acc : Nat) : List Char → Option Nat
  | [] => some acc
  | c :: cs =>
    match digit? base c with
    | some d => digitsFrom base (acc * base + d) cs
    | none => none

/-- The number written by a nonempty sequence of digits. -/
def digits? (base : Nat) : List Char → Option Nat
  | [] => none
  | c :: cs => digitsFrom base 0 (c :: cs)

/-- **An unsigned number**: one optional `+`, then digits of the base, with a value below
`bound`. -/
def unsigned? (base bound : Nat) (cs : List Char) : Option Nat :=
  (match cs with
    | '+' :: ds => digits? base ds
    | ds => digits? base ds).filter (· < bound)

/-- The bound of numbers that fit into 64 bits. -/
def wordBound : Nat := Nat.pow 2 64

/-- The leading digits of a text, at most `limit` of them, and the rest. -/
def takeDigits : (limit : Nat) → List Char → List Char × List Char
  | 0, cs => ([], cs)
  | _ + 1, [] => ([], [])
  | limit + 1, c :: cs =>
    if isDecimal c then
      let (ds, rest) := takeDigits limit cs
      (c :: ds, rest)
    else ([], c :: cs)

/-- The digit `0` to `9` of a number below ten. -/
def decimalDigit (n : Nat) : Char := Char.ofNat (48 + n % 10)

/-- The `width` last decimal digits of a number. -/
def padded : (width : Nat) → Nat → List Char
  | 0, _ => []
  | width + 1, n => padded width (n / 10) ++ [decimalDigit n]

/-- The decimal numeral of a number, without leading zeros. -/
def decimal (n : Nat) : List Char :=
  if n < 10 then [decimalDigit n] else decimal (n / 10) ++ [decimalDigit n]
termination_by n

/-- The hexadecimal digit of a number below sixteen, in lower case. -/
def hexDigit (n : Nat) : Char :=
  let d := n % 16
  Char.ofNat (if d < 10 then 48 + d else 87 + d)

/-- The two hexadecimal digits of a byte. -/
def hexByte (b : UInt8) : List Char := [hexDigit (b.toNat / 16), hexDigit b.toNat]

/-- A byte string in hexadecimal, in lower case. -/
def hex (bs : List UInt8) : String := String.ofList (bs.flatMap hexByte)

/-- The byte string that an even number of hexadecimal digits stands for. -/
def unhex? : List Char → Option (List UInt8)
  | [] => some []
  | [_] => none
  | a :: b :: rest =>
    match digit? 16 a, digit? 16 b, unhex? rest with
    | some x, some y, some bs => some (UInt8.ofNat (16 * x + y) :: bs)
    | _, _, _ => none

end Notekeeper.Text
