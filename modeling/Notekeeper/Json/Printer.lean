import Notekeeper.Json.Basic
import Notekeeper.Text.Numeral
/-!
# Writing JSON

The compact form: no blanks, and in a text only the quote, the backslash and the characters below
the space are escaped, the common ones by a letter and the others by four hexadecimal digits.
-/

namespace Notekeeper.Json

open Text

/-- A character within a written text. -/
def writeChar (c : Char) : List Char :=
  if c = '"' then ['\\', '"']
  else if c = '\\' then ['\\', '\\']
  else if c = '\n' then ['\\', 'n']
  else if c = '\r' then ['\\', 'r']
  else if c = '\t' then ['\\', 't']
  else if c = '\x08' then ['\\', 'b']
  else if c = '\x0c' then ['\\', 'f']
  else if c.toNat < 0x20 then
    ['\\', 'u', '0', '0', hexDigit (c.toNat / 16), hexDigit c.toNat]
  else [c]

/-- A text in quotes. -/
def writeText (s : String) : List Char :=
  '"' :: s.toList.flatMap writeChar ++ ['"']

mutual

/-- **The compact form of a value.** -/
def write : Json → List Char
  | null => ['n', 'u', 'l', 'l']
  | bool true => ['t', 'r', 'u', 'e']
  | bool false => ['f', 'a', 'l', 's', 'e']
  | natural n => decimal n
  | otherNumber => ['-', '0']
  | text s => writeText s
  | brokenText => ['"', '"']
  | array items => '[' :: writeItems items ++ [']']
  | object fields => '\x7b' :: writeFields fields ++ ['\x7d']

/-- The items of an array, parted by commas. -/
def writeItems : List Json → List Char
  | [] => []
  | [item] => write item
  | item :: rest => write item ++ ',' :: writeItems rest

/-- The fields of an object, parted by commas. -/
def writeFields : List (Option String × Json) → List Char
  | [] => []
  | [(name, value)] => writeText (name.getD "") ++ ':' :: write value
  | (name, value) :: rest =>
    writeText (name.getD "") ++ ':' :: write value ++ ',' :: writeFields rest

end

end Notekeeper.Json
