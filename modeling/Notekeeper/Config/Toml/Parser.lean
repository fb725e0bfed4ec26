import Notekeeper.Config.Toml
/-!
# Reading TOML

A document is read line by line: blank lines, comments, headers of tables, and fields of the table
whose header stood last.  A document with a fault anywhere is refused as a whole.
-/

namespace Notekeeper.Toml

open Text

/-! ## 1. Blanks and line ends -/

/-- Whether a character may stand in a comment or a text: all but control characters. -/
def isPlain (c : Char) : Bool := c = '\t' || (0x20 ≤ c.toNat && c.toNat ≠ 0x7F)

/-- What follows the blanks of a line. -/
def skipBlanks (cs : List Char) : List Char := cs.dropWhile fun c => c = ' ' || c = '\t'

/-- What follows a newline. -/
def newline? : List Char → Option (List Char)
  | '\n' :: rest => some rest
  | '\r' :: '\n' :: rest => some rest
  | _ => none

/-- What follows a comment, if there is one. -/
def skipComment : List Char → List Char
  | '#' :: rest => rest.dropWhile isPlain
  | cs => cs

/-- What follows the end of a line: blanks, a comment, and a newline or the end of the document. -/
def endLine? (cs : List Char) : Option (List Char) :=
  match skipComment (skipBlanks cs) with
  | [] => some []
  | cs => newline? cs

/-- What follows blanks, comments and newlines.  The fuel bounds the number of lines. -/
def skipLines : (fuel : Nat) → List Char → List Char
  | 0, cs => cs
  | fuel + 1, cs =>
    let cs := skipComment (skipBlanks cs)
    match newline? cs with
    | some rest => skipLines fuel rest
    | none => cs

/-! ## 2. Texts -/

/-- The character with a number of `width` hexadecimal digits, and the rest. -/
def codePoint? (width : Nat) (cs : List Char) : Option (Char × List Char) :=
  if (cs.take width).length = width then
    (digits? 16 (cs.take width)).bind fun n =>
      if h : n.isValidChar then some (Char.ofNatAux n h, cs.drop width) else none
  else none

/-- The character that an escape stands for, given what follows the backslash. -/
def escape? : List Char → Option (Char × List Char)
  | 'b' :: rest => some ('\x08', rest)
  | 'e' :: rest => some ('\x1b', rest)
  | 't' :: rest => some ('\t', rest)
  | 'n' :: rest => some ('\n', rest)
  | 'f' :: rest => some ('\x0c', rest)
  | 'r' :: rest => some ('\r', rest)
  | '"' :: rest => some ('"', rest)
  | '\\' :: rest => some ('\\', rest)
  | 'x' :: rest => codePoint? 2 rest
  | 'u' :: rest => codePoint? 4 rest
  | 'U' :: rest => codePoint? 8 rest
  | _ => none

/-- A text on one line up to its closing quote, and the rest. -/
def line? (quote : Char) (escapes : Bool) : (fuel : Nat) → List Char →
    Option (List Char × List Char)
  | 0, _ => none
  | _ + 1, [] => none
  | fuel + 1, c :: rest =>
    if c = quote then some ([], rest)
    else if escapes && c = '\\' then do
      let (e, rest) ← escape? rest
      let (cs, rest) ← line? quote escapes fuel rest
      some (e :: cs, rest)
    else if isPlain c then
      (line? quote escapes fuel rest).map fun (cs, rest) => (c :: cs, rest)
    else none

/-- What follows blanks and newlines. -/
def skipGap : List Char → List Char
  | ' ' :: rest | '\t' :: rest | '\n' :: rest | '\r' :: '\n' :: rest => skipGap rest
  | cs => cs

/-- What follows a backslash at the end of a line: the blank lines and blanks after it. -/
def foldedLine? (cs : List Char) : Option (List Char) := (newline? (skipBlanks cs)).map skipGap

/-- A text of several lines up to its three closing quotes, and the rest.  Up to two quotes may
stand right before these. -/
def lines? (quote : Char) (escapes : Bool) : (fuel : Nat) → List Char →
    Option (List Char × List Char)
  | 0, _ => none
  | fuel + 1, cs =>
    match dropPrefix? [quote, quote, quote] cs with
    | some rest =>
      let extra := (rest.takeWhile (· = quote)).take 2
      some (extra, rest.drop extra.length)
    | none =>
      match newline? cs with
      | some rest =>
        let ended := if cs.head? = some '\r' then ['\r', '\n'] else ['\n']
        (lines? quote escapes fuel rest).map fun (cs, rest) => (ended ++ cs, rest)
      | none =>
        match cs with
        | [] => none
        | c :: rest =>
          if escapes && c = '\\' then
            match foldedLine? rest with
            | some rest => lines? quote escapes fuel rest
            | none => do
              let (e, rest) ← escape? rest
              let (cs, rest) ← lines? quote escapes fuel rest
              some (e :: cs, rest)
          else if isPlain c then
            (lines? quote escapes fuel rest).map fun (cs, rest) => (c :: cs, rest)
          else none

/-- A text, given what follows its first quote. -/
def text? (quote : Char) (cs : List Char) : Option (String × List Char) :=
  let escapes := quote = '"'
  let found := match dropPrefix? [quote, quote] cs with
    | some rest => lines? quote escapes (rest.length + 1) ((newline? rest).getD rest)
    | none => line? quote escapes (cs.length + 1) cs
  found.map fun (cs, rest) => (String.ofList cs, rest)

/-! ## 3. Keys -/

/-- Whether a character may stand in a name without quotes. -/
def isBare (c : Char) : Bool := c.isAlphanum || c = '_' || c = '-'

/-- One name of a key. -/
def name? (cs : List Char) : Option (String × List Char) :=
  match cs with
  | '"' :: rest =>
    (line? '"' true (rest.length + 1) rest).map fun (cs, rest) => (String.ofList cs, rest)
  | '\x27' :: rest =>
    (line? '\x27' false (rest.length + 1) rest).map fun (cs, rest) => (String.ofList cs, rest)
  | _ =>
    let name := cs.takeWhile isBare
    if name.isEmpty then none else some (String.ofList name, cs.dropWhile isBare)

/-- A key: names parted by points. -/
def key? : (fuel : Nat) → List Char → Option (List String × List Char)
  | 0, _ => none
  | fuel + 1, cs => do
    let (name, cs) ← name? (skipBlanks cs)
    match skipBlanks cs with
    | '.' :: rest =>
      let (names, rest) ← key? fuel rest
      some (name :: names, rest)
    | cs => some ([name], cs)

/-! ## 4. Values -/

/-- Whether a character may stand in a number, a date or a truth value. -/
def isWordChar (c : Char) : Bool :=
  c.isAlphanum || c = '_' || c = '+' || c = '-' || c = '.' || c = ':'

/-- A word, and the rest.  A date and a time of day may be parted by a blank. -/
def takeWord (cs : List Char) : List Char × List Char :=
  let word := cs.takeWhile isWordChar
  let rest := cs.dropWhile isWordChar
  match rest with
  | ' ' :: c :: more =>
    if skipDate? word = some [] && isDecimal c then
      (word ++ ' ' :: (c :: more).takeWhile isWordChar, (c :: more).dropWhile isWordChar)
    else (word, rest)
  | _ => (word, rest)

/-- The deepest that values may be nested. -/
def maxDepth : Nat := 80

mutual

/-- A value, and what follows it. -/
def value? : (fuel depth : Nat) → List Char → Option (Toml × List Char)
  | 0, _, _ => none
  | fuel + 1, depth, cs =>
    match cs with
    | '"' :: rest => (text? '"' rest).map fun (s, rest) => (text s, rest)
    | '\x27' :: rest => (text? '\x27' rest).map fun (s, rest) => (text s, rest)
    | '[' :: rest =>
      if depth < maxDepth then
        (items? fuel (depth + 1) rest).map fun (items, rest) => (array items, rest)
      else none
    | '\x7b' :: rest =>
      if depth < maxDepth then
        (fields? fuel (depth + 1) [] rest).map fun (fields, rest) => (table .inline fields, rest)
      else none
    | cs =>
      let (word, rest) := takeWord cs
      (word? word).map (·, rest)

/-- The items of an array, and what follows its closing bracket. -/
def items? : (fuel depth : Nat) → List Char → Option (List Toml × List Char)
  | 0, _, _ => none
  | fuel + 1, depth, cs =>
    match skipLines fuel cs with
    | ']' :: rest => some ([], rest)
    | cs => do
      let (item, cs) ← value? fuel depth cs
      match skipLines fuel cs with
      | ']' :: rest => some ([item], rest)
      | ',' :: rest =>
        let (items, rest) ← items? fuel depth rest
        some (item :: items, rest)
      | _ => none

/-- The fields of a table in braces, and what follows its closing brace. -/
def fields? : (fuel depth : Nat) → List (String × Toml) → List Char →
    Option (List (String × Toml) × List Char)
  | 0, _, _, _ => none
  | fuel + 1, depth, fields, cs =>
    match skipLines fuel cs with
    | '\x7d' :: rest => some (fields, rest)
    | cs => do
      let (key, cs) ← key? (cs.length + 1) cs
      let cs ← dropPrefix? ['='] cs
      let (value, cs) ← value? fuel depth (skipBlanks cs)
      let fields ← insert? value key fields
      match skipLines fuel cs with
      | '\x7d' :: rest => some (fields, rest)
      | ',' :: rest => fields? fuel depth fields rest
      | _ => none

end

/-! ## 5. Documents -/

/-- A header: whether it adds to a list of tables, its key, and what follows its brackets. -/
def header? (cs : List Char) : Option (Bool × List String × List Char) :=
  match cs with
  | '[' :: rest => do
    let (key, rest) ← key? (rest.length + 1) rest
    let rest ← dropPrefix? [']', ']'] rest
    some (true, key, rest)
  | cs => do
    let (key, rest) ← key? (cs.length + 1) cs
    let rest ← dropPrefix? [']'] rest
    some (false, key, rest)

/-- The fields of a document, given those read so far and the key of the header above.  Every round
reads at least one line. -/
def document? : (fuel : Nat) → (header : List String) → List (String × Toml) → List Char →
    Option (List (String × Toml))
  | 0, _, _, _ => none
  | fuel + 1, header, fields, cs =>
    match skipLines fuel cs with
    | [] => some fields
    | '[' :: rest => do
      let (next, key, rest) ← header? rest
      let rest ← endLine? rest
      let name ← key.getLast?
      let opened := if next then openNext? name else openTable? name
      let fields ← changeAt? opened key.dropLast fields
      document? fuel key fields rest
    | cs => do
      let (key, cs) ← key? (cs.length + 1) cs
      let cs ← dropPrefix? ['='] cs
      let (value, cs) ← value? (cs.length + 1) 0 (skipBlanks cs)
      let cs ← endLine? cs
      let fields ← changeAt? (insert? value key) header fields
      document? fuel header fields cs

/-- **The fields of a document**, a byte-order mark in front passed over. -/
def parse? (cs : List Char) : Option (List (String × Toml)) :=
  let cs := match cs with
    | '\ufeff' :: rest => rest
    | cs => cs
  document? (cs.length + 1) [] [] cs

end Notekeeper.Toml
