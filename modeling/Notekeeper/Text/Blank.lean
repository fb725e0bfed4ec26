/-!
# Blanks

The characters that separate words and that are trimmed off the ends of a text: those of the
Unicode property `White_Space`.
-/

namespace Notekeeper.Text

/-- The Unicode property `White_Space`. -/
def isBlank (c : Char) : Bool :=
  let n := c.toNat
  (9 ≤ n && n ≤ 13) || n == 0x20 || n == 0x85 || n == 0xA0 || n == 0x1680
    || (0x2000 ≤ n && n ≤ 0x200A) || n == 0x2028 || n == 0x2029 || n == 0x202F || n == 0x205F
    || n == 0x3000

/-- Everything from the first character on that is no blank. -/
def trimStart (cs : List Char) : List Char := cs.dropWhile isBlank

/-- Everything up to the last character for which `p` fails. -/
def trimEndWhile (p : Char → Bool) (cs : List Char) : List Char :=
  (cs.reverse.dropWhile p).reverse

/-- A text without the characters at both ends for which `p` holds. -/
def trimWhile (p : Char → Bool) (cs : List Char) : List Char :=
  trimEndWhile p (cs.dropWhile p)

/-- Whether a text holds nothing but blanks. -/
def isAllBlank (s : String) : Bool := s.toList.all isBlank

/-- The words of a text: its longest pieces without a blank.  `word` holds the letters read so
far of the word at the front, last letter first. -/
def wordsFrom (word : List Char) : List Char → List (List Char)
  | [] => if word.isEmpty then [] else [word.reverse]
  | c :: rest =>
    if isBlank c then
      if word.isEmpty then wordsFrom [] rest else word.reverse :: wordsFrom [] rest
    else wordsFrom (c :: word) rest

/-- **The words of a text**, in order. -/
def words (s : String) : List String := (wordsFrom [] s.toList).map String.ofList

end Notekeeper.Text
