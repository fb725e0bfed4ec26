import Notekeeper.Editor.StreamEdit.Escape
import Notekeeper.Editor.StreamEdit.Pattern
/-!
# Replacements

What is put in the place of a match: texts and groups of the match, in the case that is asked for.
-/

namespace Notekeeper.StreamEdit

/-! ## 1. Pieces -/

/-- The case of letters. -/
inductive LetterCase
  | lower
  | upper
  deriving DecidableEq

/-- A character in a case.  A byte that is no character by itself has no case, and turns into the
highest byte. -/
def LetterCase.apply (k : LetterCase) (c : Char) : Char :=
  if '\x7f' < c then '\xff'
  else match k with
    | lower => c.toLower
    | upper => c.toUpper

/-- A piece of a replacement. -/
inductive Piece
  | char (c : Char)
  /-- What a group has matched, the whole match being group zero. -/
  | group (n : Nat)
  /-- From here on letters are in a case, or stay as they are. -/
  | turn (c : Option LetterCase)
  /-- The next letter is in a case. -/
  | turnNext (c : LetterCase)

/-- The piece that a character behind a backslash stands for. -/
def escapedPiece (c : Char) : Piece :=
  match c with
  | 'L' => .turn (some .lower)
  | 'U' => .turn (some .upper)
  | 'E' => .turn none
  | 'l' => .turnNext .lower
  | 'u' => .turnNext .upper
  | c => if '0' ≤ c ∧ c ≤ '9' then .group (c.toNat - 48) else .char c

/-- The pieces of a replacement without escapes for characters. -/
def pieces : List Char → List Piece
  | '\\' :: c :: rest => escapedPiece c :: pieces rest
  | ['\\'] => [.char '\\']
  | '&' :: rest => .group 0 :: pieces rest
  | c :: rest => .char c :: pieces rest
  | [] => []

/-- **The replacement that a text writes.** -/
def readReplacement (text : List Char) : Except Nat (List Piece) :=
  (unescaped false text).map pieces

/-- The highest group that a replacement asks for. -/
def highestGroup (ps : List Piece) : Nat :=
  ps.foldl (fun n p => match p with
    | .group m => max n m
    | _ => n) 0

/-! ## 2. Filling in -/

/-- A text in a case, its first letter in another one. -/
def inCase (next all : Option LetterCase) : List Char → List Char
  | [] => []
  | c :: rest =>
    let turned (k : Option LetterCase) (c : Char) : Char := match k with
      | some k => k.apply c
      | none => c
    turned (next.or all) c :: rest.map (turned all)

/-- **The text of a replacement** for a match in a text. -/
def fill (text : Array Char) (f : Found) (next all : Option LetterCase) : List Piece → List Char
  | [] => []
  | .turn k :: rest => fill text f none k rest
  | .turnNext k :: rest => fill text f (some k) all rest
  | .char c :: rest => inCase next all [c] ++ fill text f none all rest
  | .group n :: rest =>
    match f.group? n with
    | none => fill text f next all rest
    | some (start, stop) =>
      let piece := (text.extract start stop).toList
      inCase next all piece ++ fill text f (if piece.isEmpty then next else none) all rest

/-- A text with matches replaced, from a place on: how many matches are still to be passed over,
whether all later ones are replaced, and where the last match ended.  An empty match right behind
another one does not count.  The text so far stands in reverse.  Gives none if nothing was
replaced. -/
def replaceFrom (p : Pattern) (lineEnd : Char) (ps : List Piece) (text : Array Char)
    (all : Bool) :
    (fuel : Nat) → (skip start : Nat) → (lastStop : Option Nat) → (done : Bool) →
      (before : List Char) → Option (List Char)
  | 0, _, _, _, _, _ => none
  | fuel + 1, skip, start, lastStop, done, before =>
    let rest (place : Nat) : List Char := (text.extract place text.size).toList
    let finish (done : Bool) (before : List Char) (place : Nat) : Option (List Char) :=
      if done then some (before.reverse ++ rest place) else none
    match if start ≤ text.size then p.find? lineEnd text start else none with
    | none => finish done before start
    | some f =>
      let before := (text.extract start f.start).toList.reverse ++ before
      let isEmpty := f.start = f.stop
      let found := (text.extract f.start f.stop).toList.reverse
      if isEmpty ∧ lastStop = some f.start then
        match text[f.start]? with
        | some c =>
          replaceFrom p lineEnd ps text all fuel skip (f.start + 1) none done (c :: before)
        | none => finish done before text.size
      else
        let (skip, done, before, ends) : Nat × Bool × List Char × Bool := match skip with
          | skip + 1 => (skip, done, found ++ before, false)
          | 0 => (0, true, (fill text f none none ps).reverse ++ before, !all)
        if ends then finish done before f.stop
        else if isEmpty then
          match text[f.stop]? with
          | some c =>
            replaceFrom p lineEnd ps text all fuel skip (f.stop + 1) none done (c :: before)
          | none => finish done before text.size
        else replaceFrom p lineEnd ps text all fuel skip f.stop (some f.stop) done before

/-- **A text with matches of a pattern replaced**: the one with a number, counted from one, and all
later ones if asked for.  Gives none if there is nothing to replace. -/
def replace (p : Pattern) (lineEnd : Char) (ps : List Piece) (number : Nat) (all : Bool)
    (text : List Char) : Option (List Char) :=
  let text := text.toArray
  replaceFrom p lineEnd ps text all (text.size + 2) (number - 1) 0 none false []

end Notekeeper.StreamEdit
