import Notekeeper.Editor.Program.Arguments
import Notekeeper.Editor.Program.Place
import Notekeeper.Editor.Program.Result
import Notekeeper.Text.Numeral
/-!
# Cutting a file

A program that gives files a size: a number of bytes, or one that depends on the size they have.
-/

namespace Notekeeper.Program.Truncate

open Text

/-! ## 1. Sizes -/

/-- How the new size depends on the old one and a number. -/
inductive Relation
  | exactly
  /-- More or less by the number. -/
  | changed
  | atMost
  | atLeast
  | roundedDown
  | roundedUp
  deriving DecidableEq

/-- No size and no number can be as big. -/
def sizeBound : Int := Int.pow 2 63

/-- No file can be bigger. -/
def biggestFile : Int := Int.pow 2 44 - 4096

/-- The size of the blocks of a file. -/
def blockSize : Int := 4096

/-- Which power of the base a unit stands for. -/
def unitPower? (c : Char) : Option Nat :=
  [(['k', 'K'], 1), (['m', 'M'], 2), (['g', 'G'], 3), (['t', 'T'], 4), (['P'], 5), (['E'], 6),
    (['Z'], 7), (['Y'], 8), (['R'], 9), (['Q'], 10)].findSome?
      fun (letters, power) => if letters.contains c then some power else none

/-- The number that a unit stands for: a power of 1024, or of 1000 with a `B` behind it. -/
def unit? : List Char → Option Int
  | [] => some 1
  | [c] | [c, 'i', 'B'] => (unitPower? c).map (Int.pow 1024)
  | [c, 'B'] | [c, 'D'] => (unitPower? c).map (Int.pow 1000)
  | _ => none

/-- A number without a sign: digits and a unit. -/
def natural? (cs : List Char) : Option Int := do
  let (ds, rest) := takeDigits cs.length cs
  some ((← digits? 10 ds) * (← unit? rest))

/-- A number: one with or without a sign, or only a unit. -/
def number? (cs : List Char) : Option Int :=
  let n? := match cs with
    | '+' :: cs => natural? cs
    | '-' :: cs => (natural? cs).map (- ·)
    | [] => none
    | c :: rest => if isDecimal c then natural? (c :: rest) else unit? (c :: rest)
  n?.filter fun n => -sizeBound ≤ n && n < sizeBound

/-! ## 2. Options -/

/-- What can be asked for. -/
inductive Choice
  | keepMissing
  | inBlocks
  | sizeOf
  | size
  | help
  deriving DecidableEq

/-- The options. -/
def forms : List (Form Choice) :=
  [⟨.keepMissing, ['c'], ["no-create"], .nothing⟩, ⟨.inBlocks, ['o'], ["io-blocks"], .nothing⟩,
    ⟨.sizeOf, ['r'], ["reference"], .value⟩, ⟨.size, ['s'], ["size"], .value⟩,
    ⟨.help, [], ["help", "version"], .nothing⟩]

/-- What was asked for. -/
structure Request where
  keepMissing : Bool := false
  inBlocks : Bool := false
  /-- The path of a file whose size counts. -/
  sizeOf : Option String := none
  relation : Relation := .exactly
  number : Option Int := none

/-- The relation that a mark in front of a number stands for. -/
def relation? : Char → Option Relation
  | '<' => some .atMost
  | '>' => some .atLeast
  | '/' => some .roundedDown
  | '%' => some .roundedUp
  | _ => none

/-- A request with a size.  An earlier relation stays in force, and no sign may stand with it. -/
def Request.withSize (r : Request) (text : List Char) : Except Nat Request := do
  let (relation, text) := match text with
    | c :: rest => match relation? c with
      | some relation => (relation, rest)
      | none => (r.relation, c :: rest)
    | [] => (r.relation, [])
  let signed := text.head? = some '+' || text.head? = some '-'
  if signed && relation ≠ .exactly then throw failure
  let relation := if signed then .changed else relation
  match number? text with
  | none => throw failure
  | some n =>
    if n = 0 && (relation = .roundedDown || relation = .roundedUp) then throw failure
    pure { r with relation, number := some n }

/-- A request with an option; an error is the exit code. -/
def Request.withUse (r : Request) (use : Use Choice) : Except Nat Request :=
  match use.key with
  | .keepMissing => .ok { r with keepMissing := true }
  | .inBlocks => .ok { r with inBlocks := true }
  | .sizeOf => .ok { r with sizeOf := use.value }
  | .size => r.withSize (use.value.getD "").toList
  | .help => .error success

/-! ## 3. The new size -/

/-- The new size of a file of the size `old`; none if no file can have it. -/
def newSize? (relation : Relation) (old number : Int) : Option Nat :=
  let size := match relation with
    | .exactly => number
    | .changed => old + number
    | .atMost => min old number
    | .atLeast => max old number
    | .roundedDown => old - old % number
    | .roundedUp => old + (-old) % number
  if size ≤ biggestFile then some size.toNat else none

/-- A file of a given size: cut, or filled up with zeros. -/
def resize (size : Nat) (file : Bytes) : Bytes :=
  file.take size ++ List.replicate (size - file.length) 0

/-- The file after a request. -/
def Request.apply (r : Request) (file : Bytes) : Except Nat Bytes := do
  let reference ← match r.sizeOf with
    | none => pure none
    | some path =>
      if path = notePath then pure (some (file.length : Int))
      else match find path with
        | .ok .emptyDevice => pure (some 0)
        | _ => throw failure
  let unit := if r.inBlocks then blockSize else 1
  let fits (n : Int) : Bool := -sizeBound ≤ n * unit && n * unit < sizeBound
  let size? := match reference, r.number with
    | none, some n => if fits n then newSize? r.relation file.length (n * unit) else none
    | some size, some n =>
      if r.relation ≠ .exactly ∧ fits n then newSize? r.relation size (n * unit) else none
    | some size, none => if r.inBlocks then none else some size.toNat
    | none, none => none
  match size? with
  | some size => pure (resize size file)
  | none => throw failure

/-- Whether a file that is no note can be given a size: it has to be there, unless it may be made or
passed over. -/
def Request.accepts (r : Request) (path : String) : Bool :=
  path = notePath || match find path with
    | .ok e => e ≠ .folder && e ≠ .emptyDevice
    | .error .notFound => r.keepMissing || isWritable path
    | .error _ => false

/-- **Cuts or extends the file.** -/
def run (args : List String) (file : Bytes) : ProgramResult :=
  let a := readArguments forms args
  let result : Except Nat Bytes := do
    let r ← a.uses.foldlM Request.withUse {}
    if !a.sound || a.operands.isEmpty || !a.operands.all r.accepts then throw failure
    r.apply file
  match result with
  | .ok changed => .left (if a.operands.contains notePath then changed else file)
  | .error code => .endedEarly code file

end Notekeeper.Program.Truncate
