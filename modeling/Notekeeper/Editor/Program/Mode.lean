import Notekeeper.Editor.Program.Arguments
import Notekeeper.Editor.Program.Place
import Notekeeper.Editor.Program.Result
/-!
# Changing who may use a file

A program that changes the mode of files.  The owner of all files may read them in any mode.
-/

namespace Notekeeper.Program.Mode

/-! ## 1. Modes in writing -/

/-- The octal digits of a mode, up to the biggest one, and what follows. -/
def octal? (value : Nat) : List Char → Option (List Char)
  | c :: rest =>
    if '0' ≤ c ∧ c ≤ '7' then
      let value := value * 8 + (c.toNat - 48)
      if value < 0o10000 then octal? value rest else none
    else some (c :: rest)
  | [] => some []

/-- Whether a character says what to do with permissions. -/
def isSign (c : Char) : Bool := c = '+' || c = '-' || c = '='

/-- Whether a character is an octal digit. -/
def isOctal (c : Char) : Bool := '0' ≤ c && c ≤ '7'

/-- The permissions behind a sign, and what follows: those of somebody, or any letters. -/
def permissions : List Char → List Char
  | 'u' :: rest | 'g' :: rest | 'o' :: rest => rest
  | cs => cs.dropWhile ['r', 'w', 'x', 'X', 's', 't'].contains

/-- Whether a text writes changes of a mode: for somebody or for all, signs with permissions, and
more of them behind commas.  Octal digits are for all and end a change.  The fuel bounds the
length. -/
def areChanges : (fuel : Nat) → (forAll begun : Bool) → List Char → Bool
  | 0, _, _, _ => false
  | fuel + 1, forAll, begun, c :: rest =>
    if !begun && ['u', 'g', 'o', 'a'].contains c then areChanges fuel false false rest
    else if isSign c then
      match rest with
      | d :: _ =>
        if isOctal d then
          match octal? 0 rest with
          | some [] => forAll
          | some (',' :: rest) => forAll && areChanges fuel true false rest
          | _ => false
        else areChanges fuel forAll true (permissions rest)
      | [] => true
    else c = ',' && begun && areChanges fuel true false rest
  | _ + 1, _, begun, [] => begun

/-- **Whether a text is a mode**, in octal or by letters. -/
def isMode (mode : String) : Bool :=
  match mode.toList with
  | c :: rest =>
    if isOctal c then octal? 0 (c :: rest) = some []
    else areChanges (mode.length + 1) true false (c :: rest)
  | [] => false

/-! ## 2. The program -/

/-- What can be asked for. -/
inductive Choice
  | changes
  /-- A mode that is written like an option. -/
  | mode
  | modeOf
  | help
  deriving DecidableEq

/-- The options. -/
def forms : List (Form Choice) :=
  [⟨.changes, ['c', 'f', 'v', 'R'], ["changes", "silent", "quiet", "verbose", "recursive",
      "preserve-root", "no-preserve-root"], .nothing⟩,
    ⟨.mode, "rwxXstugoa,+=01234567".toList, [], .maybe⟩, ⟨.modeOf, [], ["reference"], .value⟩,
    ⟨.help, [], ["help", "version"], .nothing⟩]

/-- Whether a path leads to a file. -/
def isThere (path : String) : Bool := path = notePath || (find path).toOption.isSome

/-- **Changes who may use the file**, which does not keep anyone here from reading it. -/
def run (args : List String) (file : Bytes) : ProgramResult :=
  let a := readArguments forms args
  let modes := (a.uses.filter (·.key = .mode)).map (·.word)
  let references := (a.uses.filter (·.key = .modeOf)).filterMap (·.value)
  let works := match references.getLast?, modes, a.operands with
    | some path, [], files => isThere path && !files.isEmpty && files.all isThere
    | some _, _ :: _, _ => false
    | none, [], mode :: files => isMode mode && !files.isEmpty && files.all isThere
    | none, [], [] => false
    | none, modes, files =>
      isMode (String.intercalate "," modes) && !files.isEmpty && files.all isThere
  if a.uses.any (·.key = .help) then .left file
  else .endedEarly (if a.sound && works then success else failure) file

end Notekeeper.Program.Mode
