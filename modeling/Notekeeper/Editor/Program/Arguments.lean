/-!
# The arguments of a program

Arguments are options and operands in any order.  Options of one letter may share an argument; an
option with a name may be shortened as long as no other one is meant.
-/

namespace Notekeeper.Program

/-! ## 1. Options -/

/-- Whether an option is given a value. -/
inductive Takes
  | nothing
  /-- A value in the same argument, or none. -/
  | maybe
  /-- A value in the same argument or in the next one. -/
  | value
  deriving DecidableEq

/-- An option that a program knows. -/
structure Form (ι : Type) where
  key : ι
  letters : List Char
  names : List String := []
  takes : Takes := .nothing

/-- An option that was given. -/
structure Use (ι : Type) where
  key : ι
  value : Option String
  /-- The argument that it stands in. -/
  word : String

/-- **The arguments of a program**, told apart. -/
structure Arguments (ι : Type) where
  uses : List (Use ι) := []
  operands : List String := []
  /-- Whether the options are known and used rightly; those behind a wrong one are not read. -/
  sound : Bool := true

/-- Arguments with some options in front. -/
def Arguments.behind {ι : Type} (uses : List (Use ι)) (a : Arguments ι) : Arguments ι :=
  { a with uses := uses ++ a.uses }

/-! ## 2. Reading arguments -/

/-- How the letters of an argument end. -/
inductive LettersEnd (ι : Type)
  | complete
  /-- The last option takes its value from the next argument. -/
  | needsValue (key : ι)
  | unknown

/-- The options that the letters of an argument give. -/
def readLetters {ι : Type} (forms : List (Form ι)) (word : String) :
    List Char → List (Use ι) × LettersEnd ι
  | [] => ([], .complete)
  | c :: rest =>
    match forms.find? (·.letters.contains c) with
    | none => ([], .unknown)
    | some f =>
      match f.takes, rest with
      | .nothing, rest =>
        let (uses, ending) := readLetters forms word rest
        (⟨f.key, none, word⟩ :: uses, ending)
      | .maybe, [] => ([⟨f.key, none, word⟩], .complete)
      | .value, [] => ([], .needsValue f.key)
      | _, c :: rest => ([⟨f.key, some (String.ofList (c :: rest)), word⟩], .complete)

/-- The option that a name means: the one with this name, or the only one whose name starts so. -/
def named? {ι : Type} [BEq ι] (forms : List (Form ι)) (name : String) : Option (Form ι) :=
  match forms.find? (·.names.contains name) with
  | some f => some f
  | none =>
    match forms.filter (·.names.any (·.startsWith name)) with
    | [] => none
    | f :: others => if others.all (·.key == f.key) then some f else none

/-- **Reads arguments.**  Behind two dashes there are operands only. -/
def readArguments {ι : Type} [BEq ι] (forms : List (Form ι)) : List String → Arguments ι
  | [] => {}
  | "--" :: rest => { operands := rest }
  | word :: rest =>
    match word.toList with
    | '-' :: '-' :: text =>
      let name := String.ofList (text.takeWhile (· ≠ '='))
      let value : Option String := match text.dropWhile (· ≠ '=') with
        | [] => none
        | _ :: value => some (String.ofList value)
      match named? forms name with
      | none => { sound := false }
      | some f =>
        match f.takes, value, rest with
        | .nothing, some _, _ | .value, none, [] => { sound := false }
        | .value, none, value :: rest =>
          (readArguments forms rest).behind [⟨f.key, some value, word⟩]
        | _, value, rest => (readArguments forms rest).behind [⟨f.key, value, word⟩]
    | '-' :: c :: cs =>
      match readLetters forms word (c :: cs), rest with
      | (uses, .complete), rest => (readArguments forms rest).behind uses
      | (uses, .needsValue key), value :: rest =>
        (readArguments forms rest).behind (uses ++ [⟨key, some value, word⟩])
      | (uses, _), _ => { uses, sound := false }
    | _ =>
      let a := readArguments forms rest
      { a with operands := word :: a.operands }

/-- The choice that a text means: the one of that name, or the only one whose name starts so.
Names of one choice are listed with the same meaning. -/
def choice? {α : Type} [BEq α] (choices : List (String × α)) (text : String) : Option α :=
  match choices.find? (·.1 = text) with
  | some (_, a) => some a
  | none =>
    match choices.filter (·.1.startsWith text) with
    | [] => none
    | (_, a) :: others => if others.all (·.2 == a) then some a else none

end Notekeeper.Program
