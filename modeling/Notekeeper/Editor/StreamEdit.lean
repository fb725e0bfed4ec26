import Notekeeper.Editor.Program.Arguments
import Notekeeper.Editor.StreamEdit.Run
import Notekeeper.Text.Utf8
/-!
# Editing by a script

A program that edits files by a script.  Only editing in place changes a file; a copy of the old
file may be kept.
-/

namespace Notekeeper.StreamEdit

open Program

/-! ## 1. Bytes as characters -/

/-- A text with one character for each byte. -/
def spell (bs : Bytes) : List Char := bs.map fun b => Char.ofNat b.toNat

/-- The bytes of a text with one character for each of them. -/
def unspell (cs : List Char) : Bytes := cs.map fun c => UInt8.ofNat c.toNat

/-! ## 2. Options -/

/-- What can be asked for. -/
inductive Choice
  | quiet
  | script
  | scriptFile
  | inPlace
  | extended
  | width
  | nulEnds
  | sandbox
  | followLinks
  /-- Something that makes no difference for a single file. -/
  | detail
  | help
  deriving DecidableEq

/-- The options. -/
def forms : List (Form Choice) :=
  [⟨.quiet, ['n'], ["quiet", "silent"], .nothing⟩, ⟨.script, ['e'], ["expression"], .value⟩,
    ⟨.scriptFile, ['f'], ["file"], .value⟩, ⟨.inPlace, ['i'], ["in-place"], .maybe⟩,
    ⟨.extended, ['E', 'r'], ["regexp-extended"], .nothing⟩,
    ⟨.width, ['l'], ["line-length"], .value⟩,
    ⟨.nulEnds, ['z'], ["null-data", "zero-terminated"], .nothing⟩,
    ⟨.sandbox, [], ["sandbox"], .nothing⟩,
    ⟨.detail, ['b', 's', 'u'], ["binary", "separate", "unbuffered"], .nothing⟩,
    ⟨.detail, [], ["posix"], .nothing⟩, ⟨.detail, [], ["debug"], .nothing⟩,
    ⟨.followLinks, [], ["follow-symlinks"], .nothing⟩, ⟨.help, [], ["help"], .nothing⟩,
    ⟨.help, [], ["version"], .nothing⟩]

/-- **What was asked for.** -/
structure Request where
  reading : ScriptManner := { dialect := .basic, sandboxed := false }
  running : RunManner := {}
  /-- The script so far, if one was given by an option. -/
  draft : Option Draft := none
  /-- What is put in the place of a star to name the copy of the old file, if files are edited in
  place; with nothing no copy is kept. -/
  inPlace : Option String := none
  followLinks : Bool := false

/-- A request with one more part of the script. -/
def Request.withPart (r : Request) (cs : List Char) : Except Nat Request := do
  let draft := r.draft.getD (Draft.begun cs)
  pure { r with draft := some (← draft.readPart r.reading cs) }

/-- The text of a script file. -/
def scriptText (path : String) (file : Bytes) : Except Nat (List Char) :=
  if path = notePath then .ok (spell file)
  else match find path with
    | .ok .emptyDevice => .ok []
    | .ok (.program _) | .ok .file => .error wrongScript
    | .ok .folder | .error _ => .error noWayOn

/-- A request with an option; an error is the exit code. -/
def Request.withUse (file : Bytes) (r : Request) (use : Use Choice) : Except Nat Request :=
  let value := use.value.getD ""
  match use.key with
  | .quiet => .ok { r with running := { r.running with quiet := true } }
  | .script => r.withPart (spell (Utf8.ofString value))
  | .scriptFile => (scriptText value file).bind r.withPart
  | .inPlace => .ok { r with inPlace := some value }
  | .extended => .ok { r with reading := { r.reading with dialect := .extended } }
  | .width => .ok { r with running := { r.running with width := (readNumber value.toList).1 } }
  | .nulEnds => .ok { r with running := { r.running with lineEnd := '\x00' } }
  | .sandbox => .ok { r with reading := { r.reading with sandboxed := true } }
  | .followLinks => .ok { r with followLinks := true }
  | .detail => .ok r
  | .help => .error success

/-! ## 3. The program -/

/-- The exit code when a file cannot be read; the others are edited. -/
def unreadable : Nat := 2

/-- The number of files that a copy of the old file adds beside it; none if it cannot be made.  The
star in its name stands for the whole path of the file. -/
def copies? (ending : String) : Option Nat :=
  let name := if ending.toList.contains '*' then ending.toList else '*' :: ending.toList
  match name with
  | ['*'] => some 0
  | '*' :: rest => if rest.contains '*' || rest.contains '/' then none else some 1
  | _ => none

/-- Goes through the files that are given, of which only one is edited; `code` is the exit code so
far. -/
def editAll (r : Request) (script : Script) : (code : Nat) → ProgramResult → List String →
    ProgramResult
  | code, result, [] => { result with code }
  | code, result, path :: rest =>
    if path = notePath then
      match script.run r.running (spell (result.file.getD [])), (r.inPlace.map copies?) with
      | .error code, _ => { result with code }
      | .ok _, some none => { result with code := noWayOn }
      | .ok (text, quit?), place =>
        let result := match place with
          | some (some n) => { result with file := some (unspell text), madeBeside := n }
          | _ => result
        match quit? with
        | none => editAll r script code result rest
        | some quit => { result with code := if code = success then quit else code }
    else match find path with
      | .error _ =>
        if r.followLinks then { result with code := noWayOn }
        else editAll r script unreadable result rest
      | .ok .folder => { result with code := noWayOn }
      | .ok .emptyDevice =>
        if r.inPlace.isSome then { result with code := noWayOn }
        else editAll r script code result rest
      | .ok _ => editAll r script code result rest

/-- **Edits the file by a script**, which is the first operand if no option gives it. -/
def run (args : List String) (file : Bytes) : ProgramResult :=
  let a := readArguments forms args
  let plan : Except Nat (Request × Script × List String) := do
    let r ← a.uses.foldlM (Request.withUse file) {}
    if !a.sound then throw wrongScript
    let (r, files) ← match r.draft, a.operands with
      | some _, files => pure (r, files)
      | none, script :: files => pure (← r.withPart (spell (Utf8.ofString script)), files)
      | none, [] => throw wrongScript
    let script ← (r.draft.getD {}).finish
    if files.isEmpty ∧ r.inPlace.isSome then throw noWayOn
    pure (r, script, files)
  match plan with
  | .error code => .endedEarly code file
  | .ok (r, script, files) => editAll r script success (.left file) files

end Notekeeper.StreamEdit
