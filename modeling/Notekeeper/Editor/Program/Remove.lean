import Notekeeper.Editor.Program.Arguments
import Notekeeper.Editor.Program.Place
import Notekeeper.Editor.Program.Result
/-!
# Removing a file

A program that removes files.  Where it would ask its user, nobody is there who agrees.
-/

namespace Notekeeper.Program.Remove

/-- What can be asked for. -/
inductive Choice
  | force
  | askEach
  | askOnce
  | ask
  | recursive
  | folders
  | verbose
  | sameFileSystem
  | guardTop
  | dropGuard
  | help
  deriving DecidableEq

/-- The options. -/
def forms : List (Form Choice) :=
  [⟨.force, ['f'], ["force"], .nothing⟩, ⟨.askEach, ['i'], [], .nothing⟩,
    ⟨.askOnce, ['I'], [], .nothing⟩, ⟨.ask, [], ["interactive"], .maybe⟩,
    ⟨.recursive, ['r', 'R'], ["recursive"], .nothing⟩, ⟨.folders, ['d'], ["dir"], .nothing⟩,
    ⟨.verbose, ['v'], ["verbose"], .nothing⟩,
    ⟨.sameFileSystem, [], ["one-file-system", "-presume-input-tty"], .nothing⟩,
    ⟨.guardTop, [], ["preserve-root"], .maybe⟩,
    ⟨.dropGuard, [], ["no-preserve-root"], .nothing⟩, ⟨.help, [], ["help", "version"], .nothing⟩]

/-- When the user is asked. -/
inductive Asking
  | never
  | once
  | always
  deriving DecidableEq

/-- The words for it. -/
def askings : List (String × Asking) :=
  [("never", .never), ("no", .never), ("none", .never), ("once", .once), ("always", .always),
    ("yes", .always)]

/-- What was asked for. -/
structure Request where
  asking : Asking := .never
  /-- Whether files that are not there are passed over. -/
  forgiving : Bool := false
  recursive : Bool := false

/-- A request that says when to ask. -/
def Request.withAsking (r : Request) : Asking → Request
  | .never => { r with asking := .never }
  | asking => { r with asking, forgiving := false }

/-- Whether a request to remove so many files comes to nothing, as nobody answers a question. -/
def Request.declines (r : Request) (count : Nat) : Bool :=
  match r.asking with
  | .never => false
  | .once => r.recursive || 3 < count
  | .always => true

/-- A request with an option; an error is the exit code. -/
def Request.withUse (r : Request) (use : Use Choice) : Except Nat Request :=
  match use.key, use.value with
  | .force, _ => .ok { r with asking := .never, forgiving := true }
  | .askEach, _ | .ask, none => .ok (r.withAsking .always)
  | .askOnce, _ => .ok (r.withAsking .once)
  | .ask, some text =>
    match choice? askings text with
    | some asking => .ok (r.withAsking asking)
    | none => .error failure
  | .recursive, _ => .ok { r with recursive := true }
  | .folders, _ | .verbose, _ | .sameFileSystem, _ => .ok r
  | .guardTop, value => if value.getD "all" = "all" then .ok r else .error failure
  | .dropGuard, _ => if use.word = "--no-preserve-root" then .ok r else .error failure
  | .help, _ => .error success

/-- Whether another file can be removed, too: only one that is not there can, if that is fine. -/
def Request.accepts (r : Request) (path : String) : Bool :=
  match find path with
  | .error .notFound | .error .notAFolder => r.forgiving
  | _ => false

/-- **Removes the file.**  It is removed also when something is wrong with another one. -/
def run (args : List String) (file : Bytes) : ProgramResult :=
  let a := readArguments forms args
  match a.uses.foldlM Request.withUse {} with
  | .error code => .endedEarly code file
  | .ok r =>
    let others := a.operands.filter (· ≠ notePath)
    let declined := r.declines a.operands.length
    if !a.sound then .endedEarly failure file
    else if declined && r.asking = .once then .left file
    else
      let code := if others.all r.accepts then success else failure
      { code, file := if declined then some file else none }

end Notekeeper.Program.Remove
