import Notekeeper.Editor.Program.Arguments
import Notekeeper.Editor.Program.Place
import Notekeeper.Editor.Program.Result
/-!
# Overwriting a file

A program that copies files.  The file is the last argument, so it is what another file is copied to
unless an option says otherwise.
-/

namespace Notekeeper.Program.Copy

/-! ## 1. Options -/

/-- What can be asked for. -/
inductive Choice
  /-- Something that makes no difference for a single file. -/
  | detail
  /-- Keeping links, and going through folders. -/
  | archive
  | recursive
  | keepLinks
  | followLinks
  /-- Devices are read and not made anew. -/
  | contents
  | backup
  | backupKind
  | suffix
  | force
  | unlinkFirst
  | ask
  | keepExisting
  | onlyNewer
  | hardLink
  | symbolicLink
  | attributesOnly
  | parents
  | intoFolder
  | noFolder
  | stripSlashes
  | preserve
  | unpreserve
  | blocks
  | holes
  | context
  | help
  deriving DecidableEq

/-- The options. -/
def forms : List (Form Choice) :=
  [⟨.detail, ['p'], [], .nothing⟩, ⟨.detail, ['v'], ["verbose"], .nothing⟩,
    ⟨.detail, ['x'], ["one-file-system"], .nothing⟩, ⟨.detail, ['Z'], [], .nothing⟩,
    ⟨.archive, ['a'], ["archive"], .nothing⟩, ⟨.recursive, ['r', 'R'], ["recursive"], .nothing⟩,
    ⟨.keepLinks, ['d'], [], .nothing⟩, ⟨.keepLinks, ['P'], ["no-dereference"], .nothing⟩,
    ⟨.followLinks, ['L'], ["dereference"], .nothing⟩, ⟨.followLinks, ['H'], [], .nothing⟩,
    ⟨.contents, [], ["copy-contents"], .nothing⟩,
    ⟨.backup, ['b'], [], .nothing⟩, ⟨.backupKind, [], ["backup"], .maybe⟩,
    ⟨.suffix, ['S'], ["suffix"], .value⟩, ⟨.force, ['f'], ["force"], .nothing⟩,
    ⟨.unlinkFirst, [], ["remove-destination"], .nothing⟩, ⟨.ask, ['i'], ["interactive"], .nothing⟩,
    ⟨.keepExisting, ['n'], ["no-clobber"], .nothing⟩, ⟨.onlyNewer, ['u'], ["update"], .nothing⟩,
    ⟨.hardLink, ['l'], ["link"], .nothing⟩, ⟨.symbolicLink, ['s'], ["symbolic-link"], .nothing⟩,
    ⟨.attributesOnly, [], ["attributes-only"], .nothing⟩, ⟨.parents, [], ["parents"], .nothing⟩,
    ⟨.intoFolder, ['t'], ["target-directory"], .value⟩,
    ⟨.noFolder, ['T'], ["no-target-directory"], .nothing⟩,
    ⟨.stripSlashes, [], ["strip-trailing-slashes"], .nothing⟩,
    ⟨.preserve, [], ["preserve"], .maybe⟩, ⟨.unpreserve, [], ["no-preserve"], .value⟩,
    ⟨.blocks, [], ["reflink"], .maybe⟩, ⟨.holes, [], ["sparse"], .value⟩,
    ⟨.context, [], ["context"], .maybe⟩, ⟨.help, [], ["help", "version"], .nothing⟩]

/-- The kinds of backups, zero for none. -/
def backupKinds : List (String × Nat) :=
  [("none", 0), ("off", 0), ("simple", 1), ("never", 1), ("existing", 2), ("nil", 2),
    ("numbered", 3), ("t", 3)]

/-- Whether a kind of backups makes one; none if there is no such kind. -/
def makesBackup? (kind : String) : Option Bool :=
  if kind = "" then some true else (choice? backupKinds kind).map (· ≠ 0)

/-- The properties that a copy may have in common with its source. -/
def properties : List (String × Nat) :=
  [("mode", 1), ("timestamps", 2), ("ownership", 3), ("links", 4), ("context", 5), ("xattr", 6),
    ("all", 7)]

/-- The property that is not known here. -/
def unknownProperty : Nat := 5

/-- When something is done. -/
def whens : List (String × Nat) := [("auto", 1), ("always", 2), ("never", 3)]

/-- **What was asked for.** -/
structure Request where
  backup : Bool := false
  /-- The kind of the backup in writing. -/
  backupKind : String := ""
  /-- Whether a file that is in the way is removed. -/
  replacing : Bool := false
  /-- Whether it is removed in any case. -/
  unlinking : Bool := false
  /-- Whether the file stays as it is, since it is there and new. -/
  keeping : Bool := false
  keepingAlways : Bool := false
  hardLink : Bool := false
  symbolicLink : Bool := false
  attributesOnly : Bool := false
  parents : Bool := false
  intoFolder : Option String := none
  noFolder : Bool := false
  stripSlashes : Bool := false
  sharingBlocks : Bool := false
  recursive : Bool := false
  /-- Whether links are followed, if that was said. -/
  followingLinks : Option Bool := none
  contents : Bool := false

/-- A request with an option; an error is the exit code. -/
def Request.withUse (r : Request) (use : Use Choice) : Except Nat Request :=
  let value := use.value.getD ""
  match use.key with
  | .detail | .context => .ok r
  | .archive => .ok { r with recursive := true, followingLinks := some false }
  | .recursive => .ok { r with recursive := true }
  | .keepLinks => .ok { r with followingLinks := some false }
  | .followLinks => .ok { r with followingLinks := some true }
  | .contents => .ok { r with contents := true }
  | .backup | .suffix => .ok { r with backup := true }
  | .backupKind =>
    .ok { r with backup := true, backupKind := use.value.getD r.backupKind }
  | .force => .ok { r with replacing := true }
  | .unlinkFirst => .ok { r with replacing := true, unlinking := true }
  | .ask | .onlyNewer => .ok { r with keeping := true }
  | .keepExisting => .ok { r with keeping := true, keepingAlways := true }
  | .hardLink => .ok { r with hardLink := true }
  | .symbolicLink => .ok { r with symbolicLink := true }
  | .attributesOnly => .ok { r with attributesOnly := true }
  | .parents => .ok { r with parents := true }
  | .intoFolder =>
    if r.intoFolder.isSome then .error failure else .ok { r with intoFolder := some value }
  | .noFolder => .ok { r with noFolder := true }
  | .stripSlashes => .ok { r with stripSlashes := true }
  | .preserve =>
    let known := (Text.parts ',' value).all fun name =>
      ((choice? properties name).any (· ≠ unknownProperty) : Bool)
    if use.value.isNone || known then .ok r else .error failure
  | .unpreserve =>
    let known := (Text.parts ',' value).all fun name => (choice? properties name).isSome
    if known then .ok r else .error failure
  | .blocks =>
    match if use.value.isNone then some 2 else choice? whens value with
    | some n => .ok { r with sharingBlocks := n = 2 }
    | none => .error failure
  | .holes => if (choice? whens value).isSome then .ok r else .error failure
  | .help => .error success

/-! ## 2. The program -/

/-- The content of a program, of which no more is said than that it is no text. -/
def programContent : Bytes := [0x7F, 0xFF]

/-- The path of a source to be copied into a folder. -/
def Request.source (r : Request) (path : String) : String :=
  let kept := path.toList.reverse.dropWhile (· = '/')
  if r.stripSlashes ∧ !kept.isEmpty then String.ofList kept.reverse else path

/-- Copies a file that has some content over the file.  A device is in the way of links and devices
that are made anew, unless links are kept; a link to a device cannot be a hard one. -/
def Request.overwrite (r : Request) (isDevice : Bool) (content file : Bytes) : ProgramResult :=
  let beside := if r.backup then 1 else 0
  let keepsLinks := !r.followingLinks.getD (!r.recursive || r.hardLink)
  let isGone := r.backup || r.unlinking
  let isCleared := isGone || (isDevice && keepsLinks && !r.attributesOnly)
  let copied (content : Bytes) : ProgramResult :=
    { code := success, file := some content, madeBeside := beside }
  if r.keeping then .left file
  else if r.hardLink then
    if !isDevice && (isGone || r.replacing) then copied content else .endedEarly failure file
  else if r.symbolicLink then
    if isCleared || r.replacing then copied content else .endedEarly failure file
  else if r.recursive && !r.contents && isDevice then
    if isCleared then copied content else .endedEarly failure file
  else if r.attributesOnly then copied (if isGone then [] else file)
  else if r.sharingBlocks then .endedEarly failure file
  else copied content

/-- Whether another file can be copied to a place: into a folder, or to a file that is no device. -/
def canCopyTo (path : String) : Bool :=
  match find path with
  | .ok e => e ≠ .emptyDevice
  | .error _ => isWritable path

/-- **Overwrites the file with another one**, or copies it into a folder. -/
def run (args : List String) (file : Bytes) : ProgramResult :=
  let a := readArguments forms args
  match a.uses.foldlM Request.withUse {} with
  | .error code => .endedEarly code file
  | .ok r =>
    let backup? := if r.backup then makesBackup? r.backupKind else some false
    let clash := backup?.isNone || (r.hardLink && r.symbolicLink) || (r.keepingAlways && r.backup)
      || (r.noFolder && r.intoFolder.isSome)
    let r := { r with backup := backup?.getD false }
    if !a.sound || clash then .endedEarly failure file
    else match r.intoFolder, a.operands with
      | some folder, sources =>
        let canRead (path : String) : Bool := path = notePath || match find (r.source path) with
          | .ok e => e ≠ .folder
          | .error _ => false
        let works := (match find folder with
          | .ok .folder => true
          | _ => false) && !sources.isEmpty && sources.all canRead
        .endedEarly (if works then success else failure) file
      | none, [source, target] =>
        if r.parents then .endedEarly failure file
        else if target ≠ notePath then
          let works := canCopyTo target && match find source with
            | .ok e => e ≠ .folder
            | .error _ => false
          .endedEarly (if works then success else failure) file
        else match find source with
          | .ok .emptyDevice => r.overwrite true [] file
          | .ok (.program _) => r.overwrite false programContent file
          | .ok .file => r.overwrite false programContent file
          | _ => .endedEarly failure file
      | none, _ => .endedEarly failure file

end Notekeeper.Program.Copy
