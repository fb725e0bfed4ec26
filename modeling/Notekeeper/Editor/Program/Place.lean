import Notekeeper.Text.Search
/-!
# Files that every system has

Programs are looked up among the files of the system, and may be given others of its files.  Only
files and folders that every system has are known; anything else is not there.
-/

namespace Notekeeper.Program

/-! ## 1. What is where -/

/-- A program that can be run in place of an editor. -/
inductive Tool
  /-- Does nothing, and succeeds. -/
  | succeed
  /-- Does nothing, and fails. -/
  | fail
  | truncate
  | streamEdit
  | remove
  | copy
  | changeMode
  deriving DecidableEq

/-- The names of the programs. -/
def tools : List (String × Tool) :=
  [("true", .succeed), ("false", .fail), ("truncate", .truncate), ("sed", .streamEdit),
    ("rm", .remove), ("cp", .copy), ("chmod", .changeMode)]

/-- What is at a place in the file system. -/
inductive Entry
  | folder
  /-- A device that is always empty. -/
  | emptyDevice
  | file
  | program (t : Tool)
  deriving DecidableEq

/-- The known folders, each by the names on its way from the top. -/
def knownFolders : List String :=
  ["", "usr", "usr/bin", "usr/sbin", "usr/lib", "usr/lib64", "usr/include", "usr/share", "usr/src",
    "usr/games", "usr/local", "usr/local/bin", "usr/local/sbin", "usr/local/lib",
    "usr/local/share", "etc", "tmp", "dev", "dev/shm", "dev/pts", "var", "var/tmp", "var/log",
    "var/lib", "var/cache", "var/spool", "home", "root", "opt", "proc", "sys", "run", "srv", "mnt",
    "media", "boot"]

/-- The known files that are no programs. -/
def knownFiles : List String :=
  ["dev/zero", "dev/full", "dev/random", "dev/urandom", "dev/tty", "etc/passwd", "etc/group",
    "etc/shadow", "etc/hosts", "etc/hostname", "etc/resolv.conf", "etc/fstab", "etc/profile",
    "etc/os-release"]

/-- The folder of the programs. -/
def programFolder : String := "usr/bin"

/-- The folders at the top that are kept under another one. -/
def movedFolders : List String := ["bin", "sbin", "lib", "lib64"]

/-- The folder that a program starts in, of which nothing is known. -/
def startFolder : List String := ["here"]

/-- What is at a place; none if nothing is. -/
def entry? (place : List String) : Option Entry :=
  let path := String.intercalate "/" place
  if place = startFolder || knownFolders.contains path then some .folder
  else if path = "dev/null" then some .emptyDevice
  else if knownFiles.contains path then some .file
  else tools.findSome? fun (name, t) =>
    if path = programFolder ++ "/" ++ name then some (.program t) else none

/-! ## 2. Paths -/

/-- Why a path cannot be followed. -/
inductive PathError
  | notFound
  | notAFolder
  | nameTooLong
  deriving DecidableEq

/-- The place behind a folder that a name leads to. -/
def child (place : List String) (name : String) : List String :=
  if place = [] ∧ movedFolders.contains name then ["usr", name] else place ++ [name]

/-- **What names lead to** from a place.  Every name but the last one has to be that of a folder;
an empty name and a dot stay where they are, and two dots go up. -/
def follow (place : List String) : List String → Except PathError Entry
  | [] =>
    match entry? place with
    | some e => .ok e
    | none => .error .notFound
  | name :: rest =>
    match entry? place with
    | none => .error .notFound
    | some .folder =>
      if name = "" ∨ name = "." then follow place rest
      else if name = ".." then follow place.dropLast rest
      else if 255 < name.utf8ByteSize then .error .nameTooLong
      else follow (child place name) rest
    | some _ => .error .notAFolder

/-- What a path leads to. -/
def find (path : String) : Except PathError Entry :=
  if 4096 ≤ path.utf8ByteSize then .error .nameTooLong
  else if path = "" then .error .notFound
  else follow (if path.startsWith "/" then [] else startFolder) (Text.parts '/' path)

/-- The path of the folder of a path, and the name in it. -/
def split (path : String) : String × String :=
  let name := path.toList.reverse.takeWhile (· ≠ '/')
  let folder := path.toList.take (path.length - name.length)
  (String.ofList (if folder.isEmpty then ['.'] else folder), String.ofList name.reverse)

/-- Whether a file can be written at a path, and made if it is not there. -/
def isWritable (path : String) : Bool :=
  match find path with
  | .ok e => e ≠ .folder
  | .error .notFound =>
    let (folder, name) := split path
    name ≠ "" && (match find folder with
      | .ok .folder => true
      | _ => false)
  | .error _ => false

/-! ## 3. Starting a program -/

/-- What stands in the way of starting a program. -/
inductive LaunchError
  | path (e : PathError)
  /-- What is there cannot be run. -/
  | denied
  /-- A word of the command holds a character that no word may hold. -/
  | nulCharacter
  deriving DecidableEq

/-- The wording of an error. -/
def LaunchError.message : LaunchError → String
  | path .notFound => "No such file or directory (os error 2)"
  | path .notAFolder => "Not a directory (os error 20)"
  | path .nameTooLong => "File name too long (os error 36)"
  | denied => "Permission denied (os error 13)"
  | nulCharacter => "nul byte found in provided data"

/-- The program at a path. -/
def toolAt (path : String) : Except LaunchError Tool :=
  match find path with
  | .ok (.program t) => .ok t
  | .ok _ => .error .denied
  | .error e => .error (.path e)

/-- The program of a name that is looked up in some folders.  A file that cannot be run is passed
over but remembered, and otherwise the error of the last folder counts. -/
def search (command : String) (denied : Bool) (last : LaunchError) :
    List String → Except LaunchError Tool
  | [] => .error (if denied then .denied else last)
  | folder :: rest =>
    match toolAt (if folder = "" then command else folder ++ "/" ++ command) with
    | .ok t => .ok t
    | .error (.path .nameTooLong) => .error (.path .nameTooLong)
    | .error e => search command (denied || e = .denied) e rest

/-- The folders that programs are looked up in, when nothing is said about it. -/
def usualFolders : String := "/bin:/usr/bin"

/-- **The program that a command means**, `folders` being the folders to look in,
parted by colons. -/
def launch (folders : Option String) (command : String) (args : List String) :
    Except LaunchError Tool :=
  if (command :: args).any (·.toList.contains '\x00') then .error .nulCharacter
  else if command.toList.contains '/' then toolAt command
  else search command false (.path .notFound) (Text.parts ':' (folders.getD usualFolders))

end Notekeeper.Program
