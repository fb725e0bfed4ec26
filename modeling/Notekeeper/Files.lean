import Notekeeper.Error
import Notekeeper.Store.Entries
import Notekeeper.Text.Search
import Notekeeper.Text.Utf8
/-!
# Files and folders

The files under a folder, by their path.  A folder is there if it was made or holds something.
-/

namespace Notekeeper

/-- The names on the way from the top folder. -/
abbrev Path := List String

/-- **Files and folders** under a top folder. -/
structure FileTree where
  folders : List Path := []
  files : List (Path × Bytes) := []
  deriving Inhabited

namespace FileTree

/-- The content of a file. -/
def file? (t : FileTree) (p : Path) : Option Bytes := Entries.get? p t.files

/-- Whether a path leads to a folder. -/
def isFolder (t : FileTree) (p : Path) : Bool :=
  p.isEmpty || t.folders.any p.isPrefixOf
    || t.files.any fun (q, _) => p.isPrefixOf q && p.length < q.length

/-- The tree with a file. -/
def write (t : FileTree) (p : Path) (content : Bytes) : FileTree :=
  { t with files := Entries.set p content t.files }

/-- Whether nothing can be looked up under a path, because a file is on the way. -/
def isCutOff (t : FileTree) (p : Path) : Bool := t.files.any fun (q, _) => q.isPrefixOf p

/-- The errors of the file system. -/
def notFound : Error := .io "No such file or directory (os error 2)"
@[inherit_doc notFound] def fileExists : Error := .io "File exists (os error 17)"
@[inherit_doc notFound] def notAFolder : Error := .io "Not a directory (os error 20)"

/-- **The tree with a folder**, and all folders on the way to it. -/
def makeFolder (t : FileTree) (p : Path) : Except Error FileTree :=
  if t.isFolder p then .ok t
  else if (t.file? p).isSome then .error fileExists
  else if t.isCutOff p then .error notAFolder
  else .ok { t with folders := p :: t.folders }

/-- The names of a path in writing: empty ones and those for the folder itself are passed over. -/
def names (path : String) : List String :=
  (Text.parts '/' path).filter fun n => n ≠ "" && n ≠ "."

/-- The longest name that a file can have, in bytes. -/
def longestName : Nat := 255

/-- **The path that names lead to.**  Two dots take back the name before them, which need not be
the name of anything; any other name has to be one that a file in that place could have. -/
def resolve? (t : FileTree) : Path → List String → Option Path
  | p, [] => some p
  | p, ".." :: rest => resolve? t p.dropLast rest
  | p, name :: rest =>
    if name.utf8ByteSize ≤ longestName ∧ !t.isCutOff p then resolve? t (p ++ [name]) rest else none

end FileTree
end Notekeeper
