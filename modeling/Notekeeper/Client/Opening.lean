import Notekeeper.Files
import Notekeeper.Config.Paths
import Notekeeper.Store.Operation
/-!
# Opening a client

A client needs its two folders, its configuration and its store.  The store is one file in the
configuration folder; a file that holds something else is refused, and an empty one is an empty
store.
-/

namespace Notekeeper.Opening

/-! ## 1. The store file -/

/-- The error about a store file that cannot be opened. -/
def unreachable : Error := .database "unable to open database file"

/-- The error about a file that is no store. -/
def notAStore : Error := .database "file is not a database"

/-- What is added to the name of the store file for the file that protects its writes. -/
def journalEnding : String := "-journal"

/-- **The path of the store file** in a folder.  The file name may lead through other folders; the
last one has to be there, and has to have room for the journal beside the store. -/
def storePath (t : FileTree) (folder : Path) (config : Config) : Except Error Path :=
  let name := config.dbFileName
  let fits (p : Path) : Bool :=
    !t.isFolder p && t.isFolder p.dropLast
      && (p.getLast?.getD "" ++ journalEnding).utf8ByteSize ≤ FileTree.longestName
  if name.toList.contains '\x00' ∨ name.toList.head? = some '/' then .error unreachable
  else match t.resolve? folder (FileTree.names name) with
    | some p => if fits p then .ok p else .error unreachable
    | none => .error unreachable

/-- The store in a file: the one `held` at that path, or an empty one. -/
def openStore {σ : Type} [Backend σ] (t : FileTree) (p : Path) (held : Option (Path × σ)) :
    Except Error σ :=
  match held with
  | some (q, s) => if q = p then .ok s else fromFile
  | none => fromFile
where
  /-- The store in a file that was made by others. -/
  fromFile : Except Error σ :=
    match t.file? p with
    | none | some [] => .ok Backend.empty
    | some (_ :: _) => .error notAStore

/-! ## 2. The folders -/

/-- The folder of the configuration and the store. -/
def configFolder : Path := ["config"]

/-- The folder of the texts being edited. -/
def cacheFolder : Path := ["cache"]

/-- **The configuration of a client** under a top folder, and the tree with the folders made. -/
def configure (t : FileTree) (env : Environment) : Except Error (Config × FileTree) := do
  let t ← t.makeFolder configFolder
  let t ← t.makeFolder cacheFolder
  let file := configFolder ++ ["clinote.toml"]
  if t.isFolder file then throw (Config.badFile "is a folder")
  let config ← Config.load env (t.file? file)
  pure (config, t)

/-! ## 3. Opening -/

/-- What a store file holds for those who take it for another file: bytes that are no text. -/
def storeBytes : Bytes := [0xFF]

/-- What a client has when it is open. -/
structure Opened (σ : Type) where
  config : Config
  path : Path
  store : σ

/-- **Opens a client** under a top folder.  A store that was held at a path before is there as a
file, also for the configuration. -/
def openClient {σ : Type} [Backend σ] (t : FileTree) (env : Environment)
    (held : Option (Path × σ)) : Except Error (Opened σ) := do
  let t := match held with
    | some (p, _) => t.write p storeBytes
    | none => t
  let (config, t) ← configure t env
  let path ← storePath t configFolder config
  pure ⟨config, path, ← openStore t path held⟩

end Notekeeper.Opening
