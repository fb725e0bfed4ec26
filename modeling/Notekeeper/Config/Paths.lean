import Notekeeper.Config.Source
/-!
# Folders

The folder of the configuration and the store, and the folder of the texts being edited.  One
variable puts both under a folder of its own; otherwise they follow the desktop conventions.
-/

namespace Notekeeper

/-- **The folders of a client.** -/
structure Paths where
  configDir : String
  cacheDir : String
  deriving DecidableEq

namespace Paths

/-- A path with a name under it; an empty path is the folder that names start from. -/
def join (path name : String) : String :=
  if path = "" then name
  else if path.toList.getLast? = some '/' then path ++ name
  else path ++ "/" ++ name

/-- Both folders under one root. -/
def under (root : String) : Paths := ⟨join root "config", join root "cache"⟩

/-- The configuration file. -/
def configFile (p : Paths) : String := join p.configDir "clinote.toml"

/-- A folder that a variable names by an absolute path. -/
def absolute? (env : Environment) (name : String) : Option String :=
  (env name).filter fun path => path.toList.head? = some '/'

/-- **The folders that the environment asks for.** -/
def resolve (env : Environment) : Paths :=
  match (env "CLINOTE_DATA").filter (· ≠ "") with
  | some root => under root
  | none =>
    let home := (env "HOME").getD ""
    let folder (variableName fallback : String) : String :=
      join ((absolute? env variableName).getD (join home fallback)) "clinote"
    ⟨folder "XDG_CONFIG_HOME" ".config", folder "XDG_CACHE_HOME" ".cache"⟩

end Paths
end Notekeeper
