import Notekeeper.Config
import Notekeeper.Config.Toml.Parser
import Notekeeper.Error
import Notekeeper.Text.Blank
import Notekeeper.Text.Utf8
/-!
# Where a configuration comes from

Each field is taken from an environment variable, else from the configuration file, else it has
its default.  Every source has to be well formed, also where another one wins.
-/

namespace Notekeeper

/-- The environment variables, by name. -/
abbrev Environment := String → Option String

namespace Config

open Text

/-- The fields that one source gives. -/
structure Source where
  notebookCacheHours : Option UInt64 := none
  dbFileName : Option String := none
  lockTimeoutMs : Option UInt64 := none
  searchPageSize : Option UInt64 := none

/-- The fields of the first source that gives them, else their defaults. -/
def ofSources (first second : Source) : Config :=
  let default : Config := {}
  let pick {α : Type} (field : Source → Option α) (value : α) : α :=
    ((field first).or (field second)).getD value
  { notebookCacheHours := pick (·.notebookCacheHours) default.notebookCacheHours
    dbFileName := pick (·.dbFileName) default.dbFileName
    lockTimeoutMs := pick (·.lockTimeoutMs) default.lockTimeoutMs
    searchPageSize := pick (·.searchPageSize) default.searchPageSize }

/-! ## 1. The environment -/

/-- The error about a variable that is no number. -/
def badVariable (name : String) : Error := .config ("the value of " ++ name ++ " is no number")

/-- The number that a variable holds, blanks around it allowed.  An empty one counts as not set. -/
def envNumber? (env : Environment) (name : String) : Except Error (Option UInt64) :=
  match env name with
  | none => .ok none
  | some s =>
    match unsigned? 10 wordBound (trimWhile isBlank s.toList) with
    | some n => .ok (some (UInt64.ofNat n))
    | none => if s = "" then .ok none else .error (badVariable name)

/-- What the environment gives. -/
def ofEnvironment (env : Environment) : Except Error Source := do
  let notebookCacheHours ← envNumber? env "CLINOTE_NOTEBOOK_CACHE_HOURS"
  let lockTimeoutMs ← envNumber? env "CLINOTE_LOCK_TIMEOUT_MS"
  let searchPageSize ← envNumber? env "CLINOTE_SEARCH_PAGE_SIZE"
  pure { notebookCacheHours, lockTimeoutMs, searchPageSize,
         dbFileName := env "CLINOTE_DB_FILE_NAME" }

/-! ## 2. The file -/

/-- The error about a file that is no configuration. -/
def badFile (reason : String) : Error := .config ("the configuration file " ++ reason)

/-- A field read by `read`, if it is there. -/
def field? (name : String) (read : Toml → Option α) (fields : List (String × Toml)) :
    Except Error (Option α) :=
  match Toml.lookup name fields with
  | none => .ok none
  | some value =>
    match read value with
    | some a => .ok (some a)
    | none => .error (badFile ("has no usable value for " ++ name))

/-- A number of 64 bits that is not negative. -/
def number? : Toml → Option UInt64
  | .integer n => if 0 ≤ n ∧ n < wordBound then some (UInt64.ofNat n.toNat) else none
  | _ => none

/-- A text. -/
def text? : Toml → Option String
  | .text s => some s
  | _ => none

/-- What a file with this content gives. -/
def ofFile (content : Bytes) : Except Error Source := do
  let some cs := Utf8.decode? content | .error (badFile "is no text")
  let some fields := Toml.parse? cs | .error (badFile "is malformed")
  let notebookCacheHours ← field? "notebook_cache_hours" number? fields
  let dbFileName ← field? "db_file_name" text? fields
  let lockTimeoutMs ← field? "lock_timeout_ms" number? fields
  let searchPageSize ← field? "search_page_size" number? fields
  pure { notebookCacheHours, dbFileName, lockTimeoutMs, searchPageSize }

/-- **The configuration** that the environment and a file give, if there is a file. -/
def load (env : Environment) (file : Option Bytes) : Except Error Config := do
  let fromEnv ← ofEnvironment env
  let fromFile ← match file with
    | some content => ofFile content
    | none => pure {}
  pure (ofSources fromEnv fromFile)

end Config
end Notekeeper
