import Notekeeper.Time.Duration
/-!
# Configuration

The settings that are fixed when a client is built, with their defaults, and the options that a
front end gives.
-/

namespace Notekeeper

/-- **The configuration of a client.** -/
structure Config where
  /-- Hours for which a cached notebook list stays fresh. -/
  notebookCacheHours : UInt64 := 24
  /-- The file name of the store within the configuration folder. -/
  dbFileName : String := "clinote.db"
  /-- Milliseconds to wait for a store that another process holds. -/
  lockTimeoutMs : UInt64 := 5000
  /-- The number of notes asked for when a note is looked up by title. -/
  searchPageSize : UInt64 := 20
  deriving DecidableEq, Inhabited

namespace Config

/-- The time for which a cached notebook list stays fresh. -/
def notebookCacheLimit (c : Config) : Duration := .ofHours c.notebookCacheHours

/-- The time to wait for a store that another process holds. -/
def lockTimeout (c : Config) : Duration := .ofMillis c.lockTimeoutMs

end Config

/-- The options of a front end. -/
structure ClientOptions where
  /-- Use the sandbox site of the remote service. -/
  sandbox : Bool := false
  /-- Edit with vim whatever editor the user has set. -/
  vimEditor : Bool := false
  deriving DecidableEq, Inhabited

/-- The options of one edit. -/
structure EditOptions where
  /-- Edit the markup itself. -/
  raw : Bool := false
  /-- Start from the note whose last edit could not be sent. -/
  recover : Bool := false
  deriving DecidableEq, Inhabited

end Notekeeper
