import Notekeeper.Json.Record
import Notekeeper.Store.Transaction
/-!
# The records of the store

Everything that is kept has one place of its own, a slot: a key in one of three buckets.  All
slots but the schema version hold a record.

* `Slot.load` tells a missing record from one that cannot be read: the latter is an error.
-/

namespace Notekeeper

/-- **The places of the store.** -/
inductive Slot
  | schemaVersion
  | settings
  | credentials
  /-- The cached notebook list. -/
  | notebooks
  /-- The notes that the last search found. -/
  | search
  /-- The note whose edit could not be sent. -/
  | recovery
  deriving DecidableEq

namespace Slot

/-- All slots. -/
def all : List Slot := [schemaVersion, settings, credentials, notebooks, search, recovery]

/-- The bucket of a slot. -/
def bucket : Slot → String
  | schemaVersion => "db_data"
  | settings | credentials => "settings"
  | notebooks | search | recovery => "cache"

/-- The key of a slot within its bucket. -/
def name : Slot → String
  | schemaVersion => "dbVersion"
  | settings => "user_settings"
  | credentials => "user_credentials"
  | notebooks => "notebook_cache"
  | search => "note_search_cache"
  | recovery => "note_recover_cache"

/-- The key of a slot as bytes. -/
def key (slot : Slot) : Bytes := Utf8.ofString slot.name

/-- The error about a slot whose content cannot be read. -/
def corrupt (slot : Slot) (reason : String) : Error :=
  .corruptRecord slot.bucket slot.name reason

/-- The bytes in a slot. -/
def bytes (slot : Slot) : Transaction (Option Bytes) :=
  .perform (.get slot.bucket slot.key)

/-- Puts bytes into a slot, its bucket made if it is missing. -/
def setBytes (slot : Slot) (bs : Bytes) : Transaction Unit := do
  .perform (.createBucket slot.bucket)
  .perform (.put slot.bucket slot.key bs)

/-- The record that bytes from a slot hold. -/
def decode {α : Type} [Record α] (slot : Slot) (bs : Bytes) : Except Error α :=
  match Record.decode? bs with
  | some a => .ok a
  | none => .error (slot.corrupt "not a record of this kind")

/-- **The record in a slot**, if there is one. -/
def load {α : Type} [Record α] (slot : Slot) : Transaction (Option α) := do
  match ← slot.bytes with
  | none => pure none
  | some bs => some <$> .done (slot.decode bs)

/-- **Puts a record into a slot.** -/
def store {α : Type} [Record α] (slot : Slot) (a : α) : Transaction Unit :=
  slot.setBytes (Record.encode a)

end Slot

/-- What a store holds in its slots: the buckets there are, each with its keys. -/
def slotContents {σ : Type} [Backend σ] (s : σ) : List (String × List (String × Bytes)) :=
  let buckets := ["db_data", "settings", "cache"].filter (Backend.hasBucket s)
  buckets.map fun bucket => (bucket, (Slot.all.filter (·.bucket = bucket)).filterMap fun slot =>
    (Backend.get s slot.bucket slot.key).map (slot.name, ·))

end Notekeeper
