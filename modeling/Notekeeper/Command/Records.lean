import Notekeeper.Command.Basic
import Notekeeper.Note
import Notekeeper.Notebook.Cache
import Notekeeper.Store.Schema
/-!
# Reading and writing records

Each command here reads or writes one record.  Reading from a bucket that is missing makes the
bucket and finds nothing.
-/

namespace Notekeeper.Command

/-- **The record in a slot**, if there is one. -/
def loadRecord {α : Type} [Record α] (slot : Slot) : Command (Option α) := do
  let found ← viewed do
    if ← .perform (.hasBucket slot.bucket) then some <$> slot.load else pure none
  match found with
  | some record => pure record
  | none =>
    updated (.perform (.createBucket slot.bucket))
    pure none

/-- **Puts a record into a slot.** -/
def storeRecord {α : Type} [Record α] (slot : Slot) (a : α) : Command Unit :=
  updated (slot.store a)

/-- The settings, the default ones if there are none. -/
def settings : Command Settings := return (← loadRecord .settings).getD {}

/-- Replaces the settings. -/
def storeSettings (s : Settings) : Command Unit := storeRecord .settings s

/-- The cached notebook list. -/
def notebookCache : Command (Option NotebookCache) := loadRecord .notebooks

/-- Replaces the cached notebook list. -/
def storeNotebookCache (cache : NotebookCache) : Command Unit := storeRecord .notebooks cache

/-- The notes that the last search found. -/
def lastSearch : Command (List Note) := return (← loadRecord .search).getD []

/-- Replaces the notes that the last search found. -/
def storeSearch (notes : List Note) : Command Unit := storeRecord .search notes

/-- The note whose edit could not be sent. -/
def recoveryPoint : Command (Option Note) := loadRecord .recovery

/-- Replaces the note whose edit could not be sent. -/
def storeRecoveryPoint (note : Note) : Command Unit := storeRecord .recovery note

/-- Forgets the note whose edit could not be sent. -/
def clearRecoveryPoint : Command Unit := updated do
  .perform (.createBucket Slot.recovery.bucket)
  .perform (.delete Slot.recovery.bucket Slot.recovery.key)

/-- The version of the store's schema. -/
def schemaVersion : Command UInt64 := viewed Schema.version

/-- **Brings the store up to date.**  The version is looked at first, so that a store that is up to
date is not written. -/
def upgradeStore : Command UInt64 := do
  let found ← viewed Schema.version
  if Schema.current ≤ found then pure found else updated Schema.upgrade

end Notekeeper.Command
