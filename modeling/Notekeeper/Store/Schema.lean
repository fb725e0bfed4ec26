import Notekeeper.Credential
import Notekeeper.Store.Slot
import Notekeeper.Store.Varint
/-!
# The schema of the store

The store says which version its layout has; a new store says nothing and has version zero.
Version one keeps credentials in a list, into which the key of the session in use is taken over
when an older store is brought up to date.  That happens in one transaction with the new version.
-/

namespace Notekeeper.Schema

/-- The newest version. -/
def current : UInt64 := 1

/-- The name of the credential made from the session key of an older store. -/
def migratedName : String := "OAuth"

/-- The error about a version that is no number. -/
def badVersion : Error := Slot.schemaVersion.corrupt "invalid schema version varint"

/-- The version that bytes from the slot stand for. -/
def decodeVersion (bs : Bytes) : Except Error UInt64 :=
  match Varint.decode? bs with
  | some v => .ok v
  | none => .error badVersion

/-- The version of the store. -/
def version : Transaction UInt64 := do
  match ← Slot.schemaVersion.bytes with
  | none => pure 0
  | some bs => .done (decodeVersion bs)

/-- Writes the version of the store. -/
def setVersion (v : UInt64) : Transaction Unit := Slot.schemaVersion.setBytes (Varint.encode v)

/-- The credential that stands for a session key. -/
def migrated (apiKey : String) : Credential :=
  { name := migratedName, secret := apiKey, credType := .primary }

/-- Takes the session key over into the credential list, unless it is there already. -/
def migrateKey : Transaction Unit := do
  if ← .perform (.hasBucket Slot.settings.bucket) then
    let some (settings : Settings) ← Slot.settings.load | pure ()
    if settings.apiKey ≠ "" then
      let credential := migrated settings.apiKey
      let credentials : List Credential := (← Slot.credentials.load).getD []
      unless credentials.contains credential do
        Slot.credentials.store (credentials ++ [credential])

/-- Brings the store up to date, unless another process has done so. -/
def upgrade : Transaction UInt64 := do
  let found ← version
  if current ≤ found then pure found
  else
    migrateKey
    setVersion current
    pure current

end Notekeeper.Schema
