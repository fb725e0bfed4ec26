import Notekeeper.Fingerprint.Blake3
import Notekeeper.Json.Record
/-!
# Fingerprints

A fingerprint stands for a byte string: two byte strings with different fingerprints differ.  It
is only ever compared.
-/

namespace Notekeeper

/-- **A fingerprint**: the 32 bytes of a hash. -/
structure Fingerprint where
  bytes : Bytes
  length_bytes : bytes.length = 32
  deriving DecidableEq

namespace Fingerprint

/-- The fingerprint of a byte string. -/
def ofBytes (bs : Bytes) : Fingerprint := ⟨Blake3.hash bs, Blake3.length_hash bs⟩

/-- The fingerprint of a text. -/
def ofText (s : String) : Fingerprint := ofBytes (Utf8.ofString s)

/-- The fingerprint with these bytes, when there are 32. -/
def of? (bs : Bytes) : Option Fingerprint :=
  if h : bs.length = 32 then some ⟨bs, h⟩ else none

/-- The fingerprint in hexadecimal. -/
def hex (f : Fingerprint) : String := Text.hex f.bytes

instance : Record Fingerprint where
  toJson f := .array (f.bytes.map fun b => .natural b.toNat)
  ofJson? j := do
    let numbers ← j.list? (Json.below? 256)
    of? (numbers.map UInt8.ofNat)

end Fingerprint
end Notekeeper
