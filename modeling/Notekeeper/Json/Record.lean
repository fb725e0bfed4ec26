import Notekeeper.Json.Parser
import Notekeeper.Json.Printer
import Notekeeper.Text.Utf8
import Notekeeper.Time.Rfc3339
/-!
# Stored records

A record is a value that the store can hold: it has a JSON form, and its stored bytes are the
UTF-8 form of that, written compactly.
-/

namespace Notekeeper

/-- A kind of value with a JSON form. -/
class Record (α : Type) where
  toJson : α → Json
  ofJson? : Json → Option α

namespace Record

variable {α : Type} [Record α]

/-- The stored text of a record. -/
def write (a : α) : List Char := (toJson a).write

/-- **The stored bytes of a record.** -/
def encode (a : α) : Bytes := Utf8.encode (write a)

/-- **The record that a byte string stores.** -/
def decode? (bs : Bytes) : Option α := (Json.parse? (Utf8.symbols bs)).bind ofJson?

instance : Record Timestamp where
  toJson t := .text (String.ofList t.write)
  ofJson? j := j.string?.bind fun s => Timestamp.read? s.toList

instance : Record (List α) where
  toJson as := .array (as.map toJson)
  ofJson? := Json.list? ofJson?

instance : Record (Option α) where
  toJson
    | some a => toJson a
    | none => .null
  ofJson? := Json.nullable? ofJson?

end Record
end Notekeeper
