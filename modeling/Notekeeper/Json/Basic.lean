/-!
# JSON values

The values that a stored record is written as and read from.  No record has a number that is not
written as digits alone, nor a text with a character that is half of a pair or no character at
all; a field that no record knows may hold either, so both have a place here without a content.
-/

namespace Notekeeper

/-- **A JSON value.** -/
inductive Json
  | null
  | bool (b : Bool)
  /-- A number written as digits alone. -/
  | natural (n : Nat)
  /-- A number with a sign, a fraction or an exponent. -/
  | otherNumber
  | text (s : String)
  /-- A text that is no sequence of characters. -/
  | brokenText
  | array (items : List Json)
  /-- Fields in the order written; none stands for a name that is no sequence of characters. -/
  | object (fields : List (Option String × Json))
  deriving Inhabited

namespace Json

/-- An object of named fields. -/
def record (fields : List (String × Json)) : Json :=
  object (fields.map fun (name, value) => (some name, value))

/-- The value of the only field with one of these names: none inside when there is no such field,
none when there are two. -/
def field? (names : List String) (fields : List (Option String × Json)) : Option (Option Json) :=
  match fields.filter fun f => f.1.any names.contains with
  | [] => some none
  | [f] => some (some f.2)
  | _ => none

/-- **The fields of a structured value**, one for each of the `names` (a field may go by several).
An object gives each field at most once, under a well-formed name; other fields are passed over
when `open?` allows them.  An array gives them by position, and may stop early. -/
def fields? (open? : Bool) (names : List (List String)) : Json → Option (List (Option Json))
  | object fields =>
    if fields.all fun f => f.1.any fun name => open? || names.any (·.contains name) then
      names.mapM (field? · fields)
    else none
  | array items =>
    if items.length ≤ names.length then
      some (items.map some ++ List.replicate (names.length - items.length) none)
    else none
  | _ => none

/-- The name of a choice without content: a text, or an object with that one field, null. -/
def choice? : Json → Option String
  | text s => some s
  | object [(some name, null)] => some name
  | _ => none

/-- A text. -/
def string? : Json → Option String
  | text s => some s
  | _ => none

/-- A truth value. -/
def bool? : Json → Option Bool
  | bool b => some b
  | _ => none

/-- A number below a bound. -/
def below? (bound : Nat) : Json → Option Nat
  | natural n => if n < bound then some n else none
  | _ => none

/-- A list of values, each read by `read`. -/
def list? (read : Json → Option α) : Json → Option (List α)
  | array items => items.mapM read
  | _ => none

/-- A value read by `read`, or null. -/
def nullable? (read : Json → Option α) : Json → Option (Option α)
  | null => some none
  | j => (read j).map some

/-- The value of a field that must be there. -/
def required (read : Json → Option α) : Option Json → Option α
  | some j => read j
  | none => none

/-- The value of a field, `default` when it is not there. -/
def optional (default : α) (read : Json → Option α) : Option Json → Option α
  | some j => read j
  | none => some default

end Json
end Notekeeper
