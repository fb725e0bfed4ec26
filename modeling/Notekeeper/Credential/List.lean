import Notekeeper.Credential
import Notekeeper.Error
/-!
# Lists of credentials

Credentials are kept in the order in which they were added.  They are taken out by position, by
name or by equality; several positions are taken out together or not at all.
-/

namespace Notekeeper.CredentialList

/-! ## 1. Taking out one -/

/-- The first item for which `p` holds, and the list without it. -/
def takeFirst? (p : α → Bool) : List α → Option (α × List α)
  | [] => none
  | a :: rest =>
    if p a then some (a, rest) else (takeFirst? p rest).map fun (b, left) => (b, a :: left)

/-- The item at a position, and the list without it. -/
def takeAt? : (position : Nat) → List α → Option (α × List α)
  | _, [] => none
  | 0, a :: rest => some (a, rest)
  | position + 1, a :: rest =>
    (takeAt? position rest).map fun (b, left) => (b, a :: left)

/-- The first credential for which `p` holds, and the list without it. -/
def removeFirst (p : Credential → Bool) (cs : List Credential) :
    Except Error (Credential × List Credential) :=
  match takeFirst? p cs with
  | some found => .ok found
  | none => .error .noMatchingCredential

/-- An index counted from zero as a position within a length. -/
def position (index : Int) (length : Nat) : Except Error Nat :=
  if index < 0 then .error .negativeIndex
  else if length ≤ index.toNat then .error .indexTooBig
  else .ok index.toNat

/-- The credential at an index, and the list without the first credential equal to it. -/
def removeAt (index : Int) (cs : List Credential) :
    Except Error (Credential × List Credential) := do
  let i ← position index cs.length
  match cs[i]? with
  | some target => removeFirst (· == target) cs
  | none => .error .indexTooBig

/-! ## 2. Taking out several -/

/-- A number put into an ascending list, unless it is there. -/
def insertAscending (i : Int) : List Int → List Int
  | [] => [i]
  | j :: rest =>
    if i < j then i :: j :: rest
    else if i = j then j :: rest
    else j :: insertAscending i rest

/-- The numbers of a list in ascending order, each once. -/
def ascending (is : List Int) : List Int := is.foldr insertAscending []

/-- The items at ascending positions, front to back, and the list without them.  A position is
one of the list before anything was taken out, of which `taken` items are gone. -/
def takeAll? (taken : Nat) : (positions : List Nat) → List α → Option (List α × List α)
  | [], as => some ([], as)
  | i :: rest, as => do
    let (a, left) ← takeAt? (i - taken) as
    let (found, left) ← takeAll? (taken + 1) rest left
    some (a :: found, left)

/-- **The credentials at some indices, and the list without them.**  An index may be given more
than once; a single bad one makes the whole fail. -/
def removeAll (indices : List Int) (cs : List Credential) :
    Except Error (List Credential × List Credential) := do
  let positions ← (ascending indices).mapM (position · cs.length)
  match takeAll? 0 positions cs with
  | some found => .ok found
  | none => .error .indexTooBig

end Notekeeper.CredentialList
