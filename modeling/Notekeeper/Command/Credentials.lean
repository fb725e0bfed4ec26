import Notekeeper.Command.Records
import Notekeeper.Credential.List
/-!
# Credentials

Every change of the credential list reads and writes it in one transaction.  The store counts
credentials from zero, the user from one.
-/

namespace Notekeeper.Command

/-! ## 1. The list in the store -/

/-- The credential list in the store. -/
def loadCredentials : Transaction (List Credential) := return (← Slot.credentials.load).getD []

/-- Changes the credential list, in one transaction. -/
def changeCredentials (change : List Credential → Except Error (α × List Credential)) :
    Command α := updated do
  let (a, left) ← .done (change (← loadCredentials))
  Slot.credentials.store left
  pure a

/-- All credentials in the order in which they were added. -/
def credentials : Command (List Credential) := viewed loadCredentials

/-- Adds a credential behind the others. -/
def addCredential (c : Credential) : Command Unit :=
  changeCredentials fun cs => .ok ((), cs ++ [c])

/-- The credential at an index counted from zero. -/
def credentialAt (index : Int) : Command Credential := do
  let cs ← credentials
  match if index < 0 then none else cs[index.toNat]? with
  | some c => pure c
  | none => fail .indexOutOfRange

/-- Removes the first credential equal to the given one. -/
def removeCredential (c : Credential) : Command Unit :=
  changeCredentials fun cs => (CredentialList.removeFirst (· == c) cs).map ((), ·.2)

/-- Removes the first credential with this name. -/
def removeCredentialNamed (name : String) : Command Credential :=
  changeCredentials (CredentialList.removeFirst (·.name == name))

/-- Removes the credential at an index counted from zero. -/
def removeCredentialAt (index : Int) : Command Credential :=
  changeCredentials (CredentialList.removeAt index)

/-- Removes the credentials at several indices counted from zero, or none of them. -/
def removeCredentialsAt (indices : List Int) : Command (List Credential) :=
  changeCredentials (CredentialList.removeAll indices)

/-! ## 2. The list that the user sees -/

/-- The index counted from zero of a place that the user counts from one. -/
def storeIndex (place : Int64) : Except Error Int :=
  if place = Int64.minValue then .error .negativeIndex else .ok (place.toInt - 1)

/-- Removes the credential at a place. -/
def removePlace (place : Int64) : Command Credential := do
  removeCredentialAt (← done (storeIndex place))

/-- Removes the credentials at several places, or none of them. -/
def removePlaces (places : List Int64) : Command (List Credential) := do
  removeCredentialsAt (← done (places.mapM storeIndex))

/-- **Makes the credential at a place the one in use.** -/
def setActive (place : Int64) : Command Settings := do
  let credential ← credentialAt (← done (storeIndex place))
  let changed :=
    { ← settings with apiKey := credential.secret, credential := some credential }
  storeSettings changed
  pure changed

end Notekeeper.Command
