import Notekeeper.Json.Record
/-!
# Credentials and settings

A credential is a named secret for one of the two sites of the remote service.  Two credentials
with the same name, secret and site cannot be told apart.  The settings hold the key in use.
-/

namespace Notekeeper

/-- The site of the remote service that a credential is for. -/
inductive CredentialType
  | primary
  | sandbox
  deriving DecidableEq, Inhabited

namespace CredentialType

/-- The name under which a site is stored. -/
def name : CredentialType → String
  | primary => "Primary"
  | sandbox => "Sandbox"

/-- The name of a site that the user sees. -/
def title : CredentialType → String
  | primary => "Evernote"
  | sandbox => "Evernote Sandbox"

instance : Record CredentialType where
  toJson t := .text t.name
  ofJson? j := j.choice?.bind fun s => [primary, sandbox].find? (·.name = s)

end CredentialType

/-- **A named secret.** -/
structure Credential where
  name : String
  secret : String
  credType : CredentialType := .primary
  deriving DecidableEq, Inhabited

instance : Record Credential where
  toJson c := .record [("name", .text c.name), ("secret", .text c.secret),
    ("cred_type", Record.toJson c.credType)]
  ofJson? j := do
    let [name, secret, credType] ← j.fields? true [["name"], ["secret"], ["cred_type"]] | none
    let name ← Json.required Json.string? name
    let secret ← Json.required Json.string? secret
    let credType ← Json.optional .primary Record.ofJson? credType
    some { name, secret, credType }

/-- **The settings of the user.** -/
structure Settings where
  /-- The key of the session in use. -/
  apiKey : String := ""
  /-- The credential that the key was taken from, if it was taken from one. -/
  credential : Option Credential := none
  deriving DecidableEq, Inhabited

/-- The key also goes by an older field name. -/
instance : Record Settings where
  toJson s := .record [("api_key", .text s.apiKey), ("credential", Record.toJson s.credential)]
  ofJson? j := do
    let [apiKey, credential] ← j.fields? true [["api_key", "APIKey"], ["credential"]] | none
    let apiKey ← Json.optional "" Json.string? apiKey
    let credential ← Json.optional none Record.ofJson? credential
    some { apiKey, credential }

end Notekeeper
