import Notekeeper.Command.Credentials
import Notekeeper.Command.Editing
/-!
# The client

A client is what a front end works with: a configuration, options and a codec.  Everything a front
end can ask of it is an operation, and each operation is a command.

* `Client.perform` says what each operation does.
-/

namespace Notekeeper

/-- **A client.** -/
structure Client where
  config : Config
  options : ClientOptions
  codec : Codec

/-- **What a front end can ask of a client.** -/
inductive Operation
  | notebooks (forceSync : Bool)
  | findNotebook (name : String)
  | notebook (guid : String)
  | createNotebook (notebook : Notebook) (makeDefault : Bool)
  | updateNotebook (name : String) (patch : NotebookPatch)
  | findNotes (filter : NoteFilter) (offset count : Nat)
  | note (title : String) (notebook : Option String)
  | noteWithContent (title : String)
  | editNote (title : String) (opts : EditOptions)
  | createNoteInEditor (title : Option String) (raw : Bool)
  | saveNewNote (note : Note) (raw : Bool)
  | changeTitle (old new : String)
  | moveNote (title notebook : String)
  | deleteNote (title : String) (notebook : Option String)
  | recoveryPoint
  | credentials
  | addCredential (name secret : String)
  | removeCredentialNamed (name : String)
  /-- Places are counted from one. -/
  | removeCredentials (places : List Int64)
  | setActiveCredential (place : Int64)
  | settings
  | storeSettings (settings : Settings)
  deriving DecidableEq

namespace Operation

/-- What an operation gives when it succeeds. -/
@[reducible] def Answer : Operation → Type
  | notebooks _ => List Notebook
  | findNotebook _ | notebook _ | updateNotebook _ _ => Notebook
  | createNotebook _ _ | addCredential _ _ | storeSettings _ => Unit
  | findNotes _ _ _ => List Note
  | note _ _ | noteWithContent _ | createNoteInEditor _ _ | saveNewNote _ _ | changeTitle _ _
  | moveNote _ _ | deleteNote _ _ => Note
  | editNote _ _ => EditOutcome
  | recoveryPoint => Option Note
  | credentials | removeCredentials _ => List Credential
  | removeCredentialNamed _ => Credential
  | setActiveCredential _ | settings => Settings

end Operation

namespace Client

/-- The site that new credentials are for. -/
def credentialType (c : Client) : CredentialType :=
  if c.options.sandbox then .sandbox else .primary

/-- The command that removes credentials: a single one is looked up by equality. -/
def removeCredentials : List Int64 → Command (List Credential)
  | [place] => return [← Command.removePlace place]
  | places => Command.removePlaces places

/-- **The command that an operation is.** -/
def perform (c : Client) : (op : Operation) → Command op.Answer
  | .notebooks forceSync => Command.notebooks c.config forceSync
  | .findNotebook name => Command.findNotebook c.config name
  | .notebook guid => Command.asked (.notebook guid)
  | .createNotebook notebook makeDefault => Command.asked (.createNotebook notebook makeDefault)
  | .updateNotebook name patch => Command.updateNotebook c.config name patch
  | .findNotes filter offset count => Command.findNotes filter offset count
  | .note title notebook => Command.note c.config title notebook
  | .noteWithContent title => Command.noteWithContent c.codec c.config title
  | .editNote title opts => Command.editNote c.codec c.config title opts
  | .createNoteInEditor title raw => Command.createNoteInEditor c.codec title raw
  | .saveNewNote note raw => Command.saveNewNote c.codec note raw
  | .changeTitle old new => Command.changeTitle c.config old new
  | .moveNote title notebook => Command.moveNote c.config title notebook
  | .deleteNote title notebook => Command.deleteNote c.config title notebook
  | .recoveryPoint => Command.recoveryPoint
  | .credentials => Command.credentials
  | .addCredential name secret =>
    Command.addCredential { name, secret, credType := c.credentialType }
  | .removeCredentialNamed name => Command.removeCredentialNamed name
  | .removeCredentials places => removeCredentials places
  | .setActiveCredential place => Command.setActive place
  | .settings => Command.settings
  | .storeSettings settings => Command.storeSettings settings

end Client
end Notekeeper
