import Notekeeper.Files
import Notekeeper.Config.Source
import Notekeeper.Editor.Program
/-!
# Editors

An editor takes a text and gives back what the user made of it.  An external editor is a program
that is run on a file holding the text; the file is removed afterwards, whatever came of it.
-/

namespace Notekeeper

/-- **An editor with fixed answers.** -/
inductive ScriptedEditor
  | unchanged
  | reply (text : String)
  | append (text : String)
  | crash

namespace ScriptedEditor

/-- What the editor makes of a text. -/
def edit : ScriptedEditor → String → Except Error String
  | unchanged, text => .ok text
  | reply answer, _ => .ok answer
  | append more, text => .ok (text ++ more)
  | crash, _ => .error (.editor "editor crashed")

end ScriptedEditor

namespace Editor

/-- The command of the editor that a user may ask for by name. -/
def vimCommand : String := "vim"

/-- **The command of the user's editor**: the first of two settings that is not blank. -/
def command (editor visual : Option String) : Except Error String :=
  match (editor.filter (!Text.isAllBlank ·)).or (visual.filter (!Text.isAllBlank ·)) with
  | some command => .ok command
  | none => .error .noEditorFound

/-- The error about an editor that cannot be started. -/
def launchFailed (command : String) (e : Program.LaunchError) : Error :=
  .editor ("failed to launch '" ++ command ++ "': " ++ e.message)

/-- The error about an editor that ended badly. -/
def endedBadly (command : String) (code : Nat) : Error :=
  .editor ("'" ++ command ++ "' exited with exit status: " ++ String.ofList (Text.decimal code))

/-- The error about a file that is no text. -/
def noText : Error := .io "stream did not contain valid UTF-8"

/-- What an external editor makes of a text. -/
structure Session where
  result : Except Error String
  /-- The number of files left behind. -/
  filesLeft : Nat

/-- **What an external editor makes of a text**, its file being in a folder that can be used. -/
def runOn (env : Environment) (command text : String) : Session :=
  match Text.words command with
  | [] => ⟨.error .noEditorFound, 0⟩
  | program :: args =>
    match Program.launch (env "PATH") program args with
    | .error e => ⟨.error (launchFailed command e), 0⟩
    | .ok tool =>
      let r := tool.run args (Utf8.ofString text)
      let result :=
        if r.code ≠ 0 then .error (endedBadly command r.code)
        else match r.file with
          | none => .error FileTree.notFound
          | some bs =>
            match Utf8.text? bs with
            | some text => .ok text
            | none => .error noText
      ⟨result, r.madeBeside⟩

/-- What an external editor makes of a text in a folder, which is made if it is missing. -/
def external (t : FileTree) (folder : Path) (env : Environment) (command text : String) :
    Session :=
  match t.makeFolder folder with
  | .ok _ => runOn env command text
  | .error e => ⟨.error e, 0⟩

/-- What the user's editor makes of a text. -/
def ofEnvironment (t : FileTree) (folder : Path) (env : Environment) (text : String) : Session :=
  match command (env "EDITOR") (env "VISUAL") with
  | .ok command => external t folder env command text
  | .error e => ⟨.error e, 0⟩

end Editor
end Notekeeper
