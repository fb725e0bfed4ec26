import Notekeeper.Editor.Program.Copy
import Notekeeper.Editor.Program.Mode
import Notekeeper.Editor.Program.Remove
import Notekeeper.Editor.Program.Truncate
import Notekeeper.Editor.StreamEdit
/-!
# Programs as editors

What programs do that are run on a file in place of an editor: programs that do nothing, cut the
file, change it by a script, overwrite it, remove it or change who may use it.
-/

namespace Notekeeper.Program

/-- **What a program does to a file**, whose path follows the arguments. -/
def Tool.run (t : Tool) (args : List String) (file : Bytes) : ProgramResult :=
  let args := args ++ [notePath]
  match t with
  | .succeed => .left file
  | .fail => .endedEarly failure file
  | .truncate => Truncate.run args file
  | .streamEdit => StreamEdit.run args file
  | .remove => Remove.run args file
  | .copy => Copy.run args file
  | .changeMode => Mode.run args file

end Notekeeper.Program
