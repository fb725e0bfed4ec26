import Notekeeper.Command.Records
import Notekeeper.Config
/-!
# Notebooks

The notebook list comes from its cached copy while that is fresh and not empty; otherwise the
remote service is asked, and its answer takes the place of the copy.
-/

namespace Notekeeper.Command

/-- **The notebook list.** -/
def notebooks (config : Config) (forceSync : Bool) : Command (List Notebook) := do
  let cached := (← notebookCache).getD .empty
  let usable ←
    if forceSync then pure false
    else do
      let time ← now
      pure (!cached.isOutdatedAt time && !cached.notebooks.isEmpty)
  if usable then pure cached.notebooks
  else
    let notebooks ← asked .allNotebooks
    let time ← now
    storeNotebookCache { notebooks, timestamp := time, limit := config.notebookCacheLimit }
    pure notebooks

/-- The first notebook of the list that has this name. -/
def findNotebook (config : Config) (name : String) : Command Notebook := do
  match (← notebooks config false).find? (·.name = name) with
  | some nb => pure nb
  | none => fail .noNotebookFound

/-- **Changes a notebook** at the remote service and in the cached list, whose age stays. -/
def updateNotebook (config : Config) (name : String) (patch : NotebookPatch) :
    Command Notebook := do
  let nb := (← findNotebook config name).patch patch
  asked (.updateNotebook nb)
  if let some cached ← notebookCache then
    if let some changed := NotebookCache.replaceFirst? nb.guid name nb cached.notebooks then
      storeNotebookCache { cached with notebooks := changed }
  pure nb

end Notekeeper.Command
