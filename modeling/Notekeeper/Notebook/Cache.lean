import Notekeeper.Notebook
import Notekeeper.Time.Duration
/-!
# The cached notebook list

A copy of the user's notebook list that may be used for a limited time after it was taken.  A
list exactly as old as its limit is still fresh.
-/

namespace Notekeeper

/-- **A notebook list with the time it was taken and the time it stays fresh.** -/
structure NotebookCache where
  notebooks : List Notebook
  timestamp : Timestamp
  limit : Duration
  deriving DecidableEq

namespace NotebookCache

/-- The time a list stays fresh unless told otherwise: a day. -/
def defaultLimit : Duration := .ofSeconds 86400

/-- The list that stands for a list never taken: empty, and outdated at any time since 1970. -/
def empty : NotebookCache where
  notebooks := []
  timestamp := .epoch
  limit := .zero

/-- Whether a list may no longer be used at the time `now`. -/
def isOutdatedAt (cache : NotebookCache) (now : Timestamp) : Bool :=
  cache.limit.exceededBetween cache.timestamp now

/-- The notebooks with the first one that has this identifier and name replaced; none when there
is no such notebook. -/
def replaceFirst? (guid name : String) (new : Notebook) : List Notebook → Option (List Notebook)
  | [] => none
  | nb :: rest =>
    if nb.guid = guid ∧ nb.name = name then some (new :: rest)
    else (replaceFirst? guid name new rest).map (nb :: ·)

instance : Record NotebookCache where
  toJson c := .record [("notebooks", Record.toJson c.notebooks),
    ("timestamp", Record.toJson c.timestamp), ("limit", Record.toJson c.limit)]
  ofJson? j := do
    let [notebooks, timestamp, limit] ←
      j.fields? true [["notebooks"], ["timestamp"], ["limit"]] | none
    let notebooks ← Json.required Record.ofJson? notebooks
    let timestamp ← Json.required Record.ofJson? timestamp
    let limit ← Json.required Record.ofJson? limit
    some { notebooks, timestamp, limit }

end NotebookCache
end Notekeeper
