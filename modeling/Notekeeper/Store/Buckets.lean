import Notekeeper.Store.Entries
import Notekeeper.Store.Operation
/-!
# Nested maps as a store

Each bucket is a map of its own.
-/

namespace Notekeeper

/-- **A store of nested maps.** -/
structure Buckets where
  buckets : List (String × List (Bytes × Bytes))
  deriving DecidableEq, Inhabited

namespace Buckets

/-- The entries of a bucket. -/
def entries? (s : Buckets) (bucket : String) : Option (List (Bytes × Bytes)) :=
  Entries.get? bucket s.buckets

/-- The store with these entries in a bucket. -/
def withEntries (s : Buckets) (bucket : String) (es : List (Bytes × Bytes)) : Buckets :=
  ⟨Entries.set bucket es s.buckets⟩

instance : Backend Buckets where
  empty := ⟨[]⟩
  hasBucket s bucket := (s.entries? bucket).isSome
  get s bucket key := (s.entries? bucket).bind (Entries.get? key)
  createBucket s bucket :=
    match s.entries? bucket with
    | some _ => s
    | none => s.withEntries bucket []
  put s bucket key value :=
    (s.entries? bucket).map fun es => s.withEntries bucket (Entries.set key value es)
  delete s bucket key :=
    match s.entries? bucket with
    | some es => s.withEntries bucket (Entries.erase key es)
    | none => s

end Buckets
end Notekeeper
