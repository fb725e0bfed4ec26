import Notekeeper.Store.Operation
/-!
# Two tables as a store

One table lists the buckets, the other one has a row for each entry, under its bucket and key.
-/

namespace Notekeeper

/-- A row of the table of entries. -/
structure Row where
  bucket : String
  key : Bytes
  value : Bytes
  deriving DecidableEq

/-- **A store of two tables.** -/
structure Tables where
  buckets : List String
  rows : List Row
  deriving DecidableEq, Inhabited

namespace Tables

/-- Whether a row is the one for a key of a bucket. -/
def isFor (bucket : String) (key : Bytes) (r : Row) : Bool := r.bucket == bucket && r.key == key

/-- The rows but the one for a key of a bucket. -/
def without (rows : List Row) (bucket : String) (key : Bytes) : List Row :=
  rows.filter fun r => !isFor bucket key r

instance : Backend Tables where
  empty := ⟨[], []⟩
  hasBucket s bucket := s.buckets.contains bucket
  get s bucket key := (s.rows.find? (isFor bucket key)).map (·.value)
  createBucket s bucket :=
    if s.buckets.contains bucket then s else { s with buckets := s.buckets ++ [bucket] }
  put s bucket key value :=
    if s.buckets.contains bucket then
      some { s with rows := without s.rows bucket key ++ [⟨bucket, key, value⟩] }
    else none
  delete s bucket key := { s with rows := without s.rows bucket key }

end Tables
end Notekeeper
