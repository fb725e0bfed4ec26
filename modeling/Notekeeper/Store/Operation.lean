import Notekeeper.Error
import Notekeeper.Text.Utf8
/-!
# Store operations

The store keeps byte strings under keys, and the keys in named buckets.  An operation asks for
one thing or changes one thing; the type of its reply hangs on the operation.
-/

namespace Notekeeper

/-- **One thing to do with the store.** -/
inductive StoreOp
  | hasBucket (bucket : String)
  | get (bucket : String) (key : Bytes)
  | createBucket (bucket : String)
  | put (bucket : String) (key value : Bytes)
  | delete (bucket : String) (key : Bytes)
  deriving DecidableEq

namespace StoreOp

/-- What an operation replies when it succeeds. -/
@[reducible] def Reply : StoreOp → Type
  | hasBucket _ => Bool
  | get _ _ => Option Bytes
  | createBucket _ | put _ _ _ | delete _ _ => Unit

/-- Whether an operation is meant to change the store. -/
def isWrite : StoreOp → Bool
  | hasBucket _ | get _ _ => false
  | createBucket _ | put _ _ _ | delete _ _ => true

end StoreOp

/-- What keeps the store from being written. -/
inductive WriteFault
  | none
  /-- Another process holds the store, so that no update can begin. -/
  | locked
  /-- Every operation that writes is refused. -/
  | refused
  deriving DecidableEq, Inhabited

namespace WriteFault

/-- The error about a store that another process holds. -/
def lockedError : Error := .storeLocked "database is locked"

/-- The error about a refused write. -/
def refusedError : Error := .store "Simulated write error"

end WriteFault

/-- **A kind of store**: a value that holds buckets of entries, and how operations read and change
it. -/
class Backend (σ : Type) where
  /-- The store without a bucket. -/
  empty : σ
  hasBucket : σ → String → Bool
  get : σ → String → Bytes → Option Bytes
  /-- A store that has the bucket. -/
  createBucket : σ → String → σ
  /-- A store with the value under the key; none when there is no such bucket. -/
  put : σ → String → Bytes → Bytes → Option σ
  /-- A store without the key. -/
  delete : σ → String → Bytes → σ

namespace Backend

variable {σ : Type} [Backend σ]

/-- The error about a missing bucket. -/
def noBucket (bucket : String) : Error := .store ("no bucket: " ++ bucket)

/-- **What an operation replies, and the store after it.** -/
def perform (fault : WriteFault) (op : StoreOp) (s : σ) : Except Error op.Reply × σ :=
  if op.isWrite ∧ fault = .refused then (.error WriteFault.refusedError, s)
  else match op with
    | .hasBucket bucket => (.ok (hasBucket s bucket), s)
    | .get bucket key => (.ok (get s bucket key), s)
    | .createBucket bucket => (.ok (), createBucket s bucket)
    | .put bucket key value =>
      match put s bucket key value with
      | some s' => (.ok (), s')
      | none => (.error (noBucket bucket), s)
    | .delete bucket key => (.ok (), delete s bucket key)

/-- A store with a value under a key, the bucket made if it is missing. -/
def plant (s : σ) (bucket : String) (key value : Bytes) : σ :=
  let s := createBucket s bucket
  (put s bucket key value).getD s

end Backend
end Notekeeper
