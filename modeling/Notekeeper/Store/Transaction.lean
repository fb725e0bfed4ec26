import Notekeeper.Store.Operation
/-!
# Transactions

A transaction is a tree of store operations: each node does one operation and goes on with its
reply, or with its error.  So what a transaction does is a value that can be run on any store.

* `view` shows a transaction the store and drops every change it makes.
* `update` keeps the changes exactly when the transaction ends well.
-/

namespace Notekeeper

/-- **Operations to do as one**, and the result they end in. -/
inductive Transaction (α : Type) : Type
  | done (result : Except Error α)
  | step (op : StoreOp) (next : Except Error op.Reply → Transaction α)

namespace Transaction

/-- Goes on with the result of a transaction, unless it is an error. -/
def bind : Transaction α → (α → Transaction β) → Transaction β
  | done (.ok a), f => f a
  | done (.error e), _ => done (.error e)
  | step op next, f => step op fun reply => (next reply).bind f

instance : Monad Transaction where
  pure a := done (.ok a)
  bind := bind

/-- Ends a transaction in an error. -/
def fail (e : Error) : Transaction α := done (.error e)

/-- One operation, whose error ends the transaction. -/
def perform (op : StoreOp) : Transaction op.Reply := step op done

/-- One operation, whose error is part of the result. -/
def attempt (op : StoreOp) : Transaction (Except Error op.Reply) :=
  step op fun reply => done (.ok reply)

/-- The result of a transaction, and the store as the transaction leaves it. -/
def run {σ : Type} [Backend σ] (fault : WriteFault) :
    Transaction α → σ → Except Error α × σ
  | done result, s => (result, s)
  | step op next, s =>
    match Backend.perform fault op s with
    | (reply, s') => (next reply).run fault s'

/-- **The result of a transaction that only looks at the store.** -/
def view {σ : Type} [Backend σ] (tx : Transaction α) (s : σ) : Except Error α := (tx.run .none s).1

/-- **The result of a transaction, and the store after it**: changed only if the transaction ends
well, and not at all while the store is locked. -/
def update {σ : Type} [Backend σ] (fault : WriteFault) (tx : Transaction α) (s : σ) :
    Except Error α × σ :=
  if fault = .locked then (.error WriteFault.lockedError, s)
  else match tx.run fault s with
    | (.ok a, s') => (.ok a, s')
    | (.error e, _) => (.error e, s)

/-- **The operations of a transaction in turn**, each with its reply. -/
def trace {σ : Type} [Backend σ] (fault : WriteFault) :
    Transaction α → σ → List (Σ op : StoreOp, Except Error op.Reply)
  | done _, _ => []
  | step op next, s =>
    match Backend.perform fault op s with
    | (reply, s') => ⟨op, reply⟩ :: (next reply).trace fault s'

/-- The transaction that does a list of operations and ends in `final`.  An error ends it early
unless it is to go on after errors. -/
def script (goOn : Bool) (final : Except Error Unit) : List StoreOp → Transaction Unit
  | [] => done final
  | op :: ops => step op fun reply =>
    match reply with
    | .ok _ => script goOn final ops
    | .error e => if goOn then script goOn final ops else done (.error e)

end Transaction
end Notekeeper
