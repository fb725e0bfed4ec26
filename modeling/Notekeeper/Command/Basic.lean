import Notekeeper.Remote.Call
import Notekeeper.Store.Transaction
/-!
# Commands

A command is a tree of effects: transactions on the store, calls to the remote service, texts
shown in the editor and looks at the clock.  Each node does one of them and goes on with what
came of it.  So a command is a value: it can be run on any store, with any answers, and its
transactions can be mixed with those of other commands.

* `Command.run` runs a command in surroundings that may differ at every tick.
-/

namespace Notekeeper

/-- **Effects to do one after another**, and the result they end in. -/
inductive Command (α : Type) : Type 1
  | done (result : Except Error α)
  /-- A transaction that only looks at the store. -/
  | view {β : Type} (tx : Transaction β) (next : Except Error β → Command α)
  /-- A transaction that changes the store if it ends well. -/
  | update {β : Type} (tx : Transaction β) (next : Except Error β → Command α)
  /-- A call to the remote service. -/
  | ask (call : RemoteCall) (next : Except Error call.Answer → Command α)
  /-- A text shown to the user in the editor. -/
  | edit (text : String) (next : Except Error String → Command α)
  /-- A look at the clock. -/
  | clock (next : Timestamp → Command α)

namespace Command

/-! ## 1. Building commands -/

/-- Goes on with the result of a command, unless it is an error. -/
def bind : Command α → (α → Command β) → Command β
  | done (.ok a), f => f a
  | done (.error e), _ => done (.error e)
  | view tx next, f => view tx fun r => (next r).bind f
  | update tx next, f => update tx fun r => (next r).bind f
  | ask call next, f => ask call fun r => (next r).bind f
  | edit text next, f => edit text fun r => (next r).bind f
  | clock next, f => clock fun t => (next t).bind f

instance : Monad Command where
  pure a := done (.ok a)
  bind := bind

/-- A command with its error as part of the result. -/
def attempt : Command α → Command (Except Error α)
  | done r => done (.ok r)
  | view tx next => view tx fun r => (next r).attempt
  | update tx next => update tx fun r => (next r).attempt
  | ask call next => ask call fun r => (next r).attempt
  | edit text next => edit text fun r => (next r).attempt
  | clock next => clock fun t => (next t).attempt

/-- Ends a command in an error. -/
def fail (e : Error) : Command α := done (.error e)

/-- A look at the store. -/
def viewed (tx : Transaction α) : Command α := view tx done

/-- A change of the store. -/
def updated (tx : Transaction α) : Command α := update tx done

/-- The answer to a call. -/
def asked (call : RemoteCall) : Command call.Answer := ask call done

/-- What the user makes of a text. -/
def edited (text : String) : Command String := edit text done

/-- The time. -/
def now : Command Timestamp := clock fun t => done (.ok t)

/-! ## 2. Running commands -/

/-- What a command meets at a point in time. -/
structure Surroundings where
  /-- How the remote service answers. -/
  remote : (call : RemoteCall) → Except Error call.Answer
  /-- What the user makes of a text. -/
  editor : String → Except Error String
  /-- What keeps the store from being written. -/
  fault : WriteFault
  /-- The time that the clock shows. -/
  now : ClockTime

/-- What others can see of a command: the calls with their answers, and the texts shown in the
editor with what became of them. -/
inductive Event
  | called (call : RemoteCall) (answer : Except Error call.Answer)
  | edited (text : String) (result : Except Error String)

/-- How a command ended. -/
structure Outcome (σ α : Type) where
  result : Except Error α
  /-- The store after the command. -/
  store : σ
  events : List Event
  /-- The tick after the last effect. -/
  tick : Nat

namespace Outcome

/-- An outcome with an event before all others. -/
def after (event : Event) (o : Outcome σ α) : Outcome σ α := { o with events := event :: o.events }

end Outcome

/-- **How a command ends** that starts at a tick with a store.  Every effect takes one tick and
meets the surroundings of that tick. -/
def run {σ : Type} [Backend σ] (world : Nat → Surroundings) :
    Command α → (tick : Nat) → σ → Outcome σ α
  | done result, tick, s => { result, store := s, events := [], tick }
  | view tx next, tick, s => (next (tx.view s)).run world (tick + 1) s
  | update tx next, tick, s =>
    match tx.update (world tick).fault s with
    | (reply, s') => (next reply).run world (tick + 1) s'
  | ask call next, tick, s =>
    let answer := (world tick).remote call
    ((next answer).run world (tick + 1) s).after (.called call answer)
  | edit text next, tick, s =>
    let result := (world tick).editor text
    ((next result).run world (tick + 1) s).after (.edited text result)
  | clock next, tick, s => (next (world tick).now.time).run world (tick + 1) s

end Command
end Notekeeper
