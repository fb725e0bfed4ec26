import Mathlib.Data.List.Induction
import Mathlib.Logic.Function.Basic
import Notekeeper.Proofs.History

/-!
# Callers that share a store

Several callers work on one store at the same time.  Each makes its calls one after another, and in
a turn it does the next effect of its call: one whole transaction, one call to the remote service,
one look at the clock.  Any caller may take the next turn, so every mixture of their effects is a
list of turns.

A command is a tree of effects, and so a turn needs no more than its root: what is left of the
command is the branch that the effect has chosen.  A transaction is not cut up, since a store lets
one caller at a time change it and a look at it sees one state of it.  Each turn brings its own
surroundings, because what others answer, and whether the store can be written, may change from one
effect to the next.

Turns and histories tell of the same commands.  A caller that takes every turn goes through the
history of its calls and gets the same replies (`Caller.exists_advances_history`).  So what the
modules on shared stores say of orders of calls, each made whole, is said in terms of histories.

* `Command.advance` : what one turn does to a command.
* `Command.advance_bind`, `Command.advance_loadRecord_bind` : the turns of commands in sequence.
* `Caller.advance`, `Crowd.step` : what one turn does to a caller, and to a crowd of them.
* `Crowd.after` : the callers and the store after some turns.
* `Caller.exists_advances_history` : a caller that takes every turn goes through a history.
-/

namespace Notekeeper

open Command

variable {σ : Type} [Backend σ]

/-! ## 1. One effect

A command that is done stays as it is when it gets a turn. -/

namespace Command

variable {α β : Type}

/-- **What one turn does to a command**: its first effect, in these surroundings.  What is left of
the command is a command again. -/
def advance (w : Surroundings) : Command α → σ → Command α × σ
  | done result, s => (done result, s)
  | view tx next, s => (next (tx.view s), s)
  | update tx next, s => (next (tx.update w.fault s).1, (tx.update w.fault s).2)
  | ask call next, s => (next (w.remote call), s)
  | edit text next, s => (next (w.editor text), s)
  | clock next, s => (next w.now.time, s)

/-- The result of a command that has nothing left to do. -/
def ended? : Command α → Option (Except Error α)
  | done result => some result
  | view _ _ | update _ _ | ask _ _ | edit _ _ | clock _ => none

/-- The call that a command makes next, if it makes one. -/
def asks? : Command α → Option RemoteCall
  | ask call _ => some call
  | done _ | view _ _ | update _ _ | edit _ _ | clock _ => none

/-- **A command reports what is left of it** after its first effect. -/
theorem report_advance {w : Surroundings} {c : Command α} {s : σ} (tick : Nat) :
    let left := (c.advance w s).1.report (fun _ => w) (tick + 1) (c.advance w s).2
    (c.report (fun _ => w) tick s).result = left.result
      ∧ (c.report (fun _ => w) tick s).store = left.store := by
  cases c with
  | done _ | view _ _ | update _ _ | ask _ _ | edit _ _ | clock _ => exact ⟨rfl, rfl⟩

/-- A turn of two commands is one of the first, unless that has nothing to do. -/
theorem advance_bind {c : Command α} (h : c.ended? = none) (f : α → Command β)
    (w : Surroundings) (s : σ) :
    (c >>= f).advance w s = ((c.advance w s).1 >>= f, (c.advance w s).2) := by
  cases c with
  | done _ => cases h
  | view _ _ | update _ _ | ask _ _ | edit _ _ | clock _ => rfl

/-- An update takes one turn. -/
theorem advance_updated (tx : Transaction α) (w : Surroundings) (s : σ) :
    (updated tx).advance w s = (done (tx.update w.fault s).1, (tx.update w.fault s).2) := rfl

/-- **What a turn makes of a command that begins by reading a record**: it goes on with the record,
or, where the bucket is missing, it is about to make it. -/
theorem advance_loadRecord_bind {ρ : Type} [Record ρ] (slot : Slot) (f : Option ρ → Command α)
    (w : Surroundings) (s : σ) : (loadRecord slot >>= f).advance w s
      = (if Backend.hasBucket s slot.bucket then
          match slot.record s with
          | .ok found => f found
          | .error e => done (.error e)
        else updated (.perform (.createBucket slot.bucket)) >>= fun _ => f none, s) := by
  change ((done ((recordIfBucket ρ slot).view s) >>= _) >>= f, s) = _
  rw [view_recordIfBucket]
  cases Backend.hasBucket s slot.bucket with
  | false =>
    change ((updated (.perform (.createBucket slot.bucket)) >>= fun _ => pure none) >>= f, s) = _
    rw [bind_assoc]
    rfl
  | true => cases (slot.record s : Except Error (Option ρ)) <;> rfl

end Command

/-! ## 2. Callers -/

/-- What came of a step. -/
structure Reply where
  step : Step
  result : Except Error step.Answer

/-- A step that is under way: what is left of its command. -/
structure Call where
  step : Step
  rest : Command step.Answer

namespace Call

/-- A step that has not begun. -/
def start (step : Step) : Call := ⟨step, step.command⟩

/-- What came of a call that has nothing left to do. -/
def reply? (call : Call) : Option Reply := call.rest.ended?.map (⟨call.step, ·⟩)

end Call

/-- **A caller**: what came of its calls so far, the call under way and those after it. -/
structure Caller where
  answered : List Reply
  calls : List Call

namespace Caller

/-- A caller that is to make these calls, in this order. -/
def making (steps : List Step) : Caller := ⟨[], steps.map .start⟩

/-- A caller whose first call has come so far. -/
def reaching (answered : List Reply) (call : Call) (later : List Call) : Caller :=
  match call.reply? with
  | some reply => ⟨answered ++ [reply], later⟩
  | none => ⟨answered, call :: later⟩

/-- **What one turn does to a caller** and the store. -/
def advance (w : Surroundings) (c : Caller) (s : σ) : Caller × σ :=
  match c.calls with
  | [] => (c, s)
  | call :: later =>
    let r := call.rest.advance w s
    (reaching c.answered ⟨call.step, r.1⟩ later, r.2)

/-- The call to the remote service that a caller makes in its next turn. -/
def asks? (c : Caller) : Option RemoteCall := c.calls.head?.bind (·.rest.asks?)

theorem advance_cons (w : Surroundings) (answered : List Reply) (call : Call) (later : List Call)
    (s : σ) : (⟨answered, call :: later⟩ : Caller).advance w s
      = (reaching answered ⟨call.step, (call.rest.advance w s).1⟩ later,
          (call.rest.advance w s).2) := rfl

/-- What a turn makes of a caller whose last call is under way. -/
theorem advance_single {w : Surroundings} {s s' : σ} {answered : List Reply} {step : Step}
    {rest left : Command step.Answer} (h : rest.advance w s = (left, s')) :
    (⟨answered, [⟨step, rest⟩]⟩ : Caller).advance w s
      = (reaching answered ⟨step, left⟩ [], s') := by
  rw [advance_cons, h]

end Caller

/-! ## 3. Crowds

The callers are told apart by an index of any type, and there may be any number of them. -/

/-- A turn: who takes it, and what is met. -/
structure Turn (ι : Type) where
  who : ι
  meets : Surroundings

/-- **Callers that share a store**, and nothing else.  They take turns in any order. -/
structure Crowd (σ ι : Type) where
  callers : ι → Caller
  store : σ

namespace Crowd

variable {ι : Type} [DecidableEq ι]

/-- What one turn does to a crowd. -/
def step (c : Crowd σ ι) (t : Turn ι) : Crowd σ ι :=
  let r := (c.callers t.who).advance t.meets c.store
  ⟨Function.update c.callers t.who r.1, r.2⟩

/-- **A crowd after some turns.** -/
def after (c : Crowd σ ι) (turns : List (Turn ι)) : Crowd σ ι := turns.foldl step c

/-- The calls to the remote service that are made in some turns. -/
def asked (c : Crowd σ ι) : List (Turn ι) → List RemoteCall
  | [] => []
  | t :: turns => (c.callers t.who).asks?.toList ++ (c.step t).asked turns

theorem after_concat (c : Crowd σ ι) (turns : List (Turn ι)) (t : Turn ι) :
    c.after (turns ++ [t]) = (c.after turns).step t :=
  List.foldl_append

theorem asked_append (c : Crowd σ ι) (turns turns' : List (Turn ι)) :
    c.asked (turns ++ turns') = c.asked turns ++ (c.after turns).asked turns' := by
  induction turns generalizing c with
  | nil => rfl
  | cons t turns ih => simp only [List.cons_append, asked, ih, List.append_assoc]; rfl

theorem step_callers_of_ne (c : Crowd σ ι) {t : Turn ι} {i : ι} (h : i ≠ t.who) :
    (c.step t).callers i = c.callers i :=
  Function.update_of_ne h _ _

theorem step_callers_self (c : Crowd σ ι) (t : Turn ι) :
    (c.step t).callers t.who = ((c.callers t.who).advance t.meets c.store).1 :=
  Function.update_self _ _ _

theorem step_store (c : Crowd σ ι) (t : Turn ι) :
    (c.step t).store = ((c.callers t.who).advance t.meets c.store).2 := rfl

/-- How many of some turns a caller takes. -/
def taken (i : ι) (turns : List (Turn ι)) : Nat := turns.countP (·.who = i)

theorem taken_nil (i : ι) : taken i [] = 0 := rfl

theorem taken_concat_self (turns : List (Turn ι)) (t : Turn ι) :
    taken t.who (turns ++ [t]) = taken t.who turns + 1 := by
  simp [taken]

theorem taken_concat_of_ne (turns : List (Turn ι)) {t : Turn ι} {i : ι} (h : i ≠ t.who) :
    taken i (turns ++ [t]) = taken i turns := by
  simp [taken, h.symm]

end Crowd

/-! ## 4. A caller that takes every turn -/

/-- What comes of the steps of a history. -/
def repliesDuring (world : Nat → Surroundings) (ms : List (Moment σ)) : List Reply :=
  ms.map fun m => ⟨m.step, (m.report world).result⟩

namespace Caller

/-- A caller and the store after turns of its own, in these surroundings. -/
def advances (w : Surroundings) : Nat → Caller → σ → Caller × σ
  | 0, c, s => (c, s)
  | n + 1, c, s => (c.advance w s).1.advances w n (c.advance w s).2

theorem advances_add (w : Surroundings) (m n : Nat) (c : Caller) (s : σ) :
    c.advances w (m + n) s = (c.advances w m s).1.advances w n (c.advances w m s).2 := by
  induction m generalizing c s with
  | zero => rw [Nat.zero_add]; rfl
  | succ m ih => rw [Nat.succ_add]; exact ih _ _

/-- A call that has come some way comes to its end in some more turns. -/
theorem exists_advances_reaching (w : Surroundings) {step : Step} (rest : Command step.Answer)
    (answered : List Reply) (later : List Call) (tick : Nat) (s : σ) :
    let r := rest.report (fun _ => w) tick s
    ∃ n, (reaching answered ⟨step, rest⟩ later).advances w n s
      = (⟨answered ++ [⟨step, r.result⟩], later⟩, r.store) := by
  induction rest generalizing tick s with
  | done result => exact ⟨0, rfl⟩
  | view tx next ih => exact (ih _ (tick + 1) s).imp' (· + 1) fun _ h => h
  | update tx next ih => exact (ih _ (tick + 1) _).imp' (· + 1) fun _ h => h
  | ask call next ih => exact (ih _ (tick + 1) s).imp' (· + 1) fun _ h => h
  | edit text next ih => exact (ih _ (tick + 1) s).imp' (· + 1) fun _ h => h
  | clock next ih => exact (ih _ (tick + 1) s).imp' (· + 1) fun _ h => h

/-- The calls of a caller come to their ends in some turns. -/
theorem exists_advances_history (w : Surroundings) (steps : List Step) (tick : Nat) (s : σ)
    (answered : List Reply) :
    ∃ n, (⟨answered, steps.map .start⟩ : Caller).advances w n s
      = (⟨answered ++ repliesDuring (fun _ => w) (history (fun _ => w) steps tick s), []⟩,
          storeAfter (fun _ => w) steps tick s) := by
  induction steps generalizing tick s answered with
  | nil => exact ⟨0, by simp [history, storeAfter, repliesDuring, advances]⟩
  | cons step steps ih =>
    let r := step.command.report (fun _ => w) tick s
    -- The first turn brings the first call some way, even if that has nothing to do.
    obtain ⟨n, hfirst⟩ := exists_advances_reaching w (step.command.advance w s).1 answered
      (steps.map .start) (tick + 1) (step.command.advance w s).2
    obtain ⟨hresult, hstore⟩ := report_advance (w := w) (c := step.command) (s := s) tick
    rw [← hresult, ← hstore] at hfirst
    obtain ⟨m, hrest⟩ := ih r.tick r.store (answered ++ [⟨step, r.result⟩])
    refine ⟨n + m + 1, ?_⟩
    change (reaching answered ⟨step, (step.command.advance w s).1⟩ (steps.map .start)).advances w
      (n + m) (step.command.advance w s).2 = _
    rw [advances_add, hfirst, hrest, List.append_assoc]
    rfl

end Caller

end Notekeeper
