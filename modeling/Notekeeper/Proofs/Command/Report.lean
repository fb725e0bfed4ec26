import Notekeeper.Command.Basic
import Notekeeper.Proofs.Store.Transaction

/-!
# Reports of commands

The outcome of a command is what others see of it: the result, the store, the calls and the texts
shown.  That is too little to reason about one command after another.  What a command leaves in
the store is not among its events, and neither are the times that it was told, on which a later
step may turn.  A report lists all of it in one journal: calls, texts, times and the writes that
the store kept, in the order in which they happened.

Reports compose where outcomes do not.  The report of `c >>= f` is the report of `c`, and if that
went well the report of `f`, begun at the tick and with the store that `c` left, with the journal
of `c` in front (`report_bind`).  All that is said of larger commands is said step by step with
this equation and the reports of the six single steps, so that no later proof unfolds the
interpreter.

Three facts tie the journal to what it is a journal of, each by induction on the command.

* `Command.run_eq_report` : with the hidden effects left out a report is the run itself, and so
  what is shown of reports is true of runs.
* `Command.get_report` : an entry after a command is what the writes of the journal, replayed in
  order, make of the entry before it.  Here the update of a transaction is taken as a whole: its
  writes are in the journal if the store kept them, and none are if it did not.
* `Command.met_of_mem_journal` : an effect comes of the surroundings of one tick, and the tick is
  one that the command took.  What is known of the remote service or the editor at those ticks is
  thereby known of the journal.
* `Command.report_bind` : the report of two commands, one after the other.
-/

namespace Notekeeper.Command

/-! ## 1. Journals

Of the four kinds of effects others see two.  What a clock told and what was written to the store
are known to the command and to the store alone, but both matter to what a later step does. -/

/-- **One thing that a command did.**  Calls and texts shown come with their answers, and a write is
one that was kept. -/
inductive Effect
  | called (call : RemoteCall) (answer : Except Error call.Answer)
  | edited (text : String) (result : Except Error String)
  | told (time : Timestamp)
  /-- An operation on the store that an update kept. -/
  | wrote (op : StoreOp)

namespace Effect

/-- What others see of an effect. -/
def event? : Effect → Option Event
  | called call answer => some (.called call answer)
  | edited text result => some (.edited text result)
  | told _ | wrote _ => none

/-- What an effect does to the store. -/
def op? : Effect → Option StoreOp
  | wrote op => some op
  | called _ _ | edited _ _ | told _ => none

/-- Whether an effect is what comes of some surroundings. -/
def Met (w : Surroundings) : Effect → Prop
  | called call answer => w.remote call = answer
  | edited text result => w.editor text = result
  | told time => w.now.time = time
  | wrote _ => w.fault = .none

/-- Writes show nothing to others. -/
theorem filterMap_event?_wrote (ops : List StoreOp) :
    (ops.map wrote).filterMap event? = [] := by
  simp [List.filterMap_map, event?, Function.comp_def]

theorem filterMap_op?_wrote (ops : List StoreOp) :
    (ops.map wrote).filterMap op? = ops := by
  simp [List.filterMap_map, op?, Function.comp_def]

end Effect

/-- **How a command ended, and all that it did**, in the order in which it did so. -/
structure Report (σ α : Type) where
  result : Except Error α
  store : σ
  journal : List Effect
  /-- The tick after the last effect. -/
  tick : Nat

namespace Report

variable {σ α : Type}

/-- A report with effects before all others. -/
def after (effects : List Effect) (r : Report σ α) : Report σ α :=
  { r with journal := effects ++ r.journal }

/-- The calls and the texts shown. -/
def events (r : Report σ α) : List Event := r.journal.filterMap Effect.event?

/-- The operations that the store kept. -/
def writes (r : Report σ α) : List StoreOp := r.journal.filterMap Effect.op?

/-- What others see of a report. -/
def outcome (r : Report σ α) : Outcome σ α :=
  { result := r.result, store := r.store, events := r.events, tick := r.tick }

/-- A report with what follows it, unless it ends in an error. -/
def andThen {β : Type} (r : Report σ α) (next : α → Nat → σ → Report σ β) : Report σ β :=
  match r.result with
  | .ok a => (next a r.tick r.store).after r.journal
  | .error e => { r with result := .error e }

theorem after_after (es es' : List Effect) (r : Report σ α) :
    (r.after es').after es = r.after (es ++ es') := by
  simp [after]

theorem after_andThen {β : Type} (es : List Effect) (r : Report σ α)
    (next : α → Nat → σ → Report σ β) :
    (r.after es).andThen next = (r.andThen next).after es := by
  obtain ⟨result, store, journal, tick⟩ := r
  cases result with
  | ok a => exact (after_after es journal (next a tick store)).symm
  | error e => rfl

/-- What follows a report that went well comes after its effects. -/
theorem andThen_of_ok {β : Type} {r : Report σ α} {a : α} (h : r.result = .ok a)
    (next : α → Nat → σ → Report σ β) :
    r.andThen next = (next a r.tick r.store).after r.journal := by
  rw [andThen, h]

/-- Nothing follows a report that ended in an error. -/
theorem andThen_of_error {β : Type} {r : Report σ α} {e : Error} (h : r.result = .error e)
    (next : α → Nat → σ → Report σ β) :
    r.andThen next = ⟨.error e, r.store, r.journal, r.tick⟩ := by
  rw [andThen, h]

/-- The result of two reports, one after the other. -/
theorem result_andThen {β : Type} (r : Report σ α) (next : α → Nat → σ → Report σ β) :
    (r.andThen next).result = r.result.bind fun a => (next a r.tick r.store).result := by
  obtain ⟨result, store, journal, tick⟩ := r
  cases result <;> rfl

/-- Others see the effects in front before those of the report. -/
theorem events_after (es : List Effect) (r : Report σ α) :
    (r.after es).events = es.filterMap Effect.event? ++ r.events := by
  rw [events, after, List.filterMap_append, ← events]

end Report

/-- A journal of writes alone shows nothing to others. -/
theorem Report.outcome_after_wrote {σ α : Type} (ops : List StoreOp) (r : Report σ α) :
    (r.after (ops.map .wrote)).outcome = r.outcome := by
  simp only [outcome, events, after, List.filterMap_append, Effect.filterMap_event?_wrote,
    List.nil_append]

variable {σ : Type} [Backend σ] {α β : Type}

theorem bind_eq_ok_iff {result : Except Error α} {f : α → Except Error β} {b : β} :
    result.bind f = .ok b ↔ ∃ a, result = .ok a ∧ f a = .ok b := by
  cases result <;> simp [Except.bind]

theorem map_eq_ok_iff {result : Except Error α} {f : α → β} {b : β} :
    result.map f = .ok b ↔ ∃ a, result = .ok a ∧ f a = b := by
  cases result <;> simp [Except.map]

/-- **The report of a command** that starts at a tick with a store.  Every step takes one tick,
looks at the store included, and meets the surroundings of its tick. -/
def report (world : Nat → Surroundings) : Command α → (tick : Nat) → σ → Report σ α
  | done result, tick, s => { result, store := s, journal := [], tick }
  | view tx next, tick, s => (next (tx.view s)).report world (tick + 1) s
  | update tx next, tick, s =>
    let fault := (world tick).fault
    ((next (tx.update fault s).1).report world (tick + 1) (tx.update fault s).2).after
      ((tx.kept fault s).map .wrote)
  | ask call next, tick, s =>
    let answer := (world tick).remote call
    ((next answer).report world (tick + 1) s).after [.called call answer]
  | edit text next, tick, s =>
    let result := (world tick).editor text
    ((next result).report world (tick + 1) s).after [.edited text result]
  | clock next, tick, s =>
    let time := (world tick).now.time
    ((next time).report world (tick + 1) s).after [.told time]

/-- **A run is a report with its hidden effects left out.**  So what is shown of reports is shown of
runs. -/
theorem run_eq_report (world : Nat → Surroundings) (c : Command α) (tick : Nat) (s : σ) :
    c.run world tick s = (c.report world tick s).outcome := by
  induction c generalizing tick s with
  | done result => rfl
  | view tx next ih => exact ih _ _ _
  | update tx next ih =>
    simp only [run, report, Report.outcome_after_wrote]
    exact ih _ _ _
  | ask call next ih =>
    simp only [run, report, ih]
    rfl
  | edit text next ih =>
    simp only [run, report, ih]
    rfl
  | clock next ih =>
    simp only [run, report, ih]
    rfl

/-! ## 2. Commands one after another

These equations are what later modules use in place of the definition of `report`.  The first ones
take larger commands apart, and the last ones are the single steps that this ends in. -/

/-- What comes after two commands comes after the second one. -/
theorem bind_assoc {γ : Type} (c : Command α) (f : α → Command β) (g : β → Command γ) :
    (c >>= f) >>= g = c >>= fun a => f a >>= g := by
  change (c.bind f).bind g = c.bind fun a => (f a).bind g
  induction c with
  | done result =>
    cases result with
    | ok a => rfl
    | error e => rfl
  | view tx next ih => exact congrArg (view tx) (funext ih)
  | update tx next ih => exact congrArg (update tx) (funext ih)
  | ask call next ih => exact congrArg (ask call) (funext ih)
  | edit text next ih => exact congrArg (edit text) (funext ih)
  | clock next ih => exact congrArg clock (funext ih)

theorem report_bind (world : Nat → Surroundings) (c : Command α) (f : α → Command β)
    (tick : Nat) (s : σ) : (c >>= f).report world tick s
      = (c.report world tick s).andThen fun a tick s => (f a).report world tick s := by
  change (c.bind f).report world tick s = _
  induction c generalizing tick s with
  | done result =>
    cases result with
    | ok a => rfl
    | error e => rfl
  | view tx next ih => exact ih _ _ _
  | update tx next ih => simp only [bind, report, ih, Report.after_andThen]
  | ask call next ih => simp only [bind, report, ih, Report.after_andThen]
  | edit text next ih => simp only [bind, report, ih, Report.after_andThen]
  | clock next ih => simp only [bind, report, ih, Report.after_andThen]

/-- What two commands do, the first one does, or the second one after it. -/
theorem mem_journal_bind {world : Nat → Surroundings} {c : Command α} {f : α → Command β}
    {tick : Nat} {s : σ} {effect : Effect} :
    effect ∈ ((c >>= f).report world tick s).journal
      ↔ effect ∈ (c.report world tick s).journal
        ∨ ∃ a, (c.report world tick s).result = .ok a
          ∧ effect ∈ ((f a).report world (c.report world tick s).tick
            (c.report world tick s).store).journal := by
  rw [report_bind]
  cases c.report world tick s with
  | mk result s' journal tick' =>
    cases result with
    | error e => simp [Report.andThen]
    | ok a => simp [Report.andThen, Report.after]

/-- A command whose error is part of the result does just what it did before. -/
theorem report_attempt (world : Nat → Surroundings) (c : Command α) (tick : Nat) (s : σ) :
    c.attempt.report world tick s
      = { c.report world tick s with result := .ok (c.report world tick s).result } := by
  induction c generalizing tick s with
  | done result => rfl
  | view tx next ih => exact ih _ _ _
  | update tx next ih => simp only [attempt, report, ih, Report.after]
  | ask call next ih => simp only [attempt, report, ih, Report.after]
  | edit text next ih => simp only [attempt, report, ih, Report.after]
  | clock next ih => simp only [attempt, report, ih, Report.after]

section Single

variable (world : Nat → Surroundings) (tick : Nat) (s : σ)

theorem report_pure (a : α) :
    (pure a : Command α).report world tick s = ⟨.ok a, s, [], tick⟩ := rfl

theorem report_fail (e : Error) :
    (fail e : Command α).report world tick s = ⟨.error e, s, [], tick⟩ := rfl

theorem report_viewed (tx : Transaction α) :
    (viewed tx).report world tick s = ⟨tx.view s, s, [], tick + 1⟩ := rfl

theorem report_updated (tx : Transaction α) : (updated tx).report world tick s
    = ⟨(tx.update (world tick).fault s).1, (tx.update (world tick).fault s).2,
        (tx.kept (world tick).fault s).map .wrote, tick + 1⟩ := by
  simp [updated, report, Report.after]

theorem report_asked (call : RemoteCall) : (asked call).report world tick s
    = ⟨(world tick).remote call, s, [.called call ((world tick).remote call)], tick + 1⟩ := rfl

theorem report_edited (text : String) : (edited text).report world tick s
    = ⟨(world tick).editor text, s, [.edited text ((world tick).editor text)], tick + 1⟩ := rfl

theorem report_now : now.report world tick s
    = ⟨.ok (world tick).now.time, s, [.told (world tick).now.time], tick + 1⟩ := rfl

end Single

/-! ## 3. Journals and stores -/

/-- **An entry after a command** is what the writes of its journal make of it, one after another. -/
theorem get_report [LawfulBackend σ] (world : Nat → Surroundings) (c : Command α) (tick : Nat)
    (s : σ) (b : String) (k : Bytes) : Backend.get (c.report world tick s).store b k
      = Transaction.replay b k (c.report world tick s).writes (Backend.get s b k) := by
  induction c generalizing tick s with
  | done result => rfl
  | view tx next ih => exact ih _ _ _
  | update tx next ih =>
    have hupdate := Transaction.get_update (world tick).fault tx s b k
    simp only [report, Report.after, Report.writes, List.filterMap_append,
      Effect.filterMap_op?_wrote,
      Transaction.replay, List.foldl_append]
    rw [ih, hupdate]
    rfl
  | ask call next ih => exact ih _ _ _
  | edit text next ih => exact ih _ _ _
  | clock next ih => exact ih _ _ _

/-- No command takes a bucket away. -/
theorem hasBucket_report [LawfulBackend σ] (world : Nat → Surroundings) (c : Command α)
    (tick : Nat) {s : σ} {b : String} (h : Backend.hasBucket s b = true) :
    Backend.hasBucket (c.report world tick s).store b = true := by
  induction c generalizing tick s with
  | done result => exact h
  | view tx next ih => exact ih _ _ h
  | update tx next ih => exact ih _ _ (Transaction.hasBucket_update _ tx h)
  | ask call next ih => exact ih _ _ h
  | edit text next ih => exact ih _ _ h
  | clock next ih => exact ih _ _ h

/-- A bucket that a command made is there afterwards. -/
theorem hasBucket_of_mem_journal [LawfulBackend σ] {world : Nat → Surroundings} {c : Command α}
    {tick : Nat} {s : σ} {b : String}
    (h : .wrote (.createBucket b) ∈ (c.report world tick s).journal) :
    Backend.hasBucket (c.report world tick s).store b = true := by
  induction c generalizing tick s with
  | done result => cases h
  | view tx next ih => exact ih _ h
  | update tx next ih =>
    rcases List.mem_append.1 h with h | h
    · obtain ⟨op, hop, he⟩ := List.mem_map.1 h
      cases he
      exact hasBucket_report world (next _) _ (Transaction.hasBucket_of_mem_kept hop)
    · exact ih _ h
  | ask call next ih =>
    rcases List.mem_cons.1 h with h | h
    · cases h
    · exact ih _ h
  | edit text next ih =>
    rcases List.mem_cons.1 h with h | h
    · cases h
    · exact ih _ h
  | clock next ih =>
    rcases List.mem_cons.1 h with h | h
    · cases h
    · exact ih _ h

/-! ## 4. Journals and surroundings

A report depends on the world only through the surroundings of the ticks that it took, and every
effect is the answer of one of these. -/

theorem tick_le_report (world : Nat → Surroundings) (c : Command α) (tick : Nat) (s : σ) :
    tick ≤ (c.report world tick s).tick := by
  induction c generalizing tick s with
  | done result => exact Nat.le_refl tick
  | view tx next ih => exact Nat.le_of_succ_le (ih _ _ _)
  | update tx next ih => exact Nat.le_of_succ_le (ih _ _ _)
  | ask call next ih => exact Nat.le_of_succ_le (ih _ _ _)
  | edit text next ih => exact Nat.le_of_succ_le (ih _ _ _)
  | clock next ih => exact Nat.le_of_succ_le (ih _ _ _)

/-- Whether an effect is due to the surroundings of a tick from `first` on and before `last`. -/
def Effect.MetBetween (world : Nat → Surroundings) (first last : Nat) (effect : Effect) : Prop :=
  ∃ t, first ≤ t ∧ t < last ∧ effect.Met (world t)

namespace Effect

theorem MetBetween.later {world : Nat → Surroundings} {first last : Nat} {effect : Effect}
    (h : effect.MetBetween world (first + 1) last) : effect.MetBetween world first last := by
  obtain ⟨t, hle, hlt, hmet⟩ := h
  exact ⟨t, Nat.le_of_succ_le hle, hlt, hmet⟩

end Effect

/-- **Every effect of a journal is due to the surroundings of a tick** that the command took. -/
theorem met_of_mem_journal {world : Nat → Surroundings} {c : Command α} {tick : Nat} {s : σ}
    {effect : Effect} (h : effect ∈ (c.report world tick s).journal) :
    effect.MetBetween world tick (c.report world tick s).tick := by
  induction c generalizing tick s with
  | done result => cases h
  | view tx next ih => exact (ih _ h).later
  | update tx next ih =>
    rcases List.mem_append.1 h with h | h
    · obtain ⟨op, hop, rfl⟩ := List.mem_map.1 h
      exact ⟨tick, Nat.le_refl tick, tick_le_report world _ _ _,
        Transaction.fault_of_mem_kept hop⟩
    · exact (ih _ h).later
  | ask call next ih =>
    rcases List.mem_cons.1 h with rfl | h
    · exact ⟨tick, Nat.le_refl tick, tick_le_report world _ _ _, rfl⟩
    · exact (ih _ h).later
  | edit text next ih =>
    rcases List.mem_cons.1 h with rfl | h
    · exact ⟨tick, Nat.le_refl tick, tick_le_report world _ _ _, rfl⟩
    · exact (ih _ h).later
  | clock next ih =>
    rcases List.mem_cons.1 h with rfl | h
    · exact ⟨tick, Nat.le_refl tick, tick_le_report world _ _ _, rfl⟩
    · exact (ih _ h).later

end Notekeeper.Command

namespace Notekeeper.Sample

/-- Surroundings in which nothing is in the way, and no service can be reached. -/
def calm : Command.Surroundings where
  remote _ := .error (.remote "offline")
  editor := .ok
  fault := .none
  now := .epoch

end Notekeeper.Sample
