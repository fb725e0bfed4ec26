import Notekeeper.Proofs.Command.Footprint

/-!
# Histories

A store lives through a history: it is opened, serves the operations of clients, is closed and
opened again, perhaps by clients with another configuration.  Nothing is assumed of the order of
the steps, of their number or of who takes them.  Each step begins with the store and at the tick
that the step before it left, and the world decides at each tick what the service answers, what the
editor does, what time it is and whether the store fails.

The steps of a history follow one another.  Openings and operations of several processes that run
at the same time are a matter of their own; there the steps are single transactions, and the
modules on sharing deal with them.

What holds after every history is shown by an induction that is done here once.  A property may
speak of the moments that have passed as well as of the store that they left, and what has to be
shown is that one moment carries it over (`history_induction`).  Where it speaks of the store alone
it holds at each moment on the way too (`history_keeps`).

Facts of the form "until then" need the opposite direction: a moment is given, and the history has
to be cut there.  `exists_of_history_eq_append` does so, and both parts are histories again, so
that what is known of histories holds of each part.

* `history` : the moments of a history, one for each step.
* `history_induction` : what every step carries over holds after every history.
* `history_keeps` : so does what every step keeps of a store.
* `held_storeAfter` : a slot that no moment changes holds in the end what it held.
* `exists_of_history_eq_append` : a moment of a history splits it into two histories.
-/

namespace Notekeeper

open Command

/-- **A step of a history.**  Each operation may be that of another client. -/
inductive Step
  /-- The store is opened, and brought up to date. -/
  | opening
  | operation (client : Client) (op : Operation)

namespace Step

/-- What a step gives when it succeeds. -/
@[reducible] def Answer : Step → Type
  | opening => UInt64
  | operation _ op => op.Answer

/-- The command that a step is. -/
def command : (step : Step) → Command step.Answer
  | opening => upgradeStore
  | operation client op => client.perform op

end Step

/-- **A moment**: a step with the tick and the store at which it begins. -/
structure Moment (σ : Type) where
  step : Step
  tick : Nat
  store : σ

variable {σ : Type} [Backend σ]

namespace Moment

/-- The report of the step of a moment. -/
def report (world : Nat → Surroundings) (m : Moment σ) : Report σ m.step.Answer :=
  m.step.command.report world m.tick m.store

/-- The moment right after another one. -/
def next (world : Nat → Surroundings) (m : Moment σ) (step : Step) : Moment σ :=
  ⟨step, (m.report world).tick, (m.report world).store⟩

end Moment

/-- **The moments of a history** that begins at a tick with a store.  Each begins where the one
before it ended, also if that failed. -/
def history (world : Nat → Surroundings) : List Step → (tick : Nat) → σ → List (Moment σ)
  | [], _, _ => []
  | step :: steps, tick, s =>
    let r := step.command.report world tick s
    ⟨step, tick, s⟩ :: history world steps r.tick r.store

/-- The store after a history. -/
def storeAfter (world : Nat → Surroundings) : List Step → (tick : Nat) → σ → σ
  | [], _, s => s
  | step :: steps, tick, s =>
    let r := step.command.report world tick s
    storeAfter world steps r.tick r.store

/-- A history of three steps. -/
theorem Moment.history_next (world : Nat → Surroundings) (m : Moment σ) (step step' : Step) :
    history world [m.step, step, step'] m.tick m.store
      = [m, m.next world step] ++ ⟨step', ((m.next world step).report world).tick,
        ((m.next world step).report world).store⟩ :: [] := rfl

/-- **What every step carries over holds after every history.**  The property may speak of all
moments so far, and of the store that they left. -/
theorem history_induction {world : Nat → Surroundings} {P : List (Moment σ) → σ → Prop}
    (hstep : ∀ (past : List (Moment σ)) (m : Moment σ),
      P past m.store → P (past ++ [m]) (m.report world).store)
    (steps : List Step) (tick : Nat) (s : σ) (past : List (Moment σ)) (hpast : P past s) :
    P (past ++ history world steps tick s) (storeAfter world steps tick s) := by
  induction steps generalizing tick s past with
  | nil => simpa [history, storeAfter] using hpast
  | cons step steps ih =>
    let m : Moment σ := ⟨step, tick, s⟩
    have hnext : P (past ++ [m]) (m.report world).store := hstep past m hpast
    have hall := ih (m.report world).tick (m.report world).store (past ++ [m]) hnext
    rw [List.append_assoc] at hall
    exact hall

/-- What every step keeps of a store holds at every moment of a history, and after it. -/
theorem history_keeps {world : Nat → Surroundings} {P : σ → Prop}
    (hstep : ∀ m : Moment σ, P m.store → P (m.report world).store)
    (steps : List Step) (tick : Nat) {s : σ} (hs : P s) :
    (∀ m ∈ history world steps tick s, P m.store) ∧ P (storeAfter world steps tick s) := by
  have hpast := history_induction (P := fun past s' => (∀ m ∈ past, P m.store) ∧ P s')
    (fun past m ⟨hpast, hm⟩ => ⟨?_, hstep m hm⟩) steps tick s []
    ⟨fun _ hm => absurd hm List.not_mem_nil, hs⟩
  · exact hpast
  · intro m' hm'
    rcases List.mem_append.1 hm' with hm' | hm'
    · exact hpast m' hm'
    · rwa [List.mem_singleton.1 hm']

/-- **A moment of a history splits it** into the history before and the one since, which ends as
the whole one does. -/
theorem exists_of_history_eq_append {world : Nat → Surroundings} {steps : List Step} {tick : Nat}
    {s : σ} {before since : List (Moment σ)} {m : Moment σ}
    (h : history world steps tick s = before ++ m :: since) :
    ∃ steps₁ steps₂, before = history world steps₁ tick s
      ∧ m.store = storeAfter world steps₁ tick s
      ∧ since = history world steps₂ (m.report world).tick (m.report world).store
      ∧ storeAfter world steps tick s
        = storeAfter world steps₂ (m.report world).tick (m.report world).store := by
  induction before generalizing steps tick s with
  | nil =>
    cases steps with
    | nil => cases h
    | cons step steps =>
      obtain ⟨hm, hsince⟩ := List.cons.inj h
      subst hm
      exact ⟨[], steps, rfl, rfl, hsince.symm, rfl⟩
  | cons m₀ before ih =>
    cases steps with
    | nil => cases h
    | cons step steps =>
      obtain ⟨hm₀, hrest⟩ := List.cons.inj h
      obtain ⟨steps₁, steps₂, hbefore, hstore, hsince, hfinal⟩ := ih hrest
      refine ⟨step :: steps₁, steps₂, ?_, hstore, hsince, hfinal⟩
      rw [← hm₀, hbefore]
      rfl

/-- No history takes a bucket away. -/
theorem hasBucket_storeAfter [LawfulBackend σ] {world : Nat → Surroundings} {s : σ} {b : String}
    (h : Backend.hasBucket s b = true) (steps : List Step) (tick : Nat) :
    Backend.hasBucket (storeAfter world steps tick s) b = true := by
  have hkept := history_keeps (P := fun s => Backend.hasBucket s b = true)
    (fun m hm => hasBucket_report world m.step.command m.tick hm) steps tick h
  exact hkept.2

/-- **A slot that every moment of a history leaves alone** holds at the end what it held at the
beginning.  Only the moments that come about are asked for this, and not all that might. -/
theorem held_storeAfter {world : Nat → Surroundings} {slot : Slot} {steps : List Step} {tick : Nat}
    {s : σ} (h : ∀ m ∈ history world steps tick s,
      slot.held (m.report world).store = slot.held m.store) :
    slot.held (storeAfter world steps tick s) = slot.held s := by
  induction steps generalizing tick s with
  | nil => rfl
  | cons step steps ih =>
    let m : Moment σ := ⟨step, tick, s⟩
    have hfirst : slot.held (m.report world).store = slot.held s := h m List.mem_cons_self
    have hrest := ih fun m' hm' => h m' (List.mem_cons_of_mem m hm')
    exact hrest.trans hfirst

end Notekeeper
