import Notekeeper.Proofs.Command.Footprint

/-!
# What commands do at most

A footprint bounds what a command writes.  This module bounds what it does at all: a command keeps
to a kind of effects, some predicate on calls, texts, times and writes, if it does no others, in
every world and on every store.

Like sparing a slot, this is closed under `>>=`, so that it is shown of a large command by showing
it of the parts, in the order in which the definition lists them.  In return it speaks of a journal
as a whole, where no course of the command has to be told apart from any other: if all effects are
of the kind, so are those of a run that failed halfway.

The kind that matters most is looking.  To find a note a command searches the service and may fetch
content, and what it may write is a bucket to look for a record in.  This holds of all that an edit
does before the editor has the text, with or without recovery.  Buckets are not entries, and so a
command that only looks makes nothing of the store (`replay_of_looks`), and others see no more of
it than searches and fetches.

* `Command.KeepsTo.bind` : what keeps to a kind of effects step by step keeps to it as a whole.
* `Command.KeepsTo.filterMap_events_eq_nil` : what shows others nothing of some kind step by step
  shows them nothing of it as a whole.
* `Command.keepsTo_noteToEdit` : an edit only looks as long as it loads its note.
* `Command.replay_of_looks` : looking changes no entry of the store.
-/

namespace Notekeeper.Command

variable {σ : Type} [Backend σ] {α β : Type} {P : Effect → Prop}

/-! ## 1. Kinds of effects -/

/-- **Whether a command keeps to a kind of effects**, in every world and on every store.  Runs that
end in an error are meant as well. -/
def KeepsTo (σ : Type) [Backend σ] (P : Effect → Prop) (c : Command α) : Prop :=
  ∀ (world : Nat → Surroundings) (tick : Nat) (s : σ),
    ∀ effect ∈ (c.report world tick s).journal, P effect

theorem keepsTo_done (result : Except Error α) : (done result).KeepsTo σ P := by
  intro world tick s effect h
  cases h

theorem keepsTo_viewed (tx : Transaction α) : (viewed tx).KeepsTo σ P := by
  intro world tick s effect h
  cases h

theorem keepsTo_asked {call : RemoteCall} (h : ∀ answer, P (.called call answer)) :
    (asked call).KeepsTo σ P := by
  intro world tick s effect he
  rw [report_asked] at he
  rw [List.mem_singleton.1 he]
  exact h _

theorem keepsTo_now (h : ∀ time, P (.told time)) : now.KeepsTo σ P := by
  intro world tick s effect he
  rw [report_now] at he
  rw [List.mem_singleton.1 he]
  exact h _

/-- The writes that an update keeps are among those that its transaction does. -/
theorem keepsTo_updated {tx : Transaction α}
    (h : ∀ (fault : WriteFault) (s : σ), ∀ op ∈ tx.kept fault s, P (.wrote op)) :
    (updated tx).KeepsTo σ P := by
  intro world tick s effect he
  rw [report_updated] at he
  obtain ⟨op, hop, rfl⟩ := List.mem_map.1 he
  exact h _ _ op hop

theorem KeepsTo.bind {c : Command α} {f : α → Command β} (h : c.KeepsTo σ P)
    (hf : ∀ a, (f a).KeepsTo σ P) : (c >>= f).KeepsTo σ P := by
  intro world tick s effect he
  rcases mem_journal_bind.1 he with he | ⟨a, -, he⟩
  · exact h world tick s effect he
  · exact hf a world _ _ effect he

/-- Whether an effect shows others nothing of some kind. -/
def Effect.Hidden {γ : Type} (shown : Event → Option γ) (effect : Effect) : Prop :=
  effect.event?.bind shown = none

/-- A command that shows nothing of a kind step by step shows nothing of it as a whole. -/
theorem KeepsTo.filterMap_events_eq_nil {γ : Type} {shown : Event → Option γ} {c : Command α}
    (h : c.KeepsTo σ (Effect.Hidden shown))
    (world : Nat → Surroundings) (tick : Nat) (s : σ) :
    (c.report world tick s).events.filterMap shown = [] := by
  unfold Report.events
  rw [List.filterMap_filterMap]
  exact List.filterMap_eq_nil_iff.2 fun effect he => h world tick s effect he

/-- Reading a record makes no more than its bucket. -/
theorem keepsTo_loadRecord {ρ : Type} [Record ρ] {slot : Slot}
    (h : P (.wrote (.createBucket slot.bucket))) :
    (loadRecord slot : Command (Option ρ)).KeepsTo σ P := by
  refine (keepsTo_viewed _).bind fun found => ?_
  cases found with
  | some record => exact keepsTo_done _
  | none =>
    refine (keepsTo_updated fun fault s op hop => ?_).bind fun _ => keepsTo_done _
    rw [(Transaction.justWrites_createBucket slot.bucket fault s).2] at hop
    split at hop
    · rwa [List.mem_singleton.1 hop]
    · cases hop

/-! ## 2. Looking

The calls of a look are told by their names.  Whatever they are asked for and whatever they answer,
they change nothing at the service. -/

/-- Whether an effect only looks for a note or its content, or makes a bucket to look into. -/
def Effect.Looks : Effect → Prop
  | .called call _ => call.name ∈ ["find_notes", "get_note_content"]
  | .wrote (.createBucket _) => True
  | .wrote _ | .edited _ _ | .told _ => False

theorem keepsTo_noteByOrdinal (h : P (.wrote (.createBucket Slot.search.bucket)))
    (title : String) : (noteByOrdinal title).KeepsTo σ P := by
  unfold noteByOrdinal
  split
  · exact ((keepsTo_loadRecord h).bind fun _ => keepsTo_done _).bind fun _ => keepsTo_done _
  · exact keepsTo_done _

theorem keepsTo_titledNote
    (h : ∀ filter offset count answer, P (.called (.findNotes filter offset count) answer))
    (config : Config) (title guid : String) : (titledNote config title guid).KeepsTo σ P := by
  refine (keepsTo_asked (h _ _ _)).bind fun found => ?_
  split
  · exact keepsTo_done _
  · exact keepsTo_done _

theorem keepsTo_note (config : Config) (title : String) :
    (note config title none).KeepsTo σ Effect.Looks := by
  refine (keepsTo_noteByOrdinal trivial title).bind fun found => ?_
  cases found with
  | some note => exact keepsTo_done _
  | none =>
    rw [noteByTitle_eq]
    refine (keepsTo_done _).bind fun guid => ?_
    exact keepsTo_titledNote (fun _ _ _ _ => by simp [Effect.Looks, RemoteCall.name]) _ _ _

theorem keepsTo_noteWithContent (codec : Codec) (config : Config) (title : String) :
    (noteWithContent codec config title).KeepsTo σ Effect.Looks := by
  refine (keepsTo_note config title).bind fun note => ?_
  refine (keepsTo_asked fun _ => by simp [Effect.Looks, RemoteCall.name]).bind fun content => ?_
  exact (keepsTo_done _).bind fun body => (keepsTo_done _).bind fun md => keepsTo_done _

/-- **An edit only looks** as long as it loads its note, whether that is recovered or fetched. -/
theorem keepsTo_noteToEdit (codec : Codec) (config : Config) (title : String)
    (opts : EditOptions) : (noteToEdit codec config title opts).KeepsTo σ Effect.Looks := by
  unfold noteToEdit
  split
  · refine (keepsTo_loadRecord trivial).bind fun found => ?_
    split
    · exact keepsTo_done _
    · exact keepsTo_done _
  · exact keepsTo_noteWithContent codec config title

/-- Making buckets makes nothing of an entry. -/
theorem replay_of_looks {ops : List StoreOp} (h : ∀ op ∈ ops, Effect.Looks (.wrote op))
    (b : String) (k : Bytes) (old : Option Bytes) : Transaction.replay b k ops old = old := by
  induction ops with
  | nil => rfl
  | cons op ops ih =>
    have hop := h op List.mem_cons_self
    have hops := ih fun o ho => h o (List.mem_cons_of_mem op ho)
    cases op with
    | createBucket bucket => exact hops
    | hasBucket bucket => exact hop.elim
    | get bucket key => exact hop.elim
    | put bucket key value => exact hop.elim
    | delete bucket key => exact hop.elim

namespace Report

variable {τ : Type} {r : Report τ α}

/-- Others see nothing but looks of a report that only looks. -/
theorem looks_of_mem_events (h : ∀ effect ∈ r.journal, effect.Looks)
    {event : Event} (he : event ∈ r.events) : ∃ call answer, event = .called call answer
      ∧ call.name ∈ ["find_notes", "get_note_content"] := by
  obtain ⟨effect, hmem, hevent⟩ := List.mem_filterMap.1 he
  have hlooks := h effect hmem
  cases effect with
  | called call answer => exact ⟨call, answer, (Option.some.inj hevent).symm, hlooks⟩
  | edited text result => exact hlooks.elim
  | told time => cases hevent
  | wrote op => cases hevent

theorem looks_of_mem_writes (h : ∀ effect ∈ r.journal, effect.Looks)
    {op : StoreOp} (hop : op ∈ r.writes) : Effect.Looks (.wrote op) := by
  obtain ⟨effect, hmem, heffect⟩ := List.mem_filterMap.1 hop
  have hlooks := h effect hmem
  cases effect with
  | wrote op' => exact Option.some.inj heffect ▸ hlooks
  | called call answer => cases heffect
  | edited text result => cases heffect
  | told time => cases heffect

end Report

end Notekeeper.Command
