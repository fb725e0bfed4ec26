import Mathlib.Control.Monad.Basic
import Notekeeper.Proofs.Command.Calling
import Notekeeper.Proofs.Editing.Acting
import Notekeeper.Proofs.Searching.Ordinal

/-!
# Notes changed by ordinal

An ordinal names a note as the last search found it, and a change sends the whole note.  So what is
sent is the found note with this one change: whatever was changed since the search goes out again
as it was found.

The note is read from the saved search, and neither a new title nor a move writes to it.  So after
the first of two changes the ordinal still names the note as it was before (`NamesKept.storeAfter`,
which holds over any history without another search), and the second change goes out with everything
else as it was found.  What the service then has is the note of the last call.  It has the first
change only if the search had found the note with it already, that is, if the change changed
nothing.

This is shown for a new title and a move, in either order.  The look for the notebook that a move
needs may list notebooks and cache the list; it sends no note, and the saved search is not in its
footprint, so it does not matter to the argument beyond the notebook that it gives.

* `NamesKept` : the text is the ordinal of a kept note.
* `NamesKept.report_changeTitle`, `NamesKept.report_moveNote` : what each change sends.
* `NamesKept.storeAfter` : the ordinal names the found note until the next search.
* `later_change_undoes_earlier` : when the later of two changes keeps the earlier one.
-/

namespace Notekeeper

open Command

variable {σ : Type} [Backend σ] {world : Nat → Surroundings}

/-! ## 1. What is sent for an update

The notes that are sent are told by the events, and a command that sends none step by step sends
none as a whole. -/

namespace Command

/-- In surroundings that stay the same it makes no difference to a result when a command starts. -/
theorem result_of_constant {α : Type} (w : Surroundings) (c : Command α) (tick : Nat) (s : σ) :
    (c.report (fun _ => w) tick s).result = (c.report (fun _ => w) 0 s).result := by
  induction c generalizing tick s with
  | done result => rfl
  | view tx next ih => exact (ih _ _ _).trans (ih _ 1 _).symm
  | update tx next ih => exact (ih _ _ _).trans (ih _ 1 _).symm
  | ask call next ih => exact (ih _ _ _).trans (ih _ 1 _).symm
  | edit text next ih => exact (ih _ _ _).trans (ih _ 1 _).symm
  | clock next ih => exact (ih _ _ _).trans (ih _ 1 _).symm

/-- The notes that a report shows to be sent for an update. -/
def Report.sent {α : Type} (r : Report σ α) : List Note := sentIn r.events

/-- Whether an effect sends no note for an update. -/
def Effect.SendsNone (effect : Effect) : Prop := effect.event?.bind Event.sent? = none

variable {α : Type}

/-- A command that sends no note step by step sends none as a whole. -/
theorem KeepsTo.sent_eq_nil {c : Command α} (h : c.KeepsTo σ Effect.SendsNone)
    (world : Nat → Surroundings) (tick : Nat) (s : σ) : (c.report world tick s).sent = [] :=
  h.filterMap_events_eq_nil world tick s

/-- Looking for a notebook sends no note. -/
theorem sendsNone_findNotebook [LawfulBackend σ] (config : Config) (name : String) :
    (findNotebook config name).KeepsTo σ Effect.SendsNone := by
  have hseeks : SeeksNotebooks (Effect.Hidden Event.sent?) := .of_hidden fun _ => rfl
  exact keepsTo_findNotebook hseeks config name

end Command

/-! ## 2. One change

The report of a change is given in full, since the second change begins with the store that the
first one leaves. -/

/-- **Whether a text is the ordinal of a kept note**: the saved search can be read, and has this
note at the place. -/
inductive NamesKept (s : σ) (text : String) (old : Note) : Prop
  | intro {notes : List Note} {n : Nat}
      (hbucket : Backend.hasBucket s Slot.search.bucket = true)
      (hrecord : Slot.search.record s = .ok (some notes)) (hordinal : ordinal? text = some n)
      (hplace : notes[n - 1]? = some old)

section Changes

variable {s : σ} {text : String} {old : Note}

/-- A kept note is found by its ordinal, and nothing else is asked or done. -/
theorem NamesKept.report_note (h : NamesKept s text old) (config : Config)
    (world : Nat → Surroundings) (tick : Nat) :
    (note config text none).report world tick s = ⟨.ok old, s, [], tick + 1⟩ := by
  obtain ⟨hbucket, hrecord, hordinal, hplace⟩ := h
  obtain ⟨hlt, rfl⟩ := List.getElem?_eq_some_iff.1 hplace
  -- An ordinal counts from one.
  have hleast := of_decide_eq_true (Option.filter_eq_some_iff.1 hordinal).2
  exact report_note_of_record hbucket hrecord hordinal hleast (by omega) config none world tick

/-- **A new title through an ordinal**: the note is sent as it was found, with this title. -/
theorem NamesKept.report_changeTitle (h : NamesKept s text old)
    (haccepts : ∀ tick note, (world tick).remote (.updateNote note) = .ok ())
    (config : Config) (title : String) (tick : Nat) :
    (changeTitle config text title).report world tick s
      = ⟨.ok { old with title }, s, [.called (.updateNote { old with title }) (.ok ())],
          tick + 2⟩ := by
  unfold changeTitle
  rw [report_bind, h.report_note]
  simp only [Report.andThen]
  rw [report_bind, report_asked, haccepts]
  rfl

/-- **A move through an ordinal**: the note is sent as it was found, with its new notebook. -/
theorem NamesKept.report_moveNote (h : NamesKept s text old)
    (haccepts : ∀ tick note, (world tick).remote (.updateNote note) = .ok ())
    {config : Config} {name : String} {nb : Notebook} {tick : Nat}
    (hknown : ((findNotebook config name).report world (tick + 1) s).result = .ok nb) :
    let search := (findNotebook config name).report world (tick + 1) s
    let moved := { old with notebook := some nb }
    (moveNote config text name).report world tick s
      = ⟨.ok moved, search.store, search.journal ++ [.called (.updateNote moved) (.ok ())],
          search.tick + 1⟩ := by
  intro search moved
  unfold moveNote
  rw [report_bind, h.report_note]
  simp only [Report.andThen]
  rw [report_bind]
  change (search.andThen _).after [] = _
  have hsearch : search = ⟨.ok nb, search.store, search.journal, search.tick⟩ := by
    rw [← hknown]
  rw [hsearch]
  simp only [Report.andThen]
  rw [report_bind, report_asked, haccepts]
  rfl

theorem NamesKept.sent_changeTitle (h : NamesKept s text old)
    (haccepts : ∀ tick note, (world tick).remote (.updateNote note) = .ok ())
    (config : Config) (title : String) (tick : Nat) :
    ((changeTitle config text title).report world tick s).sent = [{ old with title }] := by
  rw [h.report_changeTitle haccepts]
  rfl

theorem NamesKept.sent_moveNote [LawfulBackend σ] (h : NamesKept s text old)
    (haccepts : ∀ tick note, (world tick).remote (.updateNote note) = .ok ())
    {config : Config} {name : String} {nb : Notebook} {tick : Nat}
    (hknown : ((findNotebook config name).report world (tick + 1) s).result = .ok nb) :
    ((moveNote config text name).report world tick s).sent
      = [{ old with notebook := some nb }] := by
  have hsearch := (sendsNone_findNotebook config name).sent_eq_nil world (tick + 1) s
  rw [h.report_moveNote haccepts hknown]
  unfold Report.sent Report.events sentIn at hsearch ⊢
  rw [List.filterMap_append, List.filterMap_append, hsearch]
  rfl

variable [LawfulBackend σ]

/-- **What was changed since the search is not sent.**  After any history without another search,
whatever it changed, an ordinal names the note that it named before it. -/
theorem NamesKept.storeAfter (h : NamesKept s text old) (steps : List Step) (tick : Nat)
    (hquiet : ∀ m ∈ history world steps tick s, ∀ found, ¬ m.Finds world found) :
    NamesKept (storeAfter world steps tick s) text old := by
  obtain ⟨hbucket, hrecord, hordinal, hplace⟩ := h
  have hkept := Slot.record_congr (α := List Note) (held_search_storeAfter hquiet)
  exact ⟨hasBucket_storeAfter hbucket steps tick, hkept.trans hrecord, hordinal, hplace⟩

/-- An operation that is no search is such a history. -/
theorem NamesKept.store_of_change (h : NamesKept s text old) (client : Client) (op : Operation)
    (hop : ∀ filter offset count, op ≠ .findNotes filter offset count)
    (world : Nat → Surroundings) (tick : Nat) :
    NamesKept ((client.perform op).report world tick s).store text old := by
  refine h.storeAfter [.operation client op] tick fun m hm found hfinds => ?_
  obtain rfl := List.mem_singleton.1 hm
  cases hfinds
  exact hop _ _ _ rfl

end Changes

/-! ## 3. Two changes

The two changes may be made by different clients, and through different numerals of one place. -/

/-- The notes that are sent for an update during a history. -/
def sentDuring (world : Nat → Surroundings) (ms : List (Moment σ)) : List Note :=
  ms.flatMap fun m => (m.report world).sent

theorem sentDuring_pair (world : Nat → Surroundings) (step step' : Step) (tick : Nat) (s : σ) :
    sentDuring world (history world [step, step'] tick s)
      = (step.command.report world tick s).sent
        ++ (step'.command.report world (step.command.report world tick s).tick
          (step.command.report world tick s).store).sent := by
  simp [sentDuring, history, Moment.report]

/-- Whether the last of these notes has this title and is in this notebook. -/
def LastHas (title : String) (nb : Notebook) (sent : List Note) : Prop :=
  ∃ last ∈ sent.getLast?, last.title = title ∧ last.notebook = some nb

/-- **What a new title and a move of one found note come to**, in either order.  The notes that are
sent are given in full, and what is kept of the first change follows from them. -/
structure ChangedInTurn (old : Note) (title : String) (nb : Notebook)
    (renamedThenMoved movedThenRenamed : List Note) : Prop where
  renamed_moved : renamedThenMoved = [{ old with title }, { old with notebook := some nb }]
  moved_renamed : movedThenRenamed = [{ old with notebook := some nb }, { old with title }]
  /-- The move undoes the new title, unless the note had it already. -/
  title_kept : LastHas title nb renamedThenMoved ↔ old.title = title
  /-- The new title undoes the move, unless the note was there already. -/
  notebook_kept : LastHas title nb movedThenRenamed ↔ old.notebook = some nb

/-- **The later of two changes through an ordinal undoes the earlier one.**  A found note is given
a new title and moved, in either order, and the remote service accepts both: the note that is sent
last has both changes just when the search had found it with the earlier one. -/
theorem later_change_undoes_earlier [LawfulBackend σ] {s : σ} {notes : List Note} {old : Note}
    {n : Nat} {first second : String} (hbucket : Backend.hasBucket s Slot.search.bucket = true)
    (hrecord : Slot.search.record s = .ok (some notes)) (hplace : notes[n - 1]? = some old)
    (hfirst : ordinal? first = some n) (hsecond : ordinal? second = some n)
    (haccepts : ∀ tick note, (world tick).remote (.updateNote note) = .ok ())
    (renamer mover : Client) (title name : String) {nb : Notebook}
    (hknown : ∀ tick, ((findNotebook mover.config name).report world tick s).result = .ok nb)
    (tick : Nat) :
    ChangedInTurn old title nb
      (sentDuring world (history world
        [.operation renamer (.changeTitle first title), .operation mover (.moveNote second name)]
        tick s))
      (sentDuring world (history world
        [.operation mover (.moveNote first name), .operation renamer (.changeTitle second title)]
        tick s)) := by
  have hnamed : NamesKept s first old := ⟨hbucket, hrecord, hfirst, hplace⟩
  have hnamed' : NamesKept s second old := ⟨hbucket, hrecord, hsecond, hplace⟩
  have hrenamed_moved : sentDuring world (history world
      [.operation renamer (.changeTitle first title), .operation mover (.moveNote second name)]
      tick s) = [{ old with title }, { old with notebook := some nb }] := by
    rw [sentDuring_pair]
    -- A new title leaves the store as it is, so the notebook is still known.
    change ((changeTitle renamer.config first title).report world tick s).sent
      ++ ((moveNote mover.config second name).report world
        ((changeTitle renamer.config first title).report world tick s).tick
        ((changeTitle renamer.config first title).report world tick s).store).sent = _
    rw [hnamed.sent_changeTitle haccepts, hnamed.report_changeTitle haccepts,
      hnamed'.sent_moveNote haccepts (hknown _)]
    rfl
  have hmoved_renamed : sentDuring world (history world
      [.operation mover (.moveNote first name), .operation renamer (.changeTitle second title)]
      tick s) = [{ old with notebook := some nb }, { old with title }] := by
    have hmoved : NamesKept ((moveNote mover.config first name).report world tick s).store
        second old := hnamed'.store_of_change mover (.moveNote first name) nofun world tick
    rw [sentDuring_pair]
    change ((moveNote mover.config first name).report world tick s).sent
      ++ ((changeTitle renamer.config second title).report world
        ((moveNote mover.config first name).report world tick s).tick
        ((moveNote mover.config first name).report world tick s).store).sent = _
    rw [hnamed.sent_moveNote haccepts (hknown _), hmoved.sent_changeTitle haccepts]
    rfl
  exact ⟨hrenamed_moved, hmoved_renamed, by simp [hrenamed_moved, LastHas],
    by simp [hmoved_renamed, LastHas]⟩

namespace Sample

def cellar : Notebook := { name := "Cellar", guid := "nb-1" }

/-- Surroundings in which notes can be changed, and there is one notebook. -/
def pantry : Surroundings where
  remote
    | .updateNote _ => .ok ()
    | .allNotebooks => .ok [cellar]
    | _ => .error (.remote "offline")
  editor := .ok
  fault := .none
  now := .epoch

end Sample

/-- The second note found is renamed and moved: the move sends its old title, and the new title is
sent without the move. -/
theorem pears_changed_in_turn :
    let s := (Sample.gathered.report Sample.orchard).store
    ChangedInTurn Sample.pears "Quinces" Sample.cellar
      (sentDuring (fun _ => Sample.pantry) (history (fun _ => Sample.pantry)
        [.operation Sample.gatherer (.changeTitle "2" "Quinces"),
          .operation Sample.gatherer (.moveNote "2" "Cellar")] 0 s))
      (sentDuring (fun _ => Sample.pantry) (history (fun _ => Sample.pantry)
        [.operation Sample.gatherer (.moveNote "2" "Cellar"),
          .operation Sample.gatherer (.changeTitle "2" "Quinces")] 0 s)) := by
  have hfinds : Sample.gathered.Finds Sample.orchard [Sample.apples, Sample.pears] :=
    .intro (by rfl)
  have hkept : Slot.search.Holds [Sample.apples, Sample.pears]
    (Sample.gathered.report Sample.orchard).store := hfinds.holds
  have hknown : ((findNotebook {} "Cellar").report (fun _ => Sample.pantry) 0
      (Sample.gathered.report Sample.orchard).store).result = .ok Sample.cellar := by
    decide +kernel
  exact later_change_undoes_earlier hkept.hasBucket hkept.record (n := 2) rfl (by decide)
    (by decide) (fun _ _ => rfl) Sample.gatherer Sample.gatherer "Quinces" "Cellar"
    (fun tick => (result_of_constant _ _ tick _).trans hknown) 0

end Notekeeper
