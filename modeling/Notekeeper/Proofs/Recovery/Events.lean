import Notekeeper.Proofs.Recovery.Edit

/-!
# What the recovery slot holds

Two things ever happen to the recovery slot: a lost save puts the note there, and a settled one
empties it.  Whatever else a history is made of, the last of these events tells what the slot
holds.

The argument is about one moment first.  An operation other than an edit does not have the slot in
its footprint, and neither has an opening, so these leave it alone (`Client.spares_perform`).  An
edit reads the slot when it looks for its note, which changes nothing; what it writes after that is
what its journal ends in.  By `Edit.event_or_unwritten` this is the refused note if the save was
lost, the slot made empty if it was settled, and nothing in all other cases: a failed load, a failed
editor, an unchanged text, a note that was taken without recovering, a recovery point that could
not be stored or forgotten.

From there a history is taken moment by moment, with `LastEvent` as what holds after each of them.
A moment that is an event tells what the slot holds by itself, whatever was before it; any other
one leaves the slot, and so what the last event told stays true.

What was put into the slot reads back as it is written.  That is the note itself, unless it was
created or updated in a leap second that ends no minute: such a timestamp has no text of its own
(`Timestamp.asWritten`).

* `Moment.SetsRecovery` : the events.
* `Moment.held_of_not_setsRecovery` : all other moments leave the slot alone.
* `recovery_told_by_lastEvent` : what the slot holds after a history.
* `recovery_of_leap_decodes_later` : a note that does not read back as it was.
-/

namespace Notekeeper

open Command

variable {σ : Type} [Backend σ]

/-! ## 1. The slot after one moment -/

/-- Whether a moment is one of the two events. -/
def Moment.SetsRecovery (world : Nat → Surroundings) (m : Moment σ) : Prop :=
  ∃ e : Edit σ, m = e.moment
    ∧ ((∃ loaded text save, LostSave world e loaded text save)
      ∨ ∃ note, SettledSave world e note)

section Moments

variable [LawfulBackend σ] {world : Nat → Surroundings}

/-- The recovery slot after an edit, from what its journal ends in. -/
theorem Edit.held_report (e : Edit σ) {effects : List Effect}
    (h : (e.report world).journal = (e.loading world).journal ++ effects) :
    Slot.recovery.held (e.report world).store
      = Transaction.replay Slot.recovery.bucket Slot.recovery.key
          (effects.filterMap Effect.op?) (Slot.recovery.held e.store) := by
  have hspared : (noteToEdit e.client.codec e.client.config e.title e.opts).Spares σ .recovery :=
    spares_noteToEdit _ _ _ _
  have hloading := replay_of_not_touches (hspared world e.tick e.store)
    (Slot.recovery.held e.store)
  have hget : Slot.recovery.held (e.report world).store
      = Transaction.replay Slot.recovery.bucket Slot.recovery.key (e.report world).writes
          (Slot.recovery.held e.store) := get_report world _ _ _ _ _
  rw [hget, Report.writes, h, List.filterMap_append, Transaction.replay, List.foldl_append]
  exact congrArg (List.foldl _ · _) hloading

theorem LostSave.held {e : Edit σ} {loaded : Note} {text : String} {save : Error}
    (h : LostSave world e loaded text save) : Slot.recovery.held (e.report world).store
      = some (Record.encode (e.made loaded text)) := by
  rw [e.held_report h.journal]
  exact Slot.replay_putting .recovery _ _

theorem SettledSave.held {e : Edit σ} {note : Note} (h : SettledSave world e note) :
    Slot.recovery.held (e.report world).store = none := by
  obtain ⟨loaded, text, -, -, hjournal⟩ := h.exists_journal
  rw [e.held_report hjournal]
  exact Slot.replay_emptying .recovery _

/-- **A moment that is neither event leaves the slot as it was.**  This includes edits that end in
an error, as long as it is not that of a save that was kept. -/
theorem Moment.held_of_not_setsRecovery (m : Moment σ) (h : ¬ m.SetsRecovery world) :
    Slot.recovery.held (m.report world).store = Slot.recovery.held m.store := by
  obtain ⟨step, tick, s⟩ := m
  cases step with
  | opening =>
    have hspared : upgradeStore.Spares σ .recovery :=
      spares_upgradeStore (by decide) (by decide)
    exact hspared.held world tick s
  | operation client op =>
    by_cases hop : Slot.recovery ∈ op.slots
    · obtain ⟨title, opts, rfl⟩ := Operation.eq_editNote_of_recovery_mem hop
      let e : Edit σ := ⟨client, title, opts, tick, s⟩
      rcases e.event_or_unwritten world with hlost | hsettled | ⟨effects, hjournal, hop⟩
      · exact absurd ⟨e, rfl, .inl hlost⟩ h
      · exact absurd ⟨e, rfl, .inr hsettled⟩ h
      · have hheld := e.held_report hjournal
        rw [hop] at hheld
        exact hheld
    · exact (client.spares_perform hop).held world tick s

/-! ## 2. The slot after a history -/

/-- What the edited note has of the note that was loaded and of the text that came back. -/
theorem editedNote_parts (codec : Codec) (loaded : Note) (raw : Bool) (text : String) :
    let note := editedNote codec loaded raw text
    note.guid = loaded.guid ∧ note.buffer raw = EditBuffer.parse text := by
  cases raw <;> exact ⟨rfl, rfl⟩

/-- Writing a note down changes nothing of this. -/
theorem asWritten_parts (note : Note) (raw : Bool) :
    note.asWritten.guid = note.guid ∧ note.asWritten.buffer raw = note.buffer raw := by
  cases raw <;> exact ⟨rfl, rfl⟩

/-- **What the moments of a history tell of the recovery slot** that they leave in a store, where
it held `start` before them. -/
inductive LastEvent (world : Nat → Surroundings) (start : Option Bytes)
    (moments : List (Moment σ)) (final : σ) : Prop
  /-- The last event was a lost save.  The slot says the note that was edited, as it was refused
  but without its envelope, and with its timestamps as they are written.  It has the identifier of
  the note that was loaded, and the title and content of the edited buffer. -/
  | lost {before since : List (Moment σ)} {e : Edit σ} {loaded : Note} {text : String}
      {save : Error} (hmoments : moments = before ++ e.moment :: since)
      (hevent : LostSave world e loaded text save)
      (hsince : ∀ m ∈ since, ¬ m.SetsRecovery world)
      (hheld : Slot.recovery.held final = some (Record.encode (e.made loaded text)))
      (hrecord : Slot.recovery.record final = .ok (some (e.made loaded text).asWritten))
      (hguid : (e.made loaded text).asWritten.guid = loaded.guid)
      (hbuffer : (e.made loaded text).asWritten.buffer e.opts.raw = EditBuffer.parse text)
  /-- The last event was a settled save.  The slot is empty. -/
  | settled {before since : List (Moment σ)} {e : Edit σ} {note : Note}
      (hmoments : moments = before ++ e.moment :: since)
      (hevent : SettledSave world e note)
      (hsince : ∀ m ∈ since, ¬ m.SetsRecovery world)
      (hheld : Slot.recovery.held final = none)
  /-- There was no event.  The slot is as it was. -/
  | none (hmoments : ∀ m ∈ moments, ¬ m.SetsRecovery world)
      (hheld : Slot.recovery.held final = start)

/-- What the last event tells outlives a moment that is no event. -/
theorem LastEvent.snoc {start : Option Bytes} {past : List (Moment σ)} {m : Moment σ}
    (h : LastEvent world start past m.store) (hm : ¬ m.SetsRecovery world) :
    LastEvent world start (past ++ [m]) (m.report world).store := by
  have hsame := m.held_of_not_setsRecovery hm
  have hquiet {since : List (Moment σ)} (hsince : ∀ m ∈ since, ¬ m.SetsRecovery world) :
      ∀ m' ∈ since ++ [m], ¬ m'.SetsRecovery world := by
    intro m' hm'
    rcases List.mem_append.1 hm' with hm' | hm'
    · exact hsince m' hm'
    · rw [List.mem_singleton.1 hm']
      exact hm
  cases h with
  | @lost before since e loaded text save hmoments hevent hsince hheld hrecord hguid hbuffer =>
    have hlater : past ++ [m] = before ++ e.moment :: (since ++ [m]) := by
      rw [hmoments, List.append_assoc, List.cons_append]
    have hheld' := hsame.trans hheld
    exact .lost hlater hevent (hquiet hsince) hheld' (Slot.record_of_held_encode hheld') hguid
      hbuffer
  | @settled before since e note hmoments hevent hsince hheld =>
    have hlater : past ++ [m] = before ++ e.moment :: (since ++ [m]) := by
      rw [hmoments, List.append_assoc, List.cons_append]
    exact .settled hlater hevent (hquiet hsince) (hsame.trans hheld)
  | none hmoments hheld => exact .none (hquiet hmoments) (hsame.trans hheld)

/-- A moment that is an event tells by itself what the slot holds. -/
theorem Moment.SetsRecovery.lastEvent {m : Moment σ} (h : m.SetsRecovery world)
    (start : Option Bytes) (past : List (Moment σ)) :
    LastEvent world start (past ++ [m]) (m.report world).store := by
  obtain ⟨e, rfl, ⟨loaded, text, save, hlost⟩ | ⟨note, hsettled⟩⟩ := h
  · obtain ⟨hguid, hbuffer⟩ := editedNote_parts e.client.codec loaded e.opts.raw text
    obtain ⟨hguid', hbuffer'⟩ := asWritten_parts (e.made loaded text) e.opts.raw
    exact .lost rfl hlost (by simp) hlost.held (Slot.record_of_held_encode hlost.held)
      (hguid'.trans hguid) (hbuffer'.trans hbuffer)
  · exact .settled rfl hsettled (by simp) hsettled.held

/-- **The last event of a history tells what the recovery slot holds after it**, whatever else the
history is made of.  Without any event it holds what it held when the history began. -/
theorem recovery_told_by_lastEvent (world : Nat → Surroundings) (steps : List Step) (tick : Nat)
    (s : σ) : LastEvent world (Slot.recovery.held s) (history world steps tick s)
      (storeAfter world steps tick s) := by
  refine history_induction (fun past m hpast => ?_) steps tick s [] (.none (by simp) rfl)
  by_cases hm : m.SetsRecovery world
  · exact hm.lastEvent _ past
  · exact hpast.snoc hm

/-- A history with one lost save. -/
theorem recovery_told_by_lostEdit :
    LostSave Sample.world Sample.lostEdit Sample.loaded "Foo\n\nnew" Sample.refusal
    ∧ LastEvent Sample.world (Slot.recovery.held Sample.lostEdit.store)
      (history Sample.world [Sample.lostEdit.moment.step] 0 Sample.lostEdit.store)
      (storeAfter Sample.world [Sample.lostEdit.moment.step] 0 Sample.lostEdit.store) :=
  ⟨Sample.lostSave_lostEdit, recovery_told_by_lastEvent _ _ _ _⟩

end Moments

namespace Sample

/-- The note of the lost edit, had it been created in a stray leap second. -/
def leaping : Note := { title := "Foo", guid := "n-1", created := some strayLeap }

/-- The surroundings of the lost edit with this note in them. -/
def leapWorld (tick : Nat) : Surroundings :=
  { world tick with
    remote
      | .findNotes _ _ _ => .ok [leaping]
      | call => (world tick).remote call }

theorem alike_leapWorld : Alike leapWorld := ⟨fun _ => rfl, fun _ _ => rfl, by decide +kernel⟩

def leapLoaded : Note := { loaded with created := some strayLeap }

theorem lostSave_leapWorld : LostSave leapWorld lostEdit leapLoaded "Foo\n\nnew" refusal :=
  alike_leapWorld.lostSave (eq_ok_of_toOption (by decide +kernel)) (by decide +kernel)
    fun _ _ _ => rfl

end Sample

/-- **The slot need not tell the very note of the lost save.**  One that was created in a stray
leap second decodes to a note that was created in the second after. -/
theorem recovery_of_leap_decodes_later :
    let made := Sample.lostEdit.made Sample.leapLoaded "Foo\n\nnew"
    LostSave Sample.leapWorld Sample.lostEdit Sample.leapLoaded "Foo\n\nnew" Sample.refusal
    ∧ Slot.recovery.record (Sample.lostEdit.report Sample.leapWorld).store
      = .ok (some made.asWritten)
    ∧ made.asWritten ≠ made := by
  have hlost := Sample.lostSave_leapWorld
  have hcreated : (Sample.lostEdit.made Sample.leapLoaded "Foo\n\nnew").asWritten.created
      ≠ (Sample.lostEdit.made Sample.leapLoaded "Foo\n\nnew").created := by decide
  exact ⟨hlost, Slot.record_of_held_encode hlost.held, fun h => hcreated (congrArg Note.created h)⟩

end Notekeeper
