import Notekeeper.Proofs.Command.Calling
import Notekeeper.Proofs.Editing.Acting
import Notekeeper.Proofs.Markup.Envelope
import Notekeeper.Proofs.Searching.Changing

/-!
# Notes that are sent without their content

The remote service tells of the notes that it finds everything but their content.  A note that gets
another title or notebook is sent as it was found, so it goes without a body.  A note that somebody
wrote goes in an envelope, and that is something even around nothing.  So the body of a note that is
sent shows which of the two it is, and a note without content is not mistaken for an emptied one.

Five operations send notes, and each sends what one command makes.  For three of them the note is in
an envelope, whatever it is.  For the other two it is a note that an ordinal or a title named, and
the question is where this comes from.  A title is looked up at the service.  An ordinal is a place
in the saved search, and what is saved there is an answer of the service, as long as nothing else
was in the slot when the history began.  That is the invariant (`KeepsFound`): a search that goes
well puts its answer there, and every other moment leaves the slot alone.

Being read from the store a note may have its times as they are written, and not as they were found.
`Recalled` allows for this; the body and the other fields are not concerned.

* `Recalled`, `KeepsFound` : notes that the remote service found, and stores that hold no others.
* `SentBy` : the ways in which a note is sent.
* `Moment.sentBy` : every note is sent in one of them.
* `SentApart` : what the body of a note tells.
* `sent_apart` : a note without content is not mistaken for an empty one.
-/

namespace Notekeeper

open Command

variable {σ : Type} [Backend σ] {world : Nat → Surroundings}

/-! ## 1. Notes that were found

A note may be given by the service just now, or by the store from an earlier search.  In the second
case its times are as they are written. -/

/-- **Whether the remote service finds a note**, at some time and by some search. -/
inductive Found (world : Nat → Surroundings) (note : Note) : Prop
  | intro {tick : Nat} {filter : NoteFilter} {offset count : Nat} {notes : List Note}
      (hanswer : (world tick).remote (.findNotes filter offset count) = .ok notes)
      (hmem : note ∈ notes)

/-- Whether the remote service finds notes without their content. -/
def FindsMetadata (world : Nat → Surroundings) : Prop :=
  ∀ (tick : Nat) (filter : NoteFilter) (offset count : Nat) (notes : List Note),
    (world tick).remote (.findNotes filter offset count) = .ok notes →
      ∀ note ∈ notes, note.body = ""

theorem Found.body_eq {note : Note} (h : Found world note) (hbare : FindsMetadata world) :
    note.body = "" := by
  obtain ⟨hanswer, hmem⟩ := h
  exact hbare _ _ _ _ _ hanswer _ hmem

/-- **Whether a note was found, or is a found one as a store keeps it**: with its timestamps as they
are written. -/
inductive Recalled (world : Nat → Surroundings) : Note → Prop
  | found {note : Note} (h : Found world note) : Recalled world note
  | kept {note : Note} (h : Found world note) : Recalled world note.asWritten

theorem Recalled.body_eq {note : Note} (h : Recalled world note) (hbare : FindsMetadata world) :
    note.body = "" := by
  cases h with
  | found h => exact h.body_eq hbare
  | @kept note h => exact (rfl : note.asWritten.body = note.body).trans (h.body_eq hbare)

/-- **Whether the notes that a store keeps of a search were found.**  A store that keeps none, or
has bytes there that are no such record, is one too. -/
def KeepsFound (world : Nat → Surroundings) (s : σ) : Prop :=
  ∀ notes : List Note, Slot.search.record s = .ok (some notes) →
    ∀ note ∈ notes, Recalled world note

theorem keepsFound_of_held_none {s : σ} (h : Slot.search.held s = none) : KeepsFound world s := by
  intro notes hrecord
  rw [Slot.record_of_held_none h] at hrecord
  cases hrecord

/-- What a store keeps of a search hangs on one entry. -/
theorem KeepsFound.congr {s s' : σ} (h : KeepsFound world s)
    (hsame : Slot.search.held s' = Slot.search.held s) : KeepsFound world s' := by
  intro notes hrecord
  rw [Slot.record_congr hsame] at hrecord
  exact h notes hrecord

namespace Command

variable {s : σ} {tick : Nat}

/-- The saved search, read from such a store, has notes that were found. -/
theorem found_of_lastSearch (h : KeepsFound world s) {notes : List Note}
    (hlast : (lastSearch.report world tick s).result = .ok notes) :
    ∀ note ∈ notes, Recalled world note := by
  intro note hnote
  obtain ⟨-, hrecord⟩ := record_of_lastSearch hlast (List.ne_nil_of_mem hnote)
  exact h notes hrecord note hnote

theorem found_of_titledNote {config : Config} {title guid : String} {note : Note}
    (h : ((titledNote config title guid).report world tick s).result = .ok note) :
    Found world note := by
  rw [report_titledNote] at h
  obtain ⟨notes, hanswer, hpick⟩ := bind_eq_ok_iff.1 h
  exact ⟨hanswer, List.mem_of_find?_eq_some (find?_of_pickTitled hpick)⟩

/-- **A note that an ordinal or a title names was found**, if the store keeps such notes only.  By a
title it was found just now, and by an ordinal when the search was kept. -/
theorem found_of_note (h : KeepsFound world s) {config : Config} {title : String}
    {within : Option String} {found : Note}
    (hnote : ((note config title within).report world tick s).result = .ok found) :
    Recalled world found := by
  unfold note at hnote
  rw [report_bind, Report.result_andThen] at hnote
  obtain ⟨numbered, hnumbered, hnote⟩ := bind_eq_ok_iff.1 hnote
  cases numbered with
  | some named =>
    obtain rfl : named = found := Except.ok.inj hnote
    unfold noteByOrdinal at hnumbered
    cases hordinal : ordinal? title with
    | none =>
      rw [hordinal] at hnumbered
      cases hnumbered
    | some n =>
      rw [hordinal] at hnumbered
      simp only [report_bind, Report.result_andThen] at hnumbered
      obtain ⟨notes, hnotes, hplace⟩ := bind_eq_ok_iff.1 hnumbered
      exact found_of_lastSearch h hnotes named (List.mem_of_getElem? (Except.ok.inj hplace))
  | none =>
    simp only [noteByTitle_eq, report_bind, Report.result_andThen] at hnote
    obtain ⟨guid, -, hnote⟩ := bind_eq_ok_iff.1 hnote
    exact .found (found_of_titledNote hnote)

/-- A search gives what the remote service answers. -/
theorem answer_of_findNotes {filter : NoteFilter} {offset count : Nat} {notes : List Note}
    (h : ((findNotes filter offset count).report world tick s).result = .ok notes) :
    (world tick).remote (.findNotes filter offset count) = .ok notes := by
  unfold findNotes at h
  simp only [report_bind, Report.result_andThen] at h
  obtain ⟨found, hanswer, h⟩ := bind_eq_ok_iff.1 h
  obtain ⟨_, -, hnotes⟩ := bind_eq_ok_iff.1 h
  obtain rfl : found = notes := Except.ok.inj hnotes
  exact hanswer

end Command

section Runs

variable [LawfulBackend σ]

/-- **Every moment leaves a store that keeps found notes only**, if it begins with one. -/
theorem Moment.keepsFound_report (m : Moment σ) (h : KeepsFound world m.store) :
    KeepsFound world (m.report world).store := by
  obtain ⟨step, tick, s⟩ := m
  cases step with
  | opening =>
    have hspared : upgradeStore.Spares σ .search := spares_upgradeStore (by decide) (by decide)
    exact h.congr (hspared.held world tick s)
  | operation client op =>
    by_cases hop : Slot.search ∈ op.slots
    · obtain ⟨filter, offset, count, rfl⟩ := Operation.eq_findNotes_of_search_mem hop
      cases searched_findNotes world filter offset count tick s with
      | found found hresult hholds =>
        intro notes hrecord note hnote
        obtain rfl : found.map Note.asWritten = notes :=
          Option.some.inj (Except.ok.inj (hholds.record.symm.trans hrecord))
        obtain ⟨note, hmem, rfl⟩ := List.mem_map.1 hnote
        exact .kept ⟨answer_of_findNotes hresult, hmem⟩
      | failed e _ hstore => exact hstore.symm ▸ h
    · exact h.congr ((client.spares_perform hop).held world tick s)

end Runs

/-! ## 2. Notes that are sent

The cases of `SentBy` are the operations that send notes, each with what it sends. -/

/-- The note that a call sends. -/
def RemoteCall.note? : RemoteCall → Option Note
  | .updateNote note | .createNote note => some note
  | _ => none

/-- **The ways in which a note is sent**: as it was found, with another title or notebook, or in an
envelope. -/
inductive SentBy (world : Nat → Surroundings) : Step → RemoteCall → Prop
  | retitled {client : Client} {old new : String} {found : Note} (hfound : Recalled world found) :
    SentBy world (.operation client (.changeTitle old new))
      (.updateNote { found with title := new })
  | moved {client : Client} {title name : String} {found : Note} {nb : Notebook}
      (hfound : Recalled world found) :
    SentBy world (.operation client (.moveNote title name))
      (.updateNote { found with notebook := some nb })
  | edited {client : Client} {title : String} {opts : EditOptions} {note : Note} :
    SentBy world (.operation client (.editNote title opts)) (.updateNote (outgoing note))
  | composed {client : Client} {title : Option String} {raw : Bool} {note : Note} :
    SentBy world (.operation client (.createNoteInEditor title raw)) (.createNote (outgoing note))
  | saved {client : Client} {new note : Note} {raw : Bool} :
    SentBy world (.operation client (.saveNewNote new raw)) (.createNote (outgoing note))

namespace Command

variable [LawfulBackend σ] {s : σ} {tick : Nat} {call : RemoteCall}
  {answer : Except Error call.Answer}

/-- A note that gets another title is sent as it was found, and no other note is. -/
theorem sentBy_changeTitle (hs : KeepsFound world s) {client : Client} {old new : String}
    (hsends : call.name = "update_note")
    (h : .called call answer
      ∈ ((changeTitle client.config old new).report world tick s).events) :
    SentBy world (.operation client (.changeTitle old new)) call := by
  have hlooks : (note client.config old none).KeepsTo σ
      (Effect.Calls ["get_all_notebooks", "find_notes"]) := client.calls_perform (.note old none)
  rcases mem_events_bind h with h | ⟨found, hfound, h⟩
  · have hname := hlooks.name_of_called h
    simp [hsends] at hname
  · obtain rfl := eq_of_mem_events_send h
    exact .retitled (found_of_note hs hfound)

theorem sentBy_moveNote (hs : KeepsFound world s) {client : Client} {title name : String}
    (hsends : call.name = "update_note")
    (h : .called call answer
      ∈ ((moveNote client.config title name).report world tick s).events) :
    SentBy world (.operation client (.moveNote title name)) call := by
  have hlooks : (note client.config title none).KeepsTo σ
      (Effect.Calls ["get_all_notebooks", "find_notes"]) := client.calls_perform (.note title none)
  have hfinds : (findNotebook client.config name).KeepsTo σ (Effect.Calls ["get_all_notebooks"]) :=
    client.calls_perform (.findNotebook name)
  rcases mem_events_bind h with h | ⟨found, hfound, h⟩
  · have hname := hlooks.name_of_called h
    simp [hsends] at hname
  · rcases mem_events_bind h with h | ⟨nb, -, h⟩
    · have hname := hfinds.name_of_called h
      simp [hsends] at hname
    · obtain rfl := eq_of_mem_events_send h
      exact .moved (found_of_note hs hfound)

end Command

section Moments

variable [LawfulBackend σ]

/-- **Every note is sent in one of these ways**, from a store that keeps found notes only. -/
theorem Moment.sentBy (m : Moment σ) (hs : KeepsFound world m.store) {call : RemoteCall}
    {answer : Except Error call.Answer} {sent : Note}
    (h : .called call answer ∈ (m.report world).events) (hsent : call.note? = some sent) :
    SentBy world m.step call := by
  obtain ⟨step, tick, s⟩ := m
  cases step with
  | opening =>
    have hcalls : upgradeStore.KeepsTo σ (Effect.Calls []) := by
      refine .bind (keepsTo_viewed _) fun found => ?_
      split
      · exact keepsTo_done _
      · exact keepsTo_updated fun _ _ _ _ => trivial
    exact absurd (hcalls.name_of_called h) List.not_mem_nil
  | operation client op =>
    have hname := (client.calls_perform op).name_of_called h
    cases call with
    | updateNote note =>
      cases op with
      | changeTitle old new => exact sentBy_changeTitle hs rfl h
      | moveNote title name => exact sentBy_moveNote hs rfl h
      | editNote title opts =>
        obtain ⟨loaded, text, -, -, rfl, -⟩ :=
          Edit.exists_due_of_updateNote (e := ⟨client, title, opts, tick, s⟩) h
        exact .edited
      | _ => simp [RemoteCall.name] at hname
    | createNote note =>
      cases op with
      | createNoteInEditor title raw =>
        rcases mem_events_bind h with h | ⟨text, -, h⟩
        · rw [report_edited] at h
          cases List.mem_singleton.1 h
        · obtain rfl := RemoteCall.createNote.inj (eq_of_mem_events_send h)
          exact .composed
      | saveNewNote new raw =>
        obtain rfl := RemoteCall.createNote.inj (eq_of_mem_events_send h)
        exact .saved
      | _ => simp [RemoteCall.name] at hname
    | _ => cases hsent

end Moments

/-! ## 3. Notes without content

What was found has no body, and what was written has an envelope, which is never empty. -/

/-- **Steps that give a note another title or notebook.** -/
inductive Step.Relabels : Step → Prop
  | title (client : Client) (old new : String) : Relabels (.operation client (.changeTitle old new))
  | notebook (client : Client) (title name : String) :
    Relabels (.operation client (.moveNote title name))

/-- **Steps that send what somebody wrote**, over an old note or as a new one. -/
inductive Step.Composes : Step → Prop
  | edit (client : Client) (title : String) (opts : EditOptions) :
    Composes (.operation client (.editNote title opts))
  | create (client : Client) (title : Option String) (raw : Bool) :
    Composes (.operation client (.createNoteInEditor title raw))
  | save (client : Client) (note : Note) (raw : Bool) :
    Composes (.operation client (.saveNewNote note raw))

/-- **What can be told of the step that sends a note by looking at its body.**  Nothing but the note
is looked at, as the service gets no more. -/
structure SentApart (world : Nat → Surroundings) (step : Step) (sent : Note) : Prop where
  bare : sent.body = "" ↔ step.Relabels
  enveloped : (∃ body, sent.body = Envelope.wrap body) ↔ step.Composes
  /-- What somebody wrote never goes without a body. -/
  filled (h : step.Composes) : sent.body ≠ ""
  /-- A note without content is otherwise as it was found, or kept since, but for what the step
  changes. -/
  found (h : step.Relabels) : ∃ found, Recalled world found
    ∧ sent = { found with title := sent.title, notebook := sent.notebook }

theorem Step.Composes.not_relabels {step : Step} (h : step.Composes) : ¬ step.Relabels := by
  intro hrelabels
  cases h <;> cases hrelabels

/-- An envelope is something, for it can be opened. -/
theorem Envelope.wrap_ne_empty (body : String) : Envelope.wrap body ≠ "" := by
  intro h
  have hunwrap := Envelope.unwrap_wrap body
  rw [h] at hunwrap
  cases hunwrap

section Bodies

variable {step : Step} {sent : Note}

/-- A note that is sent as it was found has no body. -/
theorem sentApart_of_relabels (hstep : step.Relabels) (hbare : FindsMetadata world) {found : Note}
    (hfound : Recalled world found)
    (hsame : sent = { found with title := sent.title, notebook := sent.notebook }) :
    SentApart world step sent := by
  have hbody : sent.body = "" := by
    rw [hsame]
    exact hfound.body_eq hbare
  have hopen : ¬ ∃ body, sent.body = Envelope.wrap body := by
    rintro ⟨body, hwrap⟩
    exact Envelope.wrap_ne_empty body (hwrap.symm.trans hbody)
  have hnot : ¬ step.Composes := fun h => h.not_relabels hstep
  exact ⟨iff_of_true hbody hstep, iff_of_false hopen hnot, fun h => absurd h hnot,
    fun _ => ⟨found, hfound, hsame⟩⟩

/-- A note that somebody wrote has an envelope for its body. -/
theorem sentApart_of_composes (hstep : step.Composes) (note : Note) :
    SentApart world step (outgoing note) := by
  have hfull : (outgoing note).body ≠ "" := Envelope.wrap_ne_empty note.body
  exact ⟨iff_of_false hfull hstep.not_relabels, iff_of_true ⟨note.body, rfl⟩ hstep, fun _ => hfull,
    fun h => absurd h hstep.not_relabels⟩

theorem SentBy.apart {call : RemoteCall} (h : SentBy world step call)
    (hbare : FindsMetadata world) (hsent : call.note? = some sent) :
    SentApart world step sent := by
  cases h <;> cases hsent
  case retitled hfound => exact sentApart_of_relabels (.title _ _ _) hbare hfound rfl
  case moved hfound => exact sentApart_of_relabels (.notebook _ _ _) hbare hfound rfl
  case edited => exact sentApart_of_composes (.edit _ _ _) _
  case composed => exact sentApart_of_composes (.create _ _ _) _
  case saved => exact sentApart_of_composes (.save _ _ _) _

end Bodies

/-- **A note that is sent without its content is not mistaken for one that was emptied.**  From a
store where nothing was searched yet, and with a remote service that finds notes without their
content, every note that is sent shows by its body which of the two it is. -/
theorem sent_apart [LawfulBackend σ] (hbare : FindsMetadata world) {s : σ}
    (hfresh : Slot.search.held s = none) (steps : List Step) (tick : Nat) :
    ∀ m ∈ history world steps tick s, ∀ (call : RemoteCall) (answer : Except Error call.Answer)
      (sent : Note), .called call answer ∈ (m.report world).events → call.note? = some sent →
        SentApart world m.step sent := by
  intro m hm call answer sent hcalled hsent
  have hstart : KeepsFound world s := keepsFound_of_held_none hfresh
  have hkeeps := (history_keeps (fun m => m.keepsFound_report) steps tick hstart).1 m hm
  exact (m.sentBy hkeeps hcalled hsent).apart hbare hsent

namespace Sample

theorem findsMetadata_orchard : FindsMetadata orchard := by
  intro tick filter offset count notes hanswer note hnote
  simp only [orchard] at hanswer
  split at hanswer
  · cases hanswer
    simp only [List.mem_cons, List.not_mem_nil, or_false] at hnote
    rcases hnote with rfl | rfl <;> rfl
  · cases hanswer

/-- The second note that was found gets another title. -/
def relabelling : Moment Buckets :=
  gathered.next orchard (.operation gatherer (.changeTitle "2" "Quinces"))

/-- A note about plums, with nothing in it. -/
def plums : Note := { title := "Plums" }

/-- Then a new note is created that is empty. -/
def adding : Moment Buckets :=
  relabelling.next orchard (.operation gatherer (.saveNewNote plums true))

theorem events_relabelling : (relabelling.report orchard).events
    = [.called (.updateNote { pears with title := "Quinces" }) (.ok ())] := by
  have hfinds : gathered.Finds orchard [apples, pears] := .intro (by rfl)
  have hnamed : NamesKept (gathered.report orchard).store "2" pears :=
    ⟨hfinds.holds.hasBucket, hfinds.holds.record, (by decide : ordinal? "2" = some 2), rfl⟩
  have haccepts (tick : Nat) (note : Note) :
      (orchard tick).remote (.updateNote note) = .ok () := rfl
  have hreport := hnamed.report_changeTitle haccepts gatherer.config "Quinces"
    (gathered.report orchard).tick
  exact congrArg Report.events hreport

theorem events_adding : (adding.report orchard).events
    = [.called (.createNote (outgoing plums)) (.error (.remote "offline"))] := rfl

end Sample

/-- A note that is renamed and one that is created empty, in one history: the first one goes
without a body, and the second one has an envelope. -/
theorem quinces_and_plums_sent_apart :
    SentApart Sample.orchard Sample.relabelling.step { Sample.pears with title := "Quinces" }
      ∧ SentApart Sample.orchard Sample.adding.step (outgoing Sample.plums) := by
  have hhistory := Sample.gathered.history_next Sample.orchard Sample.relabelling.step
    Sample.adding.step
  have hrelabelling : Sample.relabelling ∈ history Sample.orchard
      [Sample.gathered.step, Sample.relabelling.step, Sample.adding.step] 0 Backend.empty := by
    exact hhistory ▸ List.mem_append_left _ (List.mem_cons_of_mem _ List.mem_cons_self)
  have hadding : Sample.adding ∈ history Sample.orchard
      [Sample.gathered.step, Sample.relabelling.step, Sample.adding.step] 0 Backend.empty := by
    exact hhistory ▸ List.mem_append_right _ List.mem_cons_self
  have hall := sent_apart Sample.findsMetadata_orchard (s := (Backend.empty : Buckets)) rfl
    [Sample.gathered.step, Sample.relabelling.step, Sample.adding.step] 0
  exact ⟨hall _ hrelabelling _ _ _ (Sample.events_relabelling ▸ List.mem_cons_self) rfl,
    hall _ hadding _ _ _ (Sample.events_adding ▸ List.mem_cons_self) rfl⟩

end Notekeeper
