import Notekeeper.Proofs.Command.Conduct
import Notekeeper.Proofs.History

/-!
# Edits of a history

An edit of a history may lose its save: the remote service refuses the note, and it becomes the
recovery point.  An edit that starts from the recovery point settles it once its note is taken.
What an edit comes to follows from the surroundings that it meets.

Both events are told by what an edit answers, and not by what it writes.  A caller sees one error
or another, or that a note was saved; whether the recovery point was stored, or forgotten, has to
follow from that.  It does, because the courses of an edit (`EditCourse`, `SendCourse`) differ in
their results.  A refused note whose recovery point could not be stored gives an error with both
failures in it, so that an edit which fails with the refusal alone did store it; and a recovering
edit that says that it saved its note has emptied the slot, for otherwise it would have failed.
The journal of the edit is then the one of that course, and what the slot holds can be read off it.

Looking for the note shows no text and sends no note (`Edit.eq_called_of_mem_loading`).  So what an
edit shows and sends stands behind the loading in its journal, and a call that sends a note is the
only one of its kind.

* `LostSave`, `SettledSave` : the two things that can happen to the recovery point.
* `LostSave.journal`, `SettledSave.exists_journal` : what is written when they happen.
* `Edit.event_or_unwritten` : an edit does one of them, or it writes nothing of its own.
* `Edit.Sends.lostSave`, `Edit.Sends.settledSave` : surroundings in which they happen.
* `Sample.lostSave_lostEdit` : an edit whose save is lost.
-/

namespace Notekeeper

open Command

variable {σ : Type} [Backend σ]

/-! ## 1. Edits and what they come to -/

/-- **An edit in a history**: what is asked of which client, when, and on which store.  What goes
before it is summed up in the store. -/
structure Edit (σ : Type) where
  client : Client
  title : String
  opts : EditOptions
  tick : Nat
  store : σ

namespace Edit

/-- The moment of a history that an edit is. -/
def moment (e : Edit σ) : Moment σ :=
  ⟨.operation e.client (.editNote e.title e.opts), e.tick, e.store⟩

def report (world : Nat → Surroundings) (e : Edit σ) : Report σ EditOutcome :=
  (editNote e.client.codec e.client.config e.title e.opts).report world e.tick e.store

/-- The report of looking for the note to edit. -/
def loading (world : Nat → Surroundings) (e : Edit σ) : Report σ Note :=
  (noteToEdit e.client.codec e.client.config e.title e.opts).report world e.tick e.store

/-- The note that an edit makes of the one it loaded and the text that came back. -/
def made (e : Edit σ) (loaded : Note) (text : String) : Note :=
  editedNote e.client.codec loaded e.opts.raw text

/-- **An edit that shows a note and sends what comes back**, of which `r` is the report from the
sending on. -/
structure SendsBy (world : Nat → Surroundings) (e : Edit σ) (loaded : Note) (text : String)
    (r : Report σ EditOutcome) : Prop where
  course : SendCourse world e.opts (e.made loaded text) ((e.loading world).tick + 1) r
  report : e.report world
    = r.after ((e.loading world).journal ++ [.edited (shownText loaded e.opts.raw) (.ok text)])

theorem SendsBy.result {world : Nat → Surroundings} {e : Edit σ} {loaded : Note} {text : String}
    {r : Report σ EditOutcome} (h : e.SendsBy world loaded text r) :
    (e.report world).result = r.result := by
  rw [h.report]
  rfl

theorem SendsBy.tick {world : Nat → Surroundings} {e : Edit σ} {loaded : Note} {text : String}
    {r : Report σ EditOutcome} (h : e.SendsBy world loaded text r) :
    (e.report world).tick = r.tick := by
  rw [h.report]
  rfl

theorem SendsBy.journal {world : Nat → Surroundings} {e : Edit σ} {loaded : Note} {text : String}
    {r : Report σ EditOutcome} (h : e.SendsBy world loaded text r) :
    (e.report world).journal = (e.loading world).journal
      ++ .edited (shownText loaded e.opts.raw) (.ok text) :: r.journal := by
  rw [h.report, Report.after, List.append_assoc]
  rfl

section Loading

variable {world : Nat → Surroundings} {e : Edit σ}

/-- Looking for the note shows nothing and sends nothing. -/
theorem eq_called_of_mem_loading {event : Event} (h : event ∈ (e.loading world).events) :
    ∃ call answer, event = .called call answer
      ∧ call.name ∈ ["find_notes", "get_note_content"] := by
  have hlooks := keepsTo_noteToEdit (σ := σ) e.client.codec e.client.config e.title e.opts
  exact Report.looks_of_mem_events (hlooks world e.tick e.store) h

/-- Looking for the note is no part of what is shown. -/
theorem not_edited_mem_loading {text : String} {result : Except Error String} :
    .edited text result ∉ (e.loading world).events := by
  intro h
  obtain ⟨call, answer, hcalled, -⟩ := eq_called_of_mem_loading h
  cases hcalled

theorem not_updateNote_mem_loading {note : Note} {answer : Except Error Unit} :
    .called (.updateNote note) answer ∉ (e.loading world).events := by
  intro h
  obtain ⟨call, answer, hcalled, hname⟩ := eq_called_of_mem_loading h
  cases hcalled
  simp [RemoteCall.name] at hname

/-- What others see of an edit that sends its note. -/
theorem SendsBy.events {loaded : Note} {text : String} {r : Report σ EditOutcome}
    (h : e.SendsBy world loaded text r) : (e.report world).events = (e.loading world).events
      ++ .edited (shownText loaded e.opts.raw) (.ok text) :: r.events := by
  rw [Report.events, h.journal, List.filterMap_append]
  rfl

/-- An edit that sends its note makes one call after it has shown the text. -/
theorem SendsBy.exists_answer {loaded : Note} {text : String} {r : Report σ EditOutcome}
    (h : e.SendsBy world loaded text r) : ∃ answer, (e.report world).events
      = (e.loading world).events ++ [.edited (shownText loaded e.opts.raw) (.ok text),
        .called (.updateNote (outgoing (e.made loaded text))) answer]
      ∧ r.events = [.called (.updateNote (outgoing (e.made loaded text))) answer] := by
  obtain ⟨answer, hevents⟩ := h.course.exists_answer
  exact ⟨answer, by rw [h.events, hevents], hevents⟩

variable [LawfulBackend σ]

/-- **The courses of an edit in a history.** -/
theorem course (world : Nat → Surroundings) (e : Edit σ) :
    EditCourse world e.client.codec e.opts (e.loading world) (e.report world) :=
  editCourse_report world _ _ _ _ _ _

/-- **A note that is sent was made** of a note that was loaded and a text that came back, and its
call is the only one once that is done. -/
theorem exists_sendsBy_of_called {note : Note} {answer : Except Error Unit}
    (h : .called (.updateNote note) answer ∈ (e.report world).events) :
    ∃ loaded text r, (e.loading world).result = .ok loaded
      ∧ (e.opts.recover = true ∨ comesBack loaded e.opts.raw text = false)
      ∧ e.SendsBy world loaded text r ∧ note = outgoing (e.made loaded text)
      ∧ r.events = [.called (.updateNote (outgoing (e.made loaded text))) answer] := by
  -- Where nothing or no more than a text follows the loading, no note is sent.
  have hnone {shown : List Effect}
      (hjournal : (e.report world).journal = (e.loading world).journal ++ shown)
      (hshown : .called (.updateNote note) answer ∉ shown.filterMap Effect.event?) : False := by
    rw [Report.events, hjournal, List.filterMap_append] at h
    exact (List.mem_append.1 h).elim not_updateNote_mem_loading hshown
  have hcourse := e.course world
  generalize hreport : e.report world = r at hcourse
  cases hcourse with
  | notLoaded _ =>
    have hjournal := (congrArg Report.journal hreport).trans (List.append_nil _).symm
    exact (hnone hjournal List.not_mem_nil).elim
  | notEdited _ =>
    exact (hnone (congrArg Report.journal hreport) (by simp [Effect.event?])).elim
  | unchanged _ _ _ =>
    exact (hnone (congrArg Report.journal hreport) (by simp [Effect.event?])).elim
  | @sent loaded text r hload hdiffers hsend =>
    have hby : e.SendsBy world loaded text r := ⟨hsend, hreport⟩
    obtain ⟨answer', hevents, hr⟩ := hby.exists_answer
    rw [hevents, List.mem_append, or_iff_right not_updateNote_mem_loading] at h
    obtain ⟨rfl, rfl⟩ : note = outgoing (e.made loaded text) ∧ answer = answer' := by
      simpa using h
    exact ⟨loaded, text, r, hload, hdiffers, hby, rfl, hr⟩

end Loading

end Edit

/-! ## 2. The two events

Both are told by what an edit answers, and what it writes follows from that: a refused note was
kept if the refusal is all that the edit fails with, and a recovery point was forgotten if an edit
that started from it says that it saved its note. -/

/-- **An edit whose save is lost**: the note that it makes of the text that came back is refused,
and this refusal is the error that it fails with.  Had the note not become the recovery point, the
edit would fail with two errors. -/
structure LostSave (world : Nat → Surroundings) (e : Edit σ) (loaded : Note) (text : String)
    (save : Error) : Prop where
  load : (e.loading world).result = .ok loaded
  shown : .edited (shownText loaded e.opts.raw) (.ok text) ∈ (e.report world).events
  refused : .called (.updateNote (outgoing (e.made loaded text))) (.error save)
    ∈ (e.report world).events
  result : (e.report world).result = .error save

/-- **A recovering edit that settles**: it says that it saved its note. -/
structure SettledSave (world : Nat → Surroundings) (e : Edit σ) (note : Note) : Prop where
  recover : e.opts.recover = true
  result : (e.report world).result = .ok (.saved note)

section Lawful

variable {world : Nat → Surroundings} {e : Edit σ} {loaded : Note} {text : String} {save : Error}

/-- A note that is sent and refused, with no error but that, is a lost save. -/
theorem Edit.SendsBy.lostSave {r : Report σ EditOutcome} (h : e.SendsBy world loaded text r)
    (hload : (e.loading world).result = .ok loaded) (hresult : r.result = .error save)
    (hcalled : .called (.updateNote (outgoing (e.made loaded text))) (.error save) ∈ r.events) :
    LostSave world e loaded text save := by
  refine ⟨hload, ?_, ?_, h.result.trans hresult⟩
  · rw [h.events]
    exact List.mem_append_right _ List.mem_cons_self
  · rw [h.events]
    exact List.mem_append_right _ (List.mem_cons_of_mem _ hcalled)

variable [LawfulBackend σ]

/-- The note of a lost save was sent. -/
theorem LostSave.exists_sendsBy (h : LostSave world e loaded text save) :
    ∃ r, e.SendsBy world loaded text r
      ∧ r.events = [.called (.updateNote (outgoing (e.made loaded text))) (.error save)] := by
  obtain ⟨loaded', text', r, hload, -, hby, -, hr⟩ := Edit.exists_sendsBy_of_called h.refused
  obtain rfl : loaded' = loaded := Except.ok.inj (hload.symm.trans h.load)
  have hshown := h.shown
  rw [hby.events, hr, List.mem_append, or_iff_right Edit.not_edited_mem_loading] at hshown
  obtain rfl : text = text' := by simpa using hshown
  exact ⟨r, hby, hr⟩

/-- **A lost save puts the refused note into the recovery slot**, and writes nothing else once the
note is loaded. -/
theorem LostSave.journal (h : LostSave world e loaded text save) :
    (e.report world).journal = (e.loading world).journal
      ++ .edited (shownText loaded e.opts.raw) (.ok text)
        :: .called (.updateNote (outgoing (e.made loaded text))) (.error save)
        :: (Slot.recovery.putting (Record.encode (e.made loaded text))).map .wrote := by
  obtain ⟨r, hby, hr⟩ := h.exists_sendsBy
  have hresult : r.result = .error save := hby.result.symm.trans h.result
  cases hby.course with
  | kept =>
    cases hresult
    exact hby.journal
  | lost hfault =>
    -- The two errors of this course would be one and the same.
    cases hr
    cases hresult
  | saved _ => cases hresult
  | cleared _ => cases hresult
  | notCleared _ _ => cases hr

/-- **A settled save empties the recovery slot**, and writes nothing else once its note is
loaded. -/
theorem SettledSave.exists_journal {note : Note} (h : SettledSave world e note) :
    ∃ loaded text, (e.loading world).result = .ok loaded ∧ note = e.made loaded text
      ∧ (e.report world).journal = (e.loading world).journal
        ++ .edited (shownText loaded e.opts.raw) (.ok text)
          :: .called (.updateNote (outgoing (e.made loaded text))) (.ok ())
          :: Slot.recovery.emptying.map .wrote := by
  have hresult := h.result
  have hcourse := e.course world
  generalize hreport : e.report world = r at hcourse
  rw [hreport] at hresult
  cases hcourse with
  | notLoaded _ => cases hresult
  | notEdited _ => cases hresult
  | unchanged _ _ _ => cases hresult
  | @sent loaded text r hload _ hsend =>
    have hby : e.SendsBy world loaded text r := ⟨hsend, hreport⟩
    rw [← hreport]
    cases hsend with
    | kept => cases hresult
    | lost _ => cases hresult
    | saved hnot => exact absurd (hnot.symm.trans h.recover) nofun
    | cleared _ =>
      cases hresult
      exact ⟨loaded, text, hload, rfl, hby.journal⟩
    | notCleared _ _ => cases hresult

/-- An edit is one of the events, or it writes nothing once it has looked for its note. -/
theorem Edit.event_or_unwritten (world : Nat → Surroundings) (e : Edit σ) :
    (∃ loaded text save, LostSave world e loaded text save)
    ∨ (∃ note, SettledSave world e note)
    ∨ ∃ effects, (e.report world).journal = (e.loading world).journal ++ effects
      ∧ effects.filterMap Effect.op? = [] := by
  have hcourse := e.course world
  generalize hreport : e.report world = r at hcourse
  cases hcourse with
  | notLoaded hload => exact .inr (.inr ⟨[], (List.append_nil _).symm, rfl⟩)
  | notEdited hload => exact .inr (.inr ⟨_, rfl, rfl⟩)
  | unchanged hload hrecover hback => exact .inr (.inr ⟨_, rfl, rfl⟩)
  | @sent loaded text r hload hdiffers hsend =>
    have hby : e.SendsBy world loaded text r := ⟨hsend, hreport⟩
    rw [← hreport]
    cases hsend with
    | @kept s last save =>
      exact .inl ⟨loaded, text, save, hby.lostSave hload rfl List.mem_cons_self⟩
    | cleared hrecover => exact .inr (.inl ⟨_, hrecover, hby.result⟩)
    | lost hfault => exact .inr (.inr ⟨_, hby.journal, rfl⟩)
    | saved hrecover => exact .inr (.inr ⟨_, hby.journal, rfl⟩)
    | notCleared hrecover hfault => exact .inr (.inr ⟨_, hby.journal, rfl⟩)

end Lawful

/-! ## 3. Edits in known surroundings

What the remote service, the editor and the store do is known as long as an edit takes, and each
effect of the edit is due to the surroundings of one of its ticks (`met_of_mem_journal`).  So of the
courses of an edit only those are left whose answers agree with the surroundings. -/

namespace Edit

/-- Whether something is true of the surroundings at every tick that an edit takes. -/
def During (world : Nat → Surroundings) (e : Edit σ) (P : Surroundings → Prop) : Prop :=
  ∀ t, e.tick ≤ t → t < (e.report world).tick → P (world t)

variable {world : Nat → Surroundings} {P : Surroundings → Prop}

theorem During.met {e : Edit σ} (h : e.During world P) {effect : Effect}
    (he : effect ∈ (e.report world).journal) : ∃ w, P w ∧ effect.Met w := by
  obtain ⟨t, hle, hlt, hmet⟩ := met_of_mem_journal he
  exact ⟨world t, h t hle hlt, hmet⟩

/-- **An edit in surroundings that take it to sending its note**, and answer. -/
structure Sends (world : Nat → Surroundings) (e : Edit σ) (loaded : Note) (text : String)
    (answer : Except Error Unit) : Prop where
  load : (e.loading world).result = .ok loaded
  differs : e.opts.recover = true ∨ comesBack loaded e.opts.raw text = false
  editor : e.During world fun w => w.editor (shownText loaded e.opts.raw) = .ok text
  remote : e.During world fun w => w.remote (.updateNote (outgoing (e.made loaded text))) = answer

variable {loaded : Note} {text : String} {answer : Except Error Unit}

/-- The call that sends the note gets the answer that the surroundings give. -/
theorem Sends.answer_eq {e : Edit σ} {r : Report σ EditOutcome} {answer' : Except Error Unit}
    {effects : List Effect} (h : e.Sends world loaded text answer)
    (hby : e.SendsBy world loaded text r)
    (hr : r.journal = .called (.updateNote (outgoing (e.made loaded text))) answer' :: effects) :
    answer' = answer := by
  have hmem : .called (.updateNote (outgoing (e.made loaded text))) answer'
      ∈ (e.report world).journal := by
    rw [hby.journal, hr]
    simp
  obtain ⟨w, hw, hmet⟩ := h.remote.met hmem
  exact hmet.symm.trans hw

/-- What holds during an edit holds when it has made its call and turns to the store. -/
theorem During.last {e : Edit σ} {r : Report σ EditOutcome} (h : e.During world P)
    (hby : e.SendsBy world loaded text r) (hlast : r.tick = (e.loading world).tick + 3) :
    P (world ((e.loading world).tick + 2)) := by
  have hfirst : e.tick ≤ (e.loading world).tick := tick_le_report world _ _ _
  have htick : (e.report world).tick = (e.loading world).tick + 3 := hby.tick.trans hlast
  exact h _ (by omega) (by omega)

/-- Where the store can be written, it can be written after the call. -/
theorem During.reply_eq_ok {e : Edit σ} {r : Report σ EditOutcome}
    (hfault : e.During world fun w => w.fault = .none) (hby : e.SendsBy world loaded text r)
    (hlast : r.tick = (e.loading world).tick + 3) :
    (world ((e.loading world).tick + 2)).fault.reply = .ok () :=
  WriteFault.reply_eq_ok.2 (hfault.last hby hlast)

variable [LawfulBackend σ]

/-- An edit that is taken to sending its note does send it. -/
theorem Sends.exists_sendsBy {e : Edit σ} (h : e.Sends world loaded text answer) :
    ∃ r, e.SendsBy world loaded text r := by
  have hcourse := e.course world
  -- The text that came back is the one that the surroundings give.
  have hback {loaded' : Note} {result : Except Error String}
      (hload' : (e.loading world).result = .ok loaded')
      (hmem : .edited (shownText loaded' e.opts.raw) result ∈ (e.report world).journal) :
      loaded' = loaded ∧ result = .ok text := by
    have hloaded : loaded' = loaded := Except.ok.inj (hload'.symm.trans h.load)
    subst hloaded
    obtain ⟨w, hw, hmet⟩ := h.editor.met hmem
    exact ⟨rfl, hmet.symm.trans hw⟩
  generalize hreport : e.report world = r at hcourse
  rw [hreport] at hback
  cases hcourse with
  | notLoaded hload => exact absurd (hload.symm.trans h.load) nofun
  | notEdited hload =>
    have hlast := hback hload (List.mem_append_right _ List.mem_cons_self)
    exact absurd hlast.2 nofun
  | unchanged hload hrecover hsame =>
    obtain ⟨rfl, htext⟩ := hback hload (List.mem_append_right _ List.mem_cons_self)
    cases htext
    rcases h.differs with hd | hd
    · exact absurd (hrecover.symm.trans hd) nofun
    · exact absurd (hsame.symm.trans hd) nofun
  | @sent loaded' text' r hload hdiffers hsend =>
    obtain ⟨rfl, htext⟩ := hback hload
      (List.mem_append_left _ (List.mem_append_right _ List.mem_cons_self))
    cases htext
    exact ⟨r, hsend, hreport⟩

/-- **Others see the text shown and the one call**, behind what they see of the loading. -/
theorem Sends.events {e : Edit σ} (h : e.Sends world loaded text answer) :
    (e.report world).events = (e.loading world).events
      ++ [.edited (shownText loaded e.opts.raw) (.ok text),
        .called (.updateNote (outgoing (e.made loaded text))) answer] := by
  obtain ⟨r, hby⟩ := h.exists_sendsBy
  obtain ⟨answer', ops, hr⟩ : ∃ (answer' : Except Error Unit) (ops : List StoreOp), r.journal
      = .called (.updateNote (outgoing (e.made loaded text))) answer' :: ops.map .wrote := by
    cases hby.course with
    | kept => exact ⟨_, _, rfl⟩
    | lost => exact ⟨_, [], rfl⟩
    | saved => exact ⟨_, [], rfl⟩
    | cleared => exact ⟨_, _, rfl⟩
    | notCleared => exact ⟨_, [], rfl⟩
  rw [Report.events, hby.journal, hr, h.answer_eq hby hr, List.filterMap_append]
  simp [Report.events, Effect.event?]

/-- **Where a note is refused and the store can be written, the save is lost.** -/
theorem Sends.lostSave {e : Edit σ} {save : Error} (h : e.Sends world loaded text (.error save))
    (hfault : e.During world fun w => w.fault = .none) : LostSave world e loaded text save := by
  obtain ⟨r, hby⟩ := h.exists_sendsBy
  cases hby.course with
  | @kept s last save' =>
    obtain rfl : save' = save := Except.error.inj (h.answer_eq hby rfl)
    exact hby.lostSave h.load rfl List.mem_cons_self
  | lost hlost => exact absurd (hlost.symm.trans (hfault.reply_eq_ok hby rfl)) nofun
  | saved hrecover => exact absurd (h.answer_eq hby rfl) nofun
  | cleared hrecover => exact absurd (h.answer_eq hby rfl) nofun
  | notCleared hrecover hlost => exact absurd (h.answer_eq hby rfl) nofun

/-- **Where a recovered note is taken and the store can be written, the save is settled.** -/
theorem Sends.settledSave {e : Edit σ} (h : e.Sends world loaded text (.ok ()))
    (hrecover : e.opts.recover = true) (hfault : e.During world fun w => w.fault = .none) :
    SettledSave world e (e.made loaded text) := by
  obtain ⟨r, hby⟩ := h.exists_sendsBy
  cases hby.course with
  | kept => exact absurd (h.answer_eq hby rfl) nofun
  | lost hlost => exact absurd (h.answer_eq hby rfl) nofun
  | saved hnot => exact absurd (hnot.symm.trans hrecover) nofun
  | cleared _ => exact ⟨hrecover, hby.result⟩
  | notCleared _ hlost => exact absurd (hlost.symm.trans (hfault.reply_eq_ok hby rfl)) nofun

/-- **Where the store cannot be written, a recovered note is taken and yet the edit fails.** -/
theorem Sends.result_of_fault {e : Edit σ} {refused : Error}
    (h : e.Sends world loaded text (.ok ())) (hrecover : e.opts.recover = true)
    (hfault : e.During world fun w => w.fault.reply = .error refused) :
    (e.report world).result = .error refused := by
  obtain ⟨r, hby⟩ := h.exists_sendsBy
  rw [hby.result]
  cases hby.course with
  | kept => exact absurd (h.answer_eq hby rfl) nofun
  | lost _ => exact absurd (h.answer_eq hby rfl) nofun
  | saved hnot => exact absurd (hnot.symm.trans hrecover) nofun
  | cleared _ =>
    -- What empties the slot was written at a tick of the edit.
    have hmem : .wrote (.createBucket Slot.recovery.bucket) ∈ (e.report world).journal := by
      rw [hby.journal]
      simp [Slot.emptying]
    obtain ⟨w, hw, hmet⟩ := hfault.met hmem
    exact absurd hmet (WriteFault.ne_none_of_reply hw)
  | notCleared _ hclear =>
    exact congrArg Except.error (Except.error.inj (hclear.symm.trans (hfault.last hby rfl)))

end Edit

/-! ## 4. A lost save

An edit is refused in its first five ticks, and whatever is sent from then on is taken.  What the
note is that is found does not matter to that, so that several surroundings share one proof. -/

/-- An edit by the same client right after another one. -/
def Edit.next (world : Nat → Surroundings) (e : Edit σ) (opts : EditOptions) : Edit σ where
  client := e.client
  title := e.title
  opts := opts
  tick := (e.report world).tick
  store := (e.report world).store

theorem Edit.tick_next (world : Nat → Surroundings) (e : Edit σ) (opts : EditOptions) :
    (e.next world opts).tick = (e.report world).tick := rfl

theorem Edit.history_next (world : Nat → Surroundings) (e : Edit σ) (opts : EditOptions) :
    history world [e.moment.step, (e.next world opts).moment.step] e.tick e.store
      = [] ++ e.moment :: ([] ++ (e.next world opts).moment :: []) := rfl

namespace Sample

def refusal : Error := .remote "update rejected"

/-- A remote service with one note, which nobody may change unless it `accepts` that. -/
def remote (accepts : Bool) : (call : RemoteCall) → Except Error call.Answer
  | .findNotes _ _ _ => .ok [{ title := "Foo", guid := "n-1" }]
  | .noteContent _ => .ok (Envelope.wrap "old")
  | .updateNote _ => if accepts then .ok () else .error refusal
  | _ => .error refusal

/-- Surroundings in which the first edit changes the note, and is refused. -/
def world (tick : Nat) : Surroundings where
  remote := remote (5 ≤ tick)
  editor text := .ok (if tick < 5 then "Foo\n\nnew" else text)
  fault := .none
  now := .epoch

/-- The note as it is loaded, with markdown for markup. -/
def loaded : Note := { title := "Foo", guid := "n-1", body := "old", md := "old" }

/-- An edit of the markup, on an empty store. -/
def lostEdit : Edit Buckets := ⟨⟨{}, {}, .identity⟩, "Foo", { raw := true }, 0, ⟨[]⟩⟩

/-- **Surroundings that treat this edit as those above do**, whatever note they let it find: it is
done before the fifth tick, and the answers up to then and from then on are the same. -/
structure Alike (w : Nat → Surroundings) : Prop where
  editor : ∀ t, (w t).editor = (world t).editor
  update : ∀ t note, (w t).remote (.updateNote note) = (world t).remote (.updateNote note)
  tick : (lostEdit.report w).tick = 5

theorem alike_world : Alike world := ⟨fun _ => rfl, fun _ _ => rfl, by decide +kernel⟩

theorem load_lostEdit : (lostEdit.loading world).result = .ok loaded :=
  eq_ok_of_toOption (by decide +kernel)

/-- The save of this edit is lost in all such surroundings. -/
theorem Alike.lostSave {w : Nat → Surroundings} {note : Note} (h : Alike w)
    (hload : (lostEdit.loading w).result = .ok note)
    (hdiffers : comesBack note true "Foo\n\nnew" = false)
    (hfault : lostEdit.During w fun w => w.fault = .none) :
    LostSave w lostEdit note "Foo\n\nnew" refusal := by
  have hearly {t : Nat} (ht : t < (lostEdit.report w).tick) : t < 5 := by
    rwa [h.tick] at ht
  have hsends : lostEdit.Sends w note "Foo\n\nnew" (.error refusal) := by
    refine ⟨hload, .inr hdiffers, fun t _ ht => ?_, fun t _ ht => ?_⟩
    · simp [h.editor, world, hearly ht]
    · simp [h.update, world, remote, Nat.not_le.2 (hearly ht)]
  exact hsends.lostSave hfault

theorem lostSave_lostEdit : LostSave world lostEdit loaded "Foo\n\nnew" refusal :=
  alike_world.lostSave load_lostEdit (by decide +kernel) fun _ _ _ => rfl

end Sample

end Notekeeper
