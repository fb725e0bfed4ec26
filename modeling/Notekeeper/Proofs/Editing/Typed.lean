import Notekeeper.Proofs.Editing.Acting
import Notekeeper.Proofs.Markup.Envelope
import Notekeeper.Proofs.Recovery.Events

/-!
# What is typed is what is sent

A text that comes back from the editor goes through four hands before it is sent: it is read as a
buffer, taken over into a note, rendered and put into the envelope.  What the remote service takes
out of the envelope is the text's own content, or the markup made of it, even where that content
looks like an envelope itself.

Of these hands only the last is delicate.  The envelope is a text around a text, and it is opened by
looking for where the inner one begins and ends.  It begins behind the first opening and ends before
the last closing, so that what is typed in between is never taken for either
(`Envelope.unwrap_wrap`).  The other three set a title and a body and touch nothing else of what is
sent: the identifier, the notebook, the marks and the times of a note are those of the note that was
loaded, or none for a new one.

Which note is sent is known from the course of the edit (`Editing/Acting`), and a new note is sent
in one call (`report_saveNewNote`).  What the caller gets is the note before it was put into the
envelope, and so is what becomes the recovery point.  From there it reads back as it was typed; only
its times may be others, if they were told in a leap second that ends no minute, as these have no
text of their own.

* `AsTyped` : a note that says what was typed, and is otherwise the one it was made of.
* `Edit.SendsTyped`, `CreatesTyped` : an edit that sends such a note, and a new note.
* `Edit.exists_sendsTyped`, `exists_createsTyped` : every note that is sent is as it was typed.
* `typed_is_sent` : both together.
-/

namespace Notekeeper

open Command

/-! ## 1. Notes as they were typed

The base is the note that was loaded, or a new note with nothing but a title. -/

/-- The markup that stands for what was typed. -/
def typedMarkup (codec : Codec) (raw : Bool) (typed : EditBuffer) : String :=
  if raw then typed.content
  else if typed.content = "" then "" else codec.toMarkup typed.content

/-- **A note as it was typed**: the text gives its title and its markup, and all else that the
remote service knows of it is as in the note that it was made of. -/
structure AsTyped (codec : Codec) (raw : Bool) (text : String) (base note : Note) : Prop where
  title : note.title = (EditBuffer.parse text).title
  body : note.body = typedMarkup codec raw (.parse text)
  guid : note.guid = base.guid
  notebook : note.notebook = base.notebook
  deleted : note.deleted = base.deleted
  created : note.created = base.created
  updated : note.updated = base.updated

/-- Whether a note in its envelope is as it was typed. -/
def SentAsTyped (codec : Codec) (raw : Bool) (text : String) (base sent : Note) : Prop :=
  ∃ body, Envelope.unwrap sent.body = .ok body ∧ AsTyped codec raw text base { sent with body }

section Notes

variable {codec : Codec} {raw : Bool} {text : String} {base note : Note}

/-- A text that is taken over and rendered. -/
theorem asTyped_rendered (codec : Codec) (raw : Bool) (text : String) (base : Note) :
    AsTyped codec raw text base
      (rendered codec (base.applyBuffer (.parse text) raw) raw) := by
  cases raw <;> constructor <;> simp [rendered, Note.applyBuffer, typedMarkup]

/-- The fingerprint that a loaded note remembers is nothing that is typed or sent. -/
theorem asTyped_editedNote (codec : Codec) (raw : Bool) (text : String) (base : Note) :
    AsTyped codec raw text base (editedNote codec base raw text) := by
  obtain ⟨title, body, guid, notebook, deleted, created, updated⟩ :=
    asTyped_rendered codec raw text (base.markLoaded raw)
  exact ⟨title, body, guid, notebook, deleted, created, updated⟩

/-- **The envelope gives back what was typed**, whatever that looks like. -/
theorem AsTyped.outgoing (h : AsTyped codec raw text base note) :
    SentAsTyped codec raw text base (outgoing note) :=
  ⟨note.body, Envelope.unwrap_wrap note.body, h⟩

end Notes

/-! ## 2. Edits -/

variable {world : Nat → Surroundings}

/-- A note becomes the recovery point only when it was refused. -/
theorem Command.SendCourse.kept_of_put {τ : Type} {opts : EditOptions} {note : Note} {tick : Nat}
    {r : Report τ EditOutcome} {bs : Bytes} (h : SendCourse world opts note tick r)
    (hput : .put Slot.recovery.bucket Slot.recovery.key bs ∈ r.writes) :
    bs = Record.encode note ∧ ∃ save, r.result = .error save
      ∧ r.journal = .called (.updateNote (Command.outgoing note)) (.error save)
        :: (Slot.recovery.putting (Record.encode note)).map .wrote := by
  cases h with
  | @kept s last save =>
    have hmem : StoreOp.put Slot.recovery.bucket Slot.recovery.key bs
        ∈ Slot.recovery.putting (Record.encode note) := by
      have hwrites := Effect.filterMap_op?_wrote (Slot.recovery.putting (Record.encode note))
      rw [← hwrites]
      exact hput
    refine ⟨?_, save, rfl, rfl⟩
    simpa [Slot.putting] using hmem
  | lost _ => cases hput
  | saved _ => cases hput
  | cleared _ =>
    have hmem : StoreOp.put Slot.recovery.bucket Slot.recovery.key bs
        ∈ Slot.recovery.emptying := by
      rw [← Effect.filterMap_op?_wrote Slot.recovery.emptying]
      exact hput
    simp [Slot.emptying] at hmem
  | notCleared _ _ => cases hput

variable {σ : Type} [Backend σ]

namespace Edit

/-- **An edit that sends what was typed** over the note that it loaded. -/
structure SendsTyped (world : Nat → Surroundings) (e : Edit σ) (loaded : Note) (text : String)
    (sent : Note) (answer : Except Error Unit) : Prop where
  loads : e.Loads world loaded
  /-- Once the note is loaded, its text is shown, and what comes back is sent. -/
  events : (e.report world).events = (e.loading world).events
    ++ [.edited (shownText loaded e.opts.raw) (.ok text), .called (.updateNote sent) answer]
  sent : SentAsTyped e.client.codec e.opts.raw text loaded sent
  /-- The note that the caller gets is the one that was sent, out of its envelope. -/
  returned (note : Note) (h : (e.report world).result = .ok (.saved note)) :
    AsTyped e.client.codec e.opts.raw text loaded note
  /-- So is the note that becomes the recovery point, and it reads back from there, with its
  timestamps as they are written. -/
  kept (bs : Bytes)
      (h : .put Slot.recovery.bucket Slot.recovery.key bs ∈ (e.report world).writes) :
    ∃ note, bs = Record.encode note
      ∧ Slot.recovery.record (e.report world).store = .ok (some note.asWritten)
      ∧ AsTyped e.client.codec e.opts.raw text loaded note

variable {e : Edit σ}

/-- What an edit puts into the recovery slot is the note whose save is lost. -/
theorem SendsBy.lostSave_of_put {loaded : Note} {text : String} {r : Report σ EditOutcome}
    {bs : Bytes} (hby : e.SendsBy world loaded text r)
    (hload : (e.loading world).result = .ok loaded)
    (h : .put Slot.recovery.bucket Slot.recovery.key bs ∈ (e.report world).writes) :
    bs = Record.encode (e.made loaded text)
      ∧ ∃ save, LostSave world e loaded text save := by
  rw [hby.writes] at h
  rcases List.mem_append.1 h with h | h
  · exact (looks_of_mem_loading h).elim
  · obtain ⟨rfl, save, hresult, hjournal⟩ := hby.course.kept_of_put h
    refine ⟨rfl, save, hby.lostSave hload hresult ?_⟩
    rw [Report.events, hjournal]
    exact List.mem_cons_self

/-- **Every note that an edit sends is as it was typed**, whether it is then taken or refused. -/
theorem exists_sendsTyped [LawfulBackend σ] {sent : Note} {answer : Except Error Unit}
    (h : .called (.updateNote sent) answer ∈ (e.report world).events) :
    ∃ loaded text, e.SendsTyped world loaded text sent answer := by
  obtain ⟨loaded, text, r, hdue, rfl, hby, hr⟩ := exists_due_of_updateNote h
  have htyped : AsTyped e.client.codec e.opts.raw text loaded (e.made loaded text) :=
    asTyped_editedNote _ _ _ _
  refine ⟨loaded, text, (loading_eq_ok_iff world e loaded).1 hdue.load, ?_, htyped.outgoing,
    fun note hresult => ?_, fun bs hput => ?_⟩
  · rw [hby.events, hr]
  · rw [hby.result] at hresult
    obtain ⟨rfl, -, -⟩ := hby.course.saved_iff.1 hresult
    exact htyped
  · obtain ⟨rfl, save, hlost⟩ := hby.lostSave_of_put hdue.load hput
    exact ⟨_, rfl, Slot.record_of_held_encode hlost.held, htyped⟩

end Edit

/-! ## 3. New notes

A new note is shown as a buffer with a title alone.  It is sent once, and is not kept if it is
refused. -/

/-- A note before anything was typed into it. -/
def newNote (title : Option String) : Note :=
  { title := (title.filter (· ≠ "")).getD untitled }

/-- **A new note that is created as it was typed.** -/
structure CreatesTyped (codec : Codec) (title : Option String) (raw : Bool) (text : String)
    (sent : Note) (answer : Except Error Unit) (r : Report σ Note) : Prop where
  /-- A buffer is shown that has a title alone, and what comes back is sent. -/
  events : r.events = [.edited (EditBuffer.format ⟨(newNote title).title, ""⟩) (.ok text),
    .called (.createNote sent) answer]
  sent : SentAsTyped codec raw text (newNote title) sent
  /-- The note that the caller gets is the one that was sent, out of its envelope. -/
  returned (note : Note) (h : r.result = .ok note) : AsTyped codec raw text (newNote title) note
  /-- No recovery point is made of it. -/
  unkept : r.writes = []

theorem createNoteInEditor_eq (codec : Codec) (title : Option String) (raw : Bool) :
    createNoteInEditor codec title raw
      = edited (EditBuffer.format ⟨(newNote title).title, ""⟩) >>= fun text =>
          saveNewNote codec ((newNote title).applyBuffer (.parse text) raw) raw := rfl

/-- Creating a note makes one call, and gives the note if the call goes well. -/
theorem report_saveNewNote (codec : Codec) (note : Note) (raw : Bool)
    (world : Nat → Surroundings) (tick : Nat) (s : σ) :
    (saveNewNote codec note raw).report world tick s
      = ⟨((world tick).remote (.createNote (outgoing (rendered codec note raw)))).map
          fun _ => rendered codec note raw, s,
        [.called (.createNote (outgoing (rendered codec note raw)))
          ((world tick).remote (.createNote (outgoing (rendered codec note raw))))],
        tick + 1⟩ := by
  unfold saveNewNote
  rw [report_bind, report_asked]
  generalize (world tick).remote (.createNote (outgoing (rendered codec note raw))) = answer
  cases answer <;> rfl

/-- **Every note that is created in the editor is as it was typed.** -/
theorem exists_createsTyped {codec : Codec} {title : Option String} {raw : Bool} {tick : Nat}
    {s : σ} {sent : Note} {answer : Except Error Unit} (h : .called (.createNote sent) answer
      ∈ ((createNoteInEditor codec title raw).report world tick s).events) :
    ∃ text, CreatesTyped codec title raw text sent answer
      ((createNoteInEditor codec title raw).report world tick s) := by
  rw [createNoteInEditor_eq, report_bind, report_edited] at h ⊢
  cases hback : (world tick).editor (EditBuffer.format ⟨(newNote title).title, ""⟩) with
  | error err =>
    rw [hback] at h
    simp [Report.andThen, Report.events, Effect.event?] at h
  | ok text =>
    rw [hback] at h
    simp only [Report.andThen, report_saveNewNote, Report.after] at h ⊢
    have htyped := asTyped_rendered codec raw text (newNote title)
    generalize rendered codec ((newNote title).applyBuffer (.parse text) raw) raw = made at *
    generalize (world (tick + 1)).remote (.createNote (outgoing made)) = given at *
    obtain ⟨rfl, rfl⟩ : sent = outgoing made ∧ answer = given := by
      simpa [Report.events, Effect.event?] using h
    refine ⟨text, rfl, htyped.outgoing, fun note hresult => ?_, rfl⟩
    obtain ⟨-, -, rfl⟩ := map_eq_ok_iff.1 hresult
    exact htyped

/-! ## 4. Both -/

/-- **What is typed is what is sent**, over a note that was loaded or a new one, in every world and
on every store, for every codec and whatever was typed. -/
theorem typed_is_sent [LawfulBackend σ] (world : Nat → Surroundings) :
    (∀ (e : Edit σ) (sent : Note) (answer : Except Error Unit),
      .called (.updateNote sent) answer ∈ (e.report world).events →
        ∃ loaded text, e.SendsTyped world loaded text sent answer)
    ∧ ∀ (codec : Codec) (title : Option String) (raw : Bool) (tick : Nat) (s : σ) (sent : Note)
        (answer : Except Error Unit), .called (.createNote sent) answer
          ∈ ((createNoteInEditor codec title raw).report world tick s).events →
        ∃ text, CreatesTyped codec title raw text sent answer
          ((createNoteInEditor codec title raw).report world tick s) :=
  ⟨fun _ _ _ h => Edit.exists_sendsTyped h, fun _ _ _ _ _ _ _ h => exists_createsTyped h⟩

namespace Sample

/-- A text whose content closes an envelope and opens another one. -/
def forgery : String := "Bar\n\n</en-note><en-note>x"

/-- Surroundings in which it comes back from the editor. -/
def forging : Surroundings := { Sample.world 0 with editor := fun _ => .ok forgery }

theorem sends_forgery : lostEdit.Sends (fun _ => forging) loaded forgery (.error refusal) := by
  have hload : (lostEdit.loading fun _ => forging).result = .ok loaded :=
    eq_ok_of_toOption (by decide +kernel)
  exact ⟨hload, .inr (by decide +kernel), fun _ _ _ => rfl, fun _ _ _ => rfl⟩

/-- The note that it makes of the one that was loaded. -/
def forged : Note := lostEdit.made loaded forgery

/-- The note that it makes of a new one. -/
def forgedNew : Note := rendered .identity ((newNote none).applyBuffer (.parse forgery) true) true

end Sample

/-- What was typed there is sent, over the note that was loaded and over a new one.  Its content is
taken out of the envelope whole, with the tags that look like the envelope's own. -/
theorem forgery_is_sent :
    (∃ loaded text, Sample.lostEdit.SendsTyped (fun _ => Sample.forging) loaded text
      (outgoing Sample.forged) (.error Sample.refusal))
    ∧ (∃ text, CreatesTyped .identity none true text (outgoing Sample.forgedNew)
      (.error Sample.refusal)
      ((createNoteInEditor .identity none true).report (fun _ => Sample.forging) 0
        (⟨[]⟩ : Buckets)))
    ∧ Envelope.unwrap (outgoing Sample.forged).body = .ok "</en-note><en-note>x" := by
  have hsent : .called (.updateNote (outgoing Sample.forged)) (.error Sample.refusal)
      ∈ (Sample.lostEdit.report fun _ => Sample.forging).events := by
    rw [Sample.sends_forgery.events]
    exact List.mem_append_right _ (List.mem_cons_of_mem _ List.mem_cons_self)
  have hcreated : .called (.createNote (outgoing Sample.forgedNew)) (.error Sample.refusal)
      ∈ ((createNoteInEditor .identity none true).report (fun _ => Sample.forging) 0
        (⟨[]⟩ : Buckets)).events := by
    exact List.mem_cons_of_mem _ List.mem_cons_self
  obtain ⟨hedits, hcreates⟩ := typed_is_sent (σ := Buckets) fun _ => Sample.forging
  exact ⟨hedits _ _ _ hsent, hcreates _ _ _ _ _ _ _ hcreated, Envelope.unwrap_wrap _⟩

end Notekeeper
