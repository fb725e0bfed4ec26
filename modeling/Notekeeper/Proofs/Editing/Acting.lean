import Notekeeper.Proofs.Editing.Loading

/-!
# When an edit acts

An edit shows its note once it is loaded, and sends it if the text comes back changed or if it is to
be recovered.  It does each of these once or not at all.  What it comes to follows from what it did,
as long as no two different texts have one fingerprint.

The courses of an edit (`Command/Edit`) already tell all of this, in terms of what the program
compares.  What remains is to tell it in terms of what others see.  Of all that an edit does to load
its note, nothing is a text shown or a note sent; so what is shown and sent is what follows the
loading, and for each course that is written out in the course (`GoesOn`).  In this way the number
of texts shown and notes sent, and which they are, can be read off.

Two notions are about the text that came back.  It is *got* if a note was loaded and shown and the
editor gave a text for it, and it is *due* if the edit is a recovery or the text is another one than
was shown.  The program decides by fingerprints; a text with another fingerprint is another text,
and the converse is what `NoCollision` asks of the texts of this edit.  With it a text that is due
is sent, and without it all facts stand that begin with a note that was sent.

What an edit comes to is then a matter of the answer and the store.  It is saved if the note was
taken and, where it was recovered, the slot was emptied; it fails with the error of the service if
the refused note was kept, and with both errors if it was not.

* `Edit.GoesOn` : the ways to go on once a note is loaded.
* `Edit.Due` : whether a note is due to be sent.
* `Edit.exists_due_of_updateNote` : what a note that was sent goes back to.
* `Edit.actsWhenDue` : when an edit acts, and what it comes to.
-/

namespace Notekeeper

open Command

/-! ## 1. What others see

What is shown and what is sent is read off the events.  While a note is loaded, there is neither. -/

namespace Command

/-- The text that an event shows in the editor. -/
def Event.shown? : Event → Option String
  | .edited text _ => some text
  | .called _ _ => none

/-- The note that an event sends for an update. -/
def Event.sent? : Event → Option Note
  | .called (.updateNote note) _ => some note
  | _ => none

/-- The texts that were shown. -/
def shownIn (events : List Event) : List String := events.filterMap Event.shown?

/-- The notes that were sent for an update. -/
def sentIn (events : List Event) : List Note := events.filterMap Event.sent?

section Sending

variable {τ : Type} {world : Nat → Surroundings} {opts : EditOptions} {note : Note} {tick : Nat}
  {r : Report τ EditOutcome}

theorem SendCourse.result_ne_unchanged (h : SendCourse world opts note tick r) :
    r.result ≠ .ok .unchanged := by
  cases h <;> exact nofun

/-- **When sending a note saves it**: when it was taken and, if it was recovered, the slot was
emptied. -/
theorem SendCourse.saved_iff (h : SendCourse world opts note tick r) {note' : Note} :
    r.result = .ok (.saved note') ↔ note' = note
      ∧ r.events = [.called (.updateNote (outgoing note)) (.ok ())]
      ∧ (opts.recover = true → .delete Slot.recovery.bucket Slot.recovery.key ∈ r.writes) := by
  cases h with
  | kept => exact ⟨nofun, fun h => nomatch h.2.1⟩
  | lost _ => exact ⟨nofun, fun h => nomatch h.2.1⟩
  | saved hrecover =>
    constructor
    · intro hresult
      cases hresult
      exact ⟨rfl, rfl, fun hrec => absurd (hrecover.symm.trans hrec) nofun⟩
    · rintro ⟨rfl, -, -⟩
      rfl
  | cleared _ =>
    constructor
    · intro hresult
      cases hresult
      refine ⟨rfl, congrArg (_ :: ·) (Effect.filterMap_event?_wrote _), fun _ => ?_⟩
      exact List.mem_cons_of_mem _ List.mem_cons_self
    · rintro ⟨rfl, -, -⟩
      rfl
  | notCleared hrecover _ => exact ⟨nofun, fun h => nomatch h.2.2 hrecover⟩

/-- **What a refused note comes to**: it is kept and the error of the service is passed on, or it is
not and both errors are. -/
theorem SendCourse.refused (h : SendCourse world opts note tick r) {save : Error}
    (hevents : r.events = [.called (.updateNote (outgoing note)) (.error save)]) :
    (.put Slot.recovery.bucket Slot.recovery.key (Record.encode note) ∈ r.writes
      ∧ r.result = .error save)
    ∨ (r.writes = [] ∧ ∃ recovery, (world (tick + 1)).fault.reply = .error recovery
      ∧ r.result = .error (.recoveryFailed save recovery)) := by
  cases h with
  | @kept s last save' =>
    obtain rfl : save' = save := by
      cases hevents
      rfl
    exact .inl ⟨List.mem_cons_of_mem _ List.mem_cons_self, rfl⟩
  | @lost s save' recovery hfault =>
    obtain rfl : save' = save := by
      cases hevents
      rfl
    exact .inr ⟨rfl, recovery, hfault, rfl⟩
  | saved _ => cases hevents
  | cleared _ => cases hevents
  | notCleared _ _ => cases hevents

end Sending

end Command

variable {σ : Type} [Backend σ]

namespace Edit

variable {world : Nat → Surroundings} {e : Edit σ}

theorem looks_of_mem_loading {op : StoreOp} (h : op ∈ (e.loading world).writes) :
    Effect.Looks (.wrote op) := by
  have hlooks := keepsTo_noteToEdit (σ := σ) e.client.codec e.client.config e.title e.opts
  exact Report.looks_of_mem_writes (hlooks world e.tick e.store) h

theorem shownIn_loading : shownIn (e.loading world).events = [] := by
  refine List.filterMap_eq_nil_iff.2 fun event h => ?_
  obtain ⟨call, answer, rfl, -⟩ := eq_called_of_mem_loading h
  rfl

theorem sentIn_loading : sentIn (e.loading world).events = [] := by
  refine List.filterMap_eq_nil_iff.2 fun event h => ?_
  obtain ⟨call, answer, rfl, hname⟩ := eq_called_of_mem_loading h
  cases call with
  | updateNote note => simp [RemoteCall.name] at hname
  | _ => rfl

theorem SendsBy.writes {loaded : Note} {text : String} {r : Report σ EditOutcome}
    (h : e.SendsBy world loaded text r) :
    (e.report world).writes = (e.loading world).writes ++ r.writes := by
  rw [Report.writes, h.journal, List.filterMap_append]
  rfl

/-! ## 2. The text that came back

The program compares fingerprints, and the notions here compare texts.  The two agree on the texts
of one edit if no two of them collide. -/

/-- **Whether a note was loaded and shown, and a text came back.**  What the text is, or what is
done with it, is left open. -/
structure Gets (world : Nat → Surroundings) (e : Edit σ) (loaded : Note) (text : String) :
    Prop where
  load : (e.loading world).result = .ok loaded
  edited : .edited (shownText loaded e.opts.raw) (.ok text) ∈ (e.report world).events

/-- **Whether a note is due to be sent**: it is to be recovered, or its text came back changed. -/
structure Due (world : Nat → Surroundings) (e : Edit σ) (loaded : Note) (text : String) :
    Prop extends Gets world e loaded text where
  differs : e.opts.recover = true ∨ text ≠ shownText loaded e.opts.raw

/-- Whether a text that came back has the fingerprint of the text shown only if it is that text. -/
def NoCollision (world : Nat → Surroundings) (e : Edit σ) : Prop :=
  ∀ loaded text, e.Gets world loaded text →
    Fingerprint.ofText text = Fingerprint.ofText (shownText loaded e.opts.raw) →
      text = shownText loaded e.opts.raw

/-- A text with another fingerprint is another text. -/
theorem ne_of_comesBack {loaded : Note} {raw : Bool} {text : String}
    (h : comesBack loaded raw text = false) : text ≠ shownText loaded raw := by
  rintro rfl
  rw [comesBack, decide_eq_false_iff_not] at h
  exact h rfl

/-- **The three ways to go on once a note is loaded.**  Each gives what others see behind the
loading. -/
inductive GoesOn (world : Nat → Surroundings) (e : Edit σ) (loaded : Note) : Prop
  /-- The editor failed. -/
  | failed {err : Error} (hevents : (e.report world).events = (e.loading world).events
        ++ [.edited (shownText loaded e.opts.raw) (.error err)])
      (hwrites : (e.report world).writes = (e.loading world).writes)
      (hresult : (e.report world).result = .error err)
  /-- The text came back as it was, going by its fingerprint. -/
  | unchanged {text : String} (hrecover : e.opts.recover = false)
      (hevents : (e.report world).events = (e.loading world).events
        ++ [.edited (shownText loaded e.opts.raw) (.ok text)])
      (hwrites : (e.report world).writes = (e.loading world).writes)
      (hresult : (e.report world).result = .ok .unchanged)
      (hback : comesBack loaded e.opts.raw text = true)
  /-- The text was sent. -/
  | sent {text : String} {r : Report σ EditOutcome}
      (hdiffers : e.opts.recover = true ∨ text ≠ shownText loaded e.opts.raw)
      (hby : e.SendsBy world loaded text r)

/-- If nothing follows the editor, others see one text more, and nothing more is written. -/
theorem events_of_edited {text : String} {result : Except Error String}
    (h : (e.report world).journal = (e.loading world).journal ++ [.edited text result]) :
    (e.report world).events = (e.loading world).events ++ [.edited text result]
      ∧ (e.report world).writes = (e.loading world).writes := by
  constructor
  · rw [Report.events, h, List.filterMap_append]
    rfl
  · rw [Report.writes, h, List.filterMap_append]
    exact List.append_nil _

theorem goesOn_of_loaded [LawfulBackend σ] {loaded : Note}
    (hload : (e.loading world).result = .ok loaded) : e.GoesOn world loaded := by
  have hcourse := e.course world
  generalize hreport : e.report world = r at hcourse
  cases hcourse with
  | notLoaded hload' => exact absurd (hload'.symm.trans hload) nofun
  | @notEdited s last loaded' err hload' =>
    obtain rfl : loaded' = loaded := Except.ok.inj (hload'.symm.trans hload)
    obtain ⟨hevents, hwrites⟩ := events_of_edited (congrArg Report.journal hreport)
    exact .failed hevents hwrites (congrArg Report.result hreport)
  | @unchanged s last loaded' text hload' hrecover hback =>
    obtain rfl : loaded' = loaded := Except.ok.inj (hload'.symm.trans hload)
    obtain ⟨hevents, hwrites⟩ := events_of_edited (congrArg Report.journal hreport)
    exact .unchanged hrecover hevents hwrites (congrArg Report.result hreport) hback
  | @sent loaded' text r hload' hdiffers hsend =>
    obtain rfl : loaded' = loaded := Except.ok.inj (hload'.symm.trans hload)
    exact .sent (hdiffers.imp_right ne_of_comesBack) ⟨hsend, hreport⟩

/-! ## 3. What follows the loading

The events of an edit are those of the loading and a tail.  What is asked about shown texts and sent
notes is thereby a question about the tail, which is known in each case. -/

section Tail

variable {tail : List Event}

theorem edited_mem_iff (h : (e.report world).events = (e.loading world).events ++ tail)
    {text : String} {result : Except Error String} :
    .edited text result ∈ (e.report world).events ↔ .edited text result ∈ tail := by
  rw [h, List.mem_append, or_iff_right not_edited_mem_loading]

theorem updateNote_mem_iff (h : (e.report world).events = (e.loading world).events ++ tail)
    {note : Note} {answer : Except Error Unit} :
    .called (.updateNote note) answer ∈ (e.report world).events
      ↔ .called (.updateNote note) answer ∈ tail := by
  rw [h, List.mem_append, or_iff_right not_updateNote_mem_loading]

theorem shownIn_report (h : (e.report world).events = (e.loading world).events ++ tail) :
    shownIn (e.report world).events = shownIn tail := by
  have hloading : shownIn (e.loading world).events = [] := shownIn_loading
  rw [shownIn] at hloading ⊢
  rw [h, List.filterMap_append, hloading, List.nil_append, shownIn]

theorem sentIn_report (h : (e.report world).events = (e.loading world).events ++ tail) :
    sentIn (e.report world).events = sentIn tail := by
  have hloading : sentIn (e.loading world).events = [] := sentIn_loading
  rw [sentIn] at hloading ⊢
  rw [h, List.filterMap_append, hloading, List.nil_append, sentIn]

end Tail

section Lawful

variable [LawfulBackend σ]

/-- Without a note an edit does nothing. -/
theorem report_of_not_loaded {err : Error} (h : (e.loading world).result = .error err) :
    (e.report world).events = (e.loading world).events ++ []
      ∧ (e.report world).writes = (e.loading world).writes
      ∧ (e.report world).result = .error err := by
  have hcourse := e.course world
  generalize hreport : e.report world = r at hcourse
  cases hcourse with
  | notLoaded hload =>
    obtain rfl := Except.error.inj (hload.symm.trans h)
    exact ⟨(List.append_nil _).symm, rfl, rfl⟩
  | notEdited hload => exact absurd (hload.symm.trans h) nofun
  | unchanged hload _ _ => exact absurd (hload.symm.trans h) nofun
  | sent hload _ _ => exact absurd (hload.symm.trans h) nofun

/-- What a text that came back leads to. -/
theorem Gets.cases (hcollision : e.NoCollision world) {loaded : Note} {text : String}
    (h : e.Gets world loaded text) :
    (e.opts.recover = false ∧ text = shownText loaded e.opts.raw
      ∧ (e.report world).events
        = (e.loading world).events ++ [.edited (shownText loaded e.opts.raw) (.ok text)]
      ∧ (e.report world).result = .ok .unchanged)
    ∨ (e.Due world loaded text ∧ ∃ r, e.SendsBy world loaded text r) := by
  have hedited := h.edited
  cases goesOn_of_loaded h.load with
  | failed hevents _ _ =>
    rw [edited_mem_iff hevents] at hedited
    simp at hedited
  | @unchanged text' hrecover hevents _ hresult hback =>
    rw [edited_mem_iff hevents] at hedited
    obtain rfl : text = text' := by simpa using hedited
    exact .inl ⟨hrecover, hcollision loaded text h (of_decide_eq_true hback), hevents, hresult⟩
  | @sent text' r hdiffers hby =>
    obtain ⟨answer, hevents, -⟩ := hby.exists_answer
    rw [edited_mem_iff hevents] at hedited
    obtain rfl : text = text' := by simpa using hedited
    exact .inr ⟨⟨h, hdiffers⟩, r, hby⟩

/-- What a note that was sent goes back to. -/
theorem exists_due_of_updateNote {note : Note} {answer : Except Error Unit}
    (h : .called (.updateNote note) answer ∈ (e.report world).events) :
    ∃ loaded text r, e.Due world loaded text ∧ note = outgoing (e.made loaded text)
      ∧ e.SendsBy world loaded text r
      ∧ r.events = [.called (.updateNote (outgoing (e.made loaded text))) answer] := by
  obtain ⟨loaded, text, r, hload, hdiffers, hby, rfl, hr⟩ := exists_sendsBy_of_called h
  have hgets : e.Gets world loaded text := by
    refine ⟨hload, ?_⟩
    rw [hby.events]
    exact List.mem_append_right _ List.mem_cons_self
  exact ⟨loaded, text, r, ⟨hgets, hdiffers.imp_right ne_of_comesBack⟩, rfl, hby, hr⟩

end Lawful

/-! ## 4. Acting

What became of the recovery point is told by the writes of the edit: the note was put there, or what
was there was taken out. -/

/-- Whether a note became the recovery point in an edit. -/
def Keeps (world : Nat → Surroundings) (e : Edit σ) (note : Note) : Prop :=
  .put Slot.recovery.bucket Slot.recovery.key (Record.encode note) ∈ (e.report world).writes

/-- Whether the recovery point was forgotten in an edit. -/
def Clears (world : Nat → Surroundings) (e : Edit σ) : Prop :=
  .delete Slot.recovery.bucket Slot.recovery.key ∈ (e.report world).writes

/-- What became of the recovery point is known once the note is sent. -/
theorem SendsBy.keeps_iff {loaded : Note} {text : String} {r : Report σ EditOutcome}
    (h : e.SendsBy world loaded text r) {note : Note} : e.Keeps world note
      ↔ .put Slot.recovery.bucket Slot.recovery.key (Record.encode note) ∈ r.writes := by
  rw [Keeps, h.writes, List.mem_append, or_iff_right]
  exact fun hop => looks_of_mem_loading hop

theorem SendsBy.clears_iff {loaded : Note} {text : String} {r : Report σ EditOutcome}
    (h : e.SendsBy world loaded text r) :
    e.Clears world ↔ .delete Slot.recovery.bucket Slot.recovery.key ∈ r.writes := by
  rw [Clears, h.writes, List.mem_append, or_iff_right]
  exact fun hop => looks_of_mem_loading hop

/-- **When an edit acts, and what it comes to**, in terms of what others see and of the store.  No
field speaks of fingerprints. -/
structure ActsWhenDue (world : Nat → Surroundings) (e : Edit σ) : Prop where
  loads (loaded : Note) : (e.loading world).result = .ok loaded ↔ e.Loads world loaded
  /-- The editor runs once on the buffer of a note that was loaded. -/
  shows (loaded : Note) (h : e.Loads world loaded) : shownIn (e.report world).events
    = [(EditBuffer.mk loaded.title (if e.opts.raw then loaded.body else loaded.md)).format]
  /-- Without a note it does not run, and the error is passed on. -/
  stops (err : Error) (h : (e.loading world).result = .error err) :
    shownIn (e.report world).events = [] ∧ (e.report world).result = .error err
  /-- So is the error of the editor. -/
  givesUp (text : String) (err : Error) (h : .edited text (.error err) ∈ (e.report world).events) :
    (e.report world).result = .error err
  /-- One note is sent if it is due. -/
  sends (loaded : Note) (text : String) (h : e.Due world loaded text) :
    sentIn (e.report world).events = [outgoing (e.made loaded text)]
  /-- No note is sent if none is due. -/
  rests (h : ∀ loaded text, ¬ e.Due world loaded text) : sentIn (e.report world).events = []
  /-- No other calls are made. -/
  calls (call : RemoteCall) (answer : Except Error call.Answer)
    (h : .called call answer ∈ (e.report world).events) :
    call.name ∈ ["find_notes", "get_note_content", "update_note"]
  unchanged : (e.report world).result = .ok .unchanged
    ↔ e.opts.recover = false ∧ ∃ loaded, e.Gets world loaded (shownText loaded e.opts.raw)
  /-- A note is saved if it was taken, and no longer has to be recovered. -/
  saved (note : Note) : (e.report world).result = .ok (.saved note)
    ↔ (∃ loaded text, e.Due world loaded text ∧ note = e.made loaded text)
      ∧ .called (.updateNote (outgoing note)) (.ok ()) ∈ (e.report world).events
      ∧ (e.opts.recover = true → e.Clears world)
  /-- A note that is refused is kept, or there are two errors to tell. -/
  refused (note : Note) (save : Error)
    (h : .called (.updateNote note) (.error save) ∈ (e.report world).events) :
    ∃ loaded text, e.Due world loaded text ∧ note = outgoing (e.made loaded text)
      ∧ (e.Keeps world (e.made loaded text) ∧ (e.report world).result = .error save
        ∨ ¬ e.Keeps world (e.made loaded text)
          ∧ ∃ recovery, (world ((e.loading world).tick + 2)).fault.reply = .error recovery
            ∧ (e.report world).result = .error (.recoveryFailed save recovery))
  /-- As long as no note is sent no entry of the store changes. -/
  spared (h : sentIn (e.report world).events = []) (b : String) (k : Bytes) :
    Backend.get (e.report world).store b k = Backend.get e.store b k

section Lawful

variable [LawfulBackend σ]

theorem unchanged_iff (hcollision : e.NoCollision world) :
    (e.report world).result = .ok .unchanged
      ↔ e.opts.recover = false ∧ ∃ loaded, e.Gets world loaded (shownText loaded e.opts.raw) := by
  constructor
  · intro hresult
    cases hload : (e.loading world).result with
    | error err => exact absurd (hresult.symm.trans (report_of_not_loaded hload).2.2) nofun
    | ok loaded =>
      cases goesOn_of_loaded hload with
      | failed _ _ hfailed => exact absurd (hresult.symm.trans hfailed) nofun
      | @unchanged text hrecover hevents _ _ hback =>
        have hgets : e.Gets world loaded text :=
          ⟨hload, (edited_mem_iff hevents).2 List.mem_cons_self⟩
        obtain rfl := hcollision loaded text hgets (of_decide_eq_true hback)
        exact ⟨hrecover, loaded, hgets⟩
      | @sent text r _ hby =>
        rw [hby.result] at hresult
        exact absurd hresult hby.course.result_ne_unchanged
  · rintro ⟨hrecover, loaded, hgets⟩
    rcases hgets.cases hcollision with ⟨-, -, -, hresult⟩ | ⟨hdue, -⟩
    · exact hresult
    · rcases hdue.differs with hd | hd
      · exact absurd (hrecover.symm.trans hd) nofun
      · exact absurd rfl hd

theorem Due.exists_sendsBy (hcollision : e.NoCollision world) {loaded : Note} {text : String}
    (h : e.Due world loaded text) : ∃ r, e.SendsBy world loaded text r := by
  rcases h.toGets.cases hcollision with ⟨hrecover, hsame, -⟩ | ⟨-, hby⟩
  · rcases h.differs with hd | hd
    · exact absurd (hrecover.symm.trans hd) nofun
    · exact absurd hsame hd
  · exact hby

theorem saved_iff (hcollision : e.NoCollision world) (note : Note) :
    (e.report world).result = .ok (.saved note)
      ↔ (∃ loaded text, e.Due world loaded text ∧ note = e.made loaded text)
        ∧ .called (.updateNote (outgoing note)) (.ok ()) ∈ (e.report world).events
        ∧ (e.opts.recover = true → e.Clears world) := by
  constructor
  · intro hresult
    cases hload : (e.loading world).result with
    | error err => exact absurd (hresult.symm.trans (report_of_not_loaded hload).2.2) nofun
    | ok loaded =>
      cases goesOn_of_loaded hload with
      | failed _ _ hfailed => exact absurd (hresult.symm.trans hfailed) nofun
      | unchanged _ _ _ hunchanged _ => exact absurd (hresult.symm.trans hunchanged) nofun
      | @sent text r hdiffers hby =>
        rw [hby.result] at hresult
        obtain ⟨rfl, hr, hclears⟩ := hby.course.saved_iff.1 hresult
        have hevents := hby.events
        rw [hr] at hevents
        refine ⟨⟨loaded, text, ⟨⟨hload, ?_⟩, hdiffers⟩, rfl⟩, ?_, fun hrecover => ?_⟩
        · exact (edited_mem_iff hevents).2 List.mem_cons_self
        · exact (updateNote_mem_iff hevents).2 (List.mem_cons_of_mem _ List.mem_cons_self)
        · exact hby.clears_iff.2 (hclears hrecover)
  · rintro ⟨⟨loaded, text, hdue, rfl⟩, hcalled, hclears⟩
    obtain ⟨r, hby⟩ := hdue.exists_sendsBy hcollision
    obtain ⟨answer, hevents, hr⟩ := hby.exists_answer
    rw [updateNote_mem_iff hevents] at hcalled
    obtain rfl : .ok () = answer := by simpa using hcalled
    rw [hby.result]
    exact hby.course.saved_iff.2 ⟨rfl, hr, fun hrecover => hby.clears_iff.1 (hclears hrecover)⟩

theorem refused {note : Note} {save : Error}
    (h : .called (.updateNote note) (.error save) ∈ (e.report world).events) :
    ∃ loaded text, e.Due world loaded text ∧ note = outgoing (e.made loaded text)
      ∧ (e.Keeps world (e.made loaded text) ∧ (e.report world).result = .error save
        ∨ ¬ e.Keeps world (e.made loaded text)
          ∧ ∃ recovery, (world ((e.loading world).tick + 2)).fault.reply = .error recovery
            ∧ (e.report world).result = .error (.recoveryFailed save recovery)) := by
  obtain ⟨loaded, text, r, hdue, hnote, hby, hr⟩ := exists_due_of_updateNote h
  refine ⟨loaded, text, hdue, hnote, ?_⟩
  rw [hby.result]
  rcases hby.course.refused hr with ⟨hput, hresult⟩ | ⟨hwrites, hlost⟩
  · exact .inl ⟨hby.keeps_iff.2 hput, hresult⟩
  · refine .inr ⟨fun hkeeps => ?_, hlost⟩
    rw [hby.keeps_iff, hwrites] at hkeeps
    cases hkeeps

theorem shownIn_of_loaded {loaded : Note} (h : (e.loading world).result = .ok loaded) :
    shownIn (e.report world).events = [shownText loaded e.opts.raw] := by
  cases goesOn_of_loaded h with
  | failed hevents _ _ => exact shownIn_report hevents
  | unchanged _ hevents _ _ _ => exact shownIn_report hevents
  | sent _ hby =>
    obtain ⟨answer, hevents, -⟩ := hby.exists_answer
    exact shownIn_report hevents

theorem sentIn_of_due (hcollision : e.NoCollision world) {loaded : Note} {text : String}
    (h : e.Due world loaded text) :
    sentIn (e.report world).events = [outgoing (e.made loaded text)] := by
  obtain ⟨r, hby⟩ := h.exists_sendsBy hcollision
  obtain ⟨answer, hevents, -⟩ := hby.exists_answer
  exact sentIn_report hevents

/-- An edit without a note that is due does not send one, and writes no more than it did to load
its note. -/
theorem rests_of_not_due (h : ∀ loaded text, ¬ e.Due world loaded text) :
    sentIn (e.report world).events = [] ∧ (e.report world).writes = (e.loading world).writes := by
  cases hload : (e.loading world).result with
  | error err =>
    obtain ⟨hevents, hwrites, -⟩ := report_of_not_loaded hload
    exact ⟨sentIn_report hevents, hwrites⟩
  | ok loaded =>
    cases goesOn_of_loaded hload with
    | failed hevents hwrites _ => exact ⟨sentIn_report hevents, hwrites⟩
    | unchanged _ hevents hwrites _ _ => exact ⟨sentIn_report hevents, hwrites⟩
    | @sent text r hdiffers hby =>
      obtain ⟨answer, hevents, -⟩ := hby.exists_answer
      have hgets : e.Gets world loaded text :=
        ⟨hload, (edited_mem_iff hevents).2 List.mem_cons_self⟩
      exact absurd ⟨hgets, hdiffers⟩ (h loaded text)

theorem result_of_editor_error {text : String} {err : Error}
    (h : .edited text (.error err) ∈ (e.report world).events) :
    (e.report world).result = .error err := by
  cases hload : (e.loading world).result with
  | error err' =>
    rw [edited_mem_iff (report_of_not_loaded hload).1] at h
    cases h
  | ok loaded =>
    cases goesOn_of_loaded hload with
    | @failed err' hevents _ hresult =>
      rw [edited_mem_iff hevents] at h
      obtain ⟨-, rfl⟩ : text = shownText loaded e.opts.raw ∧ err = err' := by simpa using h
      exact hresult
    | unchanged _ hevents _ _ _ =>
      rw [edited_mem_iff hevents] at h
      simp at h
    | sent _ hby =>
      obtain ⟨answer, hevents, -⟩ := hby.exists_answer
      rw [edited_mem_iff hevents] at h
      simp at h

theorem name_of_called {call : RemoteCall} {answer : Except Error call.Answer}
    (h : .called call answer ∈ (e.report world).events) :
    call.name ∈ ["find_notes", "get_note_content", "update_note"] := by
  have hlooking {call : RemoteCall} {answer : Except Error call.Answer}
      (h : .called call answer ∈ (e.loading world).events) :
      call.name ∈ ["find_notes", "get_note_content", "update_note"] := by
    obtain ⟨call', answer', hcalled, hname⟩ := eq_called_of_mem_loading h
    cases hcalled
    exact List.mem_append_left ["update_note"] hname
  cases hload : (e.loading world).result with
  | error err =>
    rw [(report_of_not_loaded hload).1, List.append_nil] at h
    exact hlooking h
  | ok loaded =>
    cases goesOn_of_loaded hload with
    | failed hevents _ _ =>
      rw [hevents] at h
      exact hlooking (by simpa using h)
    | unchanged _ hevents _ _ _ =>
      rw [hevents] at h
      exact hlooking (by simpa using h)
    | sent _ hby =>
      obtain ⟨answer', hevents, -⟩ := hby.exists_answer
      rw [hevents] at h
      rcases List.mem_append.1 h with h | h
      · exact hlooking h
      · obtain ⟨rfl, -⟩ : call = _ ∧ _ := by simpa using h
        simp [RemoteCall.name]

/-- **When an edit acts, and what it comes to**, as long as no two texts collide. -/
theorem actsWhenDue (world : Nat → Surroundings) (e : Edit σ) (hcollision : e.NoCollision world) :
    e.ActsWhenDue world where
  loads := loading_eq_ok_iff world e
  shows loaded h := shownIn_of_loaded ((loading_eq_ok_iff world e loaded).2 h)
  stops err h := ⟨shownIn_report (report_of_not_loaded h).1, (report_of_not_loaded h).2.2⟩
  givesUp text err h := result_of_editor_error h
  sends loaded text h := sentIn_of_due hcollision h
  rests h := (rests_of_not_due h).1
  calls call answer h := name_of_called h
  unchanged := unchanged_iff hcollision
  saved note := saved_iff hcollision note
  refused note save h := refused h
  spared h b k := by
    have hnone : ∀ loaded text, ¬ e.Due world loaded text := fun loaded text hdue =>
      absurd ((sentIn_of_due hcollision hdue).symm.trans h) nofun
    rw [report, get_report]
    change Transaction.replay b k (e.report world).writes _ = _
    rw [(rests_of_not_due hnone).2]
    exact replay_of_looks (fun op hop => looks_of_mem_loading hop) b k _

end Lawful

end Edit

namespace Sample

theorem noCollision_lostEdit : lostEdit.NoCollision world := by
  intro loaded' text hgets hsame
  obtain rfl : loaded' = loaded := Except.ok.inj (hgets.load.symm.trans load_lostEdit)
  have hevents : (lostEdit.report world).events = (lostEdit.loading world).events
      ++ [.edited (shownText loaded true) (.ok "Foo\n\nnew"),
        .called (.updateNote (outgoing (lostEdit.made loaded "Foo\n\nnew"))) (.error refusal)] := by
    rw [Report.events, lostSave_lostEdit.journal, List.filterMap_append]
    rfl
  have hedited := (Edit.edited_mem_iff hevents).1 hgets.edited
  obtain ⟨-, rfl⟩ : shownText loaded lostEdit.opts.raw = shownText loaded true
      ∧ text = "Foo\n\nnew" := by simpa using hedited
  have hdiffers : Fingerprint.ofText "Foo\n\nnew" ≠ Fingerprint.ofText (shownText loaded true) := by
    decide +kernel
  exact absurd hsame hdiffers

end Sample

/-- An edit whose note is due and refused, and which is kept. -/
theorem Edit.actsWhenDue_lostEdit : Sample.lostEdit.NoCollision Sample.world
    ∧ Sample.lostEdit.ActsWhenDue Sample.world :=
  ⟨Sample.noCollision_lostEdit, Edit.actsWhenDue _ _ Sample.noCollision_lostEdit⟩

end Notekeeper
