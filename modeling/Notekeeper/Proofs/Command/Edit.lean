import Notekeeper.Command.Editing
import Notekeeper.Proofs.Command.Records

/-!
# The course of an edit

An edit loads a note, shows it, sends what comes back and then settles the recovery point.  It can
stop at each of these points, and where it stops decides its result and all that it did.  The
courses are listed as the constructors of two inductive predicates on reports, so that a fact about
edits is shown by going through them, and what the program does inside a course is no longer part
of the argument.

The first predicate is about sending.  The remote service takes the note or refuses it.  A refused
note becomes the recovery point, and the edit fails as the call did; if the store refuses it too,
both errors are told.  A taken note ends the edit, and if the edit was a recovery the slot is
emptied before that.  If the store refuses to empty it, the edit fails although the note was taken.
The second predicate is about what comes before: no note was found, the editor failed, the text
came back as it was shown, or it was sent.

Whether a text came back as it was shown is judged by the fingerprints of the two texts.  Neither is
parsed for this, so a text that says the same in another form counts as changed.  A recovery sends
whatever comes back.

* `Command.editNote_eq` : an edit is loading, showing and finishing.
* `Command.SendCourse` : the courses that sending an edited note can take.
* `Command.EditCourse` : the courses that an edit can take.
* `Command.sendCourse_report` : sending takes one of its courses.
* `Command.editCourse_report` : every edit takes one of them.
-/

namespace Notekeeper

namespace Command

/-! ## 1. The parts of an edit

The definitions name the steps of `editNote`, so that the courses can speak of them.  That they make
up the whole is an equation between commands. -/

/-- The note that an edit starts from. -/
def noteToEdit (codec : Codec) (config : Config) (title : String) (opts : EditOptions) :
    Command Note :=
  if opts.recover then noteToRecover else noteWithContent codec config title

/-- The text that an edit shows. -/
def shownText (loaded : Note) (raw : Bool) : String := (loaded.buffer raw).format

/-- **The note that an edit sends**: the text that came back, taken over and rendered.  It is what
the caller gets and what may be kept, while the call has it in its envelope. -/
def editedNote (codec : Codec) (loaded : Note) (raw : Bool) (text : String) : Note :=
  rendered codec ((loaded.markLoaded raw).applyBuffer (.parse text) raw) raw

/-- Whether a text comes back as it was shown, going by its fingerprint. -/
def comesBack (loaded : Note) (raw : Bool) (text : String) : Bool :=
  Fingerprint.ofText text = Fingerprint.ofText (shownText loaded raw)

/-- What an edit does when its note has been sent. -/
def settleRecovery (opts : EditOptions) : Command Unit :=
  if opts.recover then clearRecoveryPoint else pure ()

/-- What an edit does with a note that it is to send. -/
def sendEdited (codec : Codec) (opts : EditOptions) (note : Note) : Command EditOutcome := do
  let saved ← saveChanges codec note opts.raw
  settleRecovery opts
  pure (.saved saved)

/-- What an edit does with the text that came back. -/
def finishEdit (codec : Codec) (opts : EditOptions) (loaded : Note) (text : String) :
    Command EditOutcome :=
  if !opts.recover && comesBack loaded opts.raw text then pure .unchanged
  else sendEdited codec opts ((loaded.markLoaded opts.raw).applyBuffer (.parse text) opts.raw)

theorem editNote_eq (codec : Codec) (config : Config) (title : String) (opts : EditOptions) :
    editNote codec config title opts = (do
      let loaded ← noteToEdit codec config title opts
      let text ← edited (shownText loaded opts.raw)
      finishEdit codec opts loaded text) := by
  have hback (loaded : Note) (text : String) : comesBack loaded opts.raw text
      = decide (some (Fingerprint.ofText text) = (loaded.markLoaded opts.raw).mdHash) := by
    have hhash : (loaded.markLoaded opts.raw).mdHash
        = some (Fingerprint.ofText (shownText loaded opts.raw)) := rfl
    rw [hhash]
    exact decide_eq_decide.2 Option.some_inj.symm
  unfold editNote noteToEdit finishEdit sendEdited settleRecovery
  simp only [hback]
  cases opts.recover <;> rfl

/-! ## 2. Sending -/

variable {σ : Type} [Backend σ]

/-- **The courses that sending an edited note can take**, from a tick on.  The call takes the first
tick and the store the second, and each may go well or not. -/
inductive SendCourse (world : Nat → Surroundings) (opts : EditOptions) (note : Note)
    (tick : Nat) : Report σ EditOutcome → Prop
  /-- The note was refused, and became the recovery point. -/
  | kept {s : σ} {last : Nat} {save : Error} :
    SendCourse world opts note tick ⟨.error save, s,
      .called (.updateNote (outgoing note)) (.error save)
        :: (Slot.recovery.putting (Record.encode note)).map .wrote, last⟩
  /-- The note was refused, and did not become the recovery point. -/
  | lost {s : σ} {save recovery : Error}
      (hfault : (world (tick + 1)).fault.reply = .error recovery) :
    SendCourse world opts note tick ⟨.error (.recoveryFailed save recovery), s,
      [.called (.updateNote (outgoing note)) (.error save)], tick + 2⟩
  /-- The note was taken, and there was nothing to recover. -/
  | saved {s : σ} {last : Nat} (hrecover : opts.recover = false) :
    SendCourse world opts note tick ⟨.ok (.saved note), s,
      [.called (.updateNote (outgoing note)) (.ok ())], last⟩
  /-- The note was taken, and the recovery point was forgotten. -/
  | cleared {s : σ} {last : Nat} (hrecover : opts.recover = true) :
    SendCourse world opts note tick ⟨.ok (.saved note), s,
      .called (.updateNote (outgoing note)) (.ok ()) :: Slot.recovery.emptying.map .wrote, last⟩
  /-- The note was taken, and the recovery point stayed. -/
  | notCleared {s : σ} {e : Error} (hrecover : opts.recover = true)
      (hfault : (world (tick + 1)).fault.reply = .error e) :
    SendCourse world opts note tick ⟨.error e, s,
      [.called (.updateNote (outgoing note)) (.ok ())], tick + 2⟩

omit [Backend σ] in
/-- Sending a note makes one call. -/
theorem SendCourse.exists_answer {world : Nat → Surroundings} {opts : EditOptions} {note : Note}
    {tick : Nat} {r : Report σ EditOutcome} (h : SendCourse world opts note tick r) :
    ∃ answer, r.events = [.called (.updateNote (outgoing note)) answer] := by
  cases h with
  | kept => exact ⟨_, congrArg (_ :: ·) (Effect.filterMap_event?_wrote _)⟩
  | lost _ => exact ⟨_, rfl⟩
  | saved _ => exact ⟨_, rfl⟩
  | cleared _ => exact ⟨_, congrArg (_ :: ·) (Effect.filterMap_event?_wrote _)⟩
  | notCleared _ _ => exact ⟨_, rfl⟩

/-- What follows when a note is taken. -/
theorem sendCourse_of_taken (world : Nat → Surroundings) (opts : EditOptions) (note : Note)
    (tick : Nat) (s : σ) : SendCourse world opts note tick
      (((settleRecovery opts >>= fun _ => pure (.saved note)).report world (tick + 1) s).after
        [.called (.updateNote (outgoing note)) (.ok ())]) := by
  unfold settleRecovery
  cases hrecover : opts.recover with
  | false => exact .saved hrecover
  | true =>
    obtain ⟨s', hclear⟩ := report_clearRecoveryPoint world (tick + 1) s
    rw [if_pos rfl, report_bind, hclear]
    cases hreply : (world (tick + 1)).fault.reply with
    | ok u =>
      rw [if_pos (WriteFault.reply_eq_ok.1 hreply)]
      exact .cleared hrecover
    | error e =>
      rw [if_neg (WriteFault.ne_none_of_reply hreply)]
      exact .notCleared hrecover hreply

/-- What a refused note reports: it is the recovery point now, or it is not. -/
theorem report_saveChanges_of_refused [LawfulBackend σ] {world : Nat → Surroundings}
    {codec : Codec} {note : Note} {raw : Bool} {tick : Nat} {save : Error}
    (h : (world tick).remote (.updateNote (outgoing (rendered codec note raw))) = .error save)
    (s : σ) :
    ∃ s', (saveChanges codec note raw).report world tick s
      = ⟨match (world (tick + 1)).fault.reply with
          | .ok _ => .error save
          | .error recovery => .error (.recoveryFailed save recovery), s',
        .called (.updateNote (outgoing (rendered codec note raw))) (.error save)
          :: if (world (tick + 1)).fault = .none then
            (Slot.recovery.putting (Record.encode (rendered codec note raw))).map .wrote else [],
        tick + 2⟩ := by
  obtain ⟨s', hstore⟩ := report_storeRecord .recovery (rendered codec note raw) world
    (tick + 1) s
  refine ⟨s', ?_⟩
  unfold saveChanges
  rw [report_bind, report_attempt, report_asked, h]
  simp only [Report.andThen, report_bind, report_attempt, storeRecoveryPoint, hstore]
  cases (world (tick + 1)).fault.reply <;> simp [report_fail, Report.after]

/-- **Sending an edited note takes one of the courses**, whatever the answer is and whether or not
the store can be written. -/
theorem sendCourse_report [LawfulBackend σ] (world : Nat → Surroundings) (codec : Codec)
    (opts : EditOptions) (note : Note) (tick : Nat) (s : σ) :
    SendCourse world opts (rendered codec note opts.raw) tick
      ((sendEdited codec opts note).report world tick s) := by
  unfold sendEdited
  rw [report_bind]
  cases hanswer : (world tick).remote (.updateNote (outgoing (rendered codec note opts.raw))) with
  | ok u =>
    have hsave : (saveChanges codec note opts.raw).report world tick s
        = ⟨.ok (rendered codec note opts.raw), s,
            [.called (.updateNote (outgoing (rendered codec note opts.raw))) (.ok ())],
            tick + 1⟩ := by
      unfold saveChanges
      rw [report_bind, report_attempt, report_asked, hanswer]
      rfl
    rw [hsave]
    exact sendCourse_of_taken world opts _ tick s
  | error save =>
    obtain ⟨s', hsave⟩ := report_saveChanges_of_refused hanswer s
    rw [hsave]
    cases hreply : (world (tick + 1)).fault.reply with
    | ok u =>
      rw [if_pos (WriteFault.reply_eq_ok.1 hreply)]
      exact .kept
    | error recovery =>
      rw [if_neg (WriteFault.ne_none_of_reply hreply)]
      exact .lost hreply

/-! ## 3. Editing

The report of the loading is a parameter here.  How a note is loaded, and what that shows others, is
told elsewhere, and whatever it does comes first in the journal. -/

/-- **The courses that an edit can take** from the note that it loaded.  Each gives the whole
journal, so that nothing is left open of what the edit did. -/
inductive EditCourse (world : Nat → Surroundings) (codec : Codec) (opts : EditOptions)
    (loading : Report σ Note) : Report σ EditOutcome → Prop
  /-- There was no note to edit. -/
  | notLoaded {s : σ} {last : Nat} {e : Error} (hload : loading.result = .error e) :
    EditCourse world codec opts loading ⟨.error e, s, loading.journal, last⟩
  /-- The user did not finish. -/
  | notEdited {s : σ} {last : Nat} {loaded : Note} {e : Error}
      (hload : loading.result = .ok loaded) :
    EditCourse world codec opts loading
      ⟨.error e, s, loading.journal ++ [.edited (shownText loaded opts.raw) (.error e)], last⟩
  /-- The text came back as it was shown. -/
  | unchanged {s : σ} {last : Nat} {loaded : Note} {text : String}
      (hload : loading.result = .ok loaded) (hrecover : opts.recover = false)
      (hback : comesBack loaded opts.raw text = true) :
    EditCourse world codec opts loading ⟨.ok .unchanged, s,
      loading.journal ++ [.edited (shownText loaded opts.raw) (.ok text)], last⟩
  /-- The text was sent. -/
  | sent {loaded : Note} {text : String} {r : Report σ EditOutcome}
      (hload : loading.result = .ok loaded)
      (hdiffers : opts.recover = true ∨ comesBack loaded opts.raw text = false)
      (hsend : SendCourse world opts (editedNote codec loaded opts.raw text)
        (loading.tick + 1) r) :
    EditCourse world codec opts loading
      (r.after (loading.journal ++ [.edited (shownText loaded opts.raw) (.ok text)]))

/-- **Every edit takes one of the courses**, on every store and in every world. -/
theorem editCourse_report [LawfulBackend σ] (world : Nat → Surroundings) (codec : Codec)
    (config : Config) (title : String) (opts : EditOptions) (tick : Nat) (s : σ) :
    EditCourse world codec opts ((noteToEdit codec config title opts).report world tick s)
      ((editNote codec config title opts).report world tick s) := by
  rw [editNote_eq, report_bind]
  generalize hloading : (noteToEdit codec config title opts).report world tick s = loading
  obtain ⟨result, s₁, journal, tick₁⟩ := loading
  cases result with
  | error e => exact .notLoaded rfl
  | ok loaded =>
    simp only [Report.andThen, report_bind, report_edited]
    cases (world tick₁).editor (shownText loaded opts.raw) with
    | error e => exact .notEdited rfl
    | ok text =>
      have hsend := sendCourse_report world codec opts
        ((loaded.markLoaded opts.raw).applyBuffer (.parse text) opts.raw) (tick₁ + 1) s₁
      simp only [finishEdit]
      split
      · next hback =>
        simp only [Bool.and_eq_true, Bool.not_eq_true'] at hback
        exact .unchanged rfl hback.1 hback.2
      · next hback =>
        have hdiffers : opts.recover = true ∨ comesBack loaded opts.raw text = false := by
          simpa [Classical.or_iff_not_imp_left] using hback
        rw [Report.after_after]
        exact .sent rfl hdiffers hsend

end Command
end Notekeeper
