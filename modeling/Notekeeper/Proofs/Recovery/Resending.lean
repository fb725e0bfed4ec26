import Notekeeper.Proofs.EditBuffer
import Notekeeper.Proofs.Recovery.Events

/-!
# Recovering a lost save

An edit that starts from the recovery point shows the text that was lost, and sends it even when
it comes back unchanged.  In the mode of the lost save that is the note that was refused; in the
other mode it is not always.

Between the lost save and the edit that recovers it anything may happen to the store, as long as
none of it is an event of the recovery slot.  So the later edit finds the note of the lost save in
the slot (`LostSave.held_later`), with its timestamps as they are written, and takes it for the
note to edit.  The text that it shows is the title and content of that note in its own mode.  A
buffer that is read, written and read again is the same (`EditBuffer.parse_format`), so that a text
which comes back as it was shown gives the note anew.

What is left is to compare two notes.  In the same mode the recovered note is rendered from what it
was rendered from before, and nothing changes but the fingerprint, which is always taken afresh.  In
the other mode a note has two bodies that need not agree: an edit of the markup leaves the markdown
as it was loaded.  Recovering that in markdown mode renders the old markdown, and then forgets the
recovery point.

* `LostSave.recovered` : what an edit from the recovery point shows and sends, in either mode.
* `resent_after_lostSave` : recovering in the same mode sends the lost note.
* `resent_later_or_unsettled` : what may differ in it, and how the edit may fail all the same.
* `resent_in_other_mode_iff` : when recovering in the other mode does.
* `not_resent_in_markdown_mode` : a text that is lost for good.
-/

namespace Notekeeper

open Command

variable {σ : Type} [Backend σ]

/-! ## 1. From the recovery point -/

/-- The note to recover is the one in the slot, with its timestamps as they are written. -/
theorem report_noteToRecover {s : σ} {note : Note}
    (hbucket : Backend.hasBucket s Slot.recovery.bucket = true)
    (hheld : Slot.recovery.held s = some (Record.encode note)) (hguid : note.guid ≠ "")
    (world : Nat → Surroundings) (tick : Nat) :
    noteToRecover.report world tick s = ⟨.ok note.asWritten, s, [], tick + 1⟩ := by
  have hfilter : (some note.asWritten).filter (·.guid ≠ "") = some note.asWritten :=
    Option.filter_some_pos (decide_eq_true hguid)
  have hrecord : Slot.recovery.record s = .ok (some note.asWritten) :=
    Slot.record_of_held_encode hheld
  unfold noteToRecover recoveryPoint
  rw [report_bind, report_loadRecord hbucket, hrecord]
  simp only [Report.andThen, hfilter]
  rfl

/-- An unchanged text gives the note anew: rendered, and with another fingerprint. -/
theorem editedNote_shownText (codec : Codec) {note : Note} (h : EditBuffer.TitleFits note.title)
    (raw : Bool) : editedNote codec note raw (shownText note raw)
      = rendered codec (note.markLoaded raw) raw := by
  have hparse : EditBuffer.parse (shownText note raw) = note.buffer raw :=
    EditBuffer.parse_format h
  rw [editedNote, hparse]
  cases raw <;> rfl

/-- A note that was edited is rendered already, also once it was written down. -/
theorem rendered_editedNote (codec : Codec) (loaded : Note) (raw : Bool) (text : String) :
    let written := (editedNote codec loaded raw text).asWritten
    rendered codec (written.markLoaded raw) raw = written.markLoaded raw := by
  cases raw <;> rfl

theorem titleFits_editedNote (codec : Codec) (loaded : Note) (raw : Bool) (text : String) :
    EditBuffer.TitleFits (editedNote codec loaded raw text).title := by
  have htitle : (editedNote codec loaded raw text).title = (EditBuffer.parse text).title :=
    congrArg EditBuffer.title (editedNote_parts codec loaded raw text).2
  rw [htitle]
  exact EditBuffer.titleFits_parse text

/-- **An edit that starts from the recovery point** in surroundings that leave its text as it is
and take its note. -/
structure Recovers (world : Nat → Surroundings) (e : Edit σ) : Prop where
  recover : e.opts.recover = true
  editor : e.During world fun w => ∀ text, w.editor text = .ok text
  remote : e.During world fun w => ∀ note, w.remote (.updateNote note) = .ok ()

section Histories

variable [LawfulBackend σ] {world : Nat → Surroundings} {steps : List Step} {tick : Nat} {s : σ}
  {before between since : List (Moment σ)} {e e' : Edit σ} {loaded : Note} {text : String}
  {save : Error}

/-- The slot as a later moment finds it, when nothing has happened to it since the save was lost. -/
theorem LostSave.held_later (hlost : LostSave world e loaded text save)
    (hhistory : history world steps tick s
      = before ++ e.moment :: (between ++ e'.moment :: since))
    (hbetween : ∀ m ∈ between, ¬ m.SetsRecovery world) :
    Backend.hasBucket e'.store Slot.recovery.bucket = true
    ∧ Slot.recovery.held e'.store = some (Record.encode (e.made loaded text)) := by
  obtain ⟨_, steps₂, -, -, hlater, -⟩ := exists_of_history_eq_append hhistory
  obtain ⟨steps₃, _, hsteps, hstore, -⟩ := exists_of_history_eq_append hlater.symm
  rw [hsteps] at hbetween
  have hmade : Backend.hasBucket (e.report world).store Slot.recovery.bucket = true := by
    have hmem : .wrote (.createBucket Slot.recovery.bucket) ∈ (e.report world).journal := by
      rw [hlost.journal]
      simp [Slot.putting]
    exact hasBucket_of_mem_journal hmem
  have hstore' : e'.store = storeAfter world steps₃ (e.report world).tick (e.report world).store :=
    hstore
  have hquiet := held_storeAfter fun m hm => m.held_of_not_setsRecovery (hbetween m hm)
  rw [hstore']
  exact ⟨hasBucket_storeAfter hmade _ _, hquiet.trans hlost.held⟩

omit [LawfulBackend σ] in
/-- **What an edit from the recovery point does** with the note that it finds there: it shows the
note's text and sends the note, rendered in its own mode. -/
theorem Recovers.sends (h : Recovers world e) {note : Note}
    (hbucket : Backend.hasBucket e.store Slot.recovery.bucket = true)
    (hheld : Slot.recovery.held e.store = some (Record.encode note)) (hguid : note.guid ≠ "") :
    e.Sends world note.asWritten (shownText note.asWritten e.opts.raw) (.ok ())
      ∧ (e.loading world).events = [] := by
  have hloading : e.loading world = ⟨.ok note.asWritten, e.store, [], e.tick + 1⟩ := by
    unfold Edit.loading noteToEdit
    rw [if_pos h.recover]
    exact report_noteToRecover hbucket hheld hguid world e.tick
  refine ⟨⟨?_, .inl h.recover, ?_, ?_⟩, ?_⟩
  · rw [hloading]
  · exact fun t hle hlt => h.editor t hle hlt _
  · exact fun t hle hlt => h.remote t hle hlt _
  · rw [hloading]
    rfl

/-- What an edit from the recovery point does after a lost save, in either mode. -/
theorem LostSave.recovered (hlost : LostSave world e loaded text save)
    (hhistory : history world steps tick s
      = before ++ e.moment :: (between ++ e'.moment :: since))
    (hguid : loaded.guid ≠ "") (hbetween : ∀ m ∈ between, ¬ m.SetsRecovery world)
    (hrecovers : Recovers world e') :
    let again := (e.made loaded text).asWritten
    e'.Sends world again (shownText again e'.opts.raw) (.ok ())
      ∧ (e'.loading world).events = [] := by
  obtain ⟨hbucket, hheld⟩ := hlost.held_later hhistory hbetween
  have hparts : (e.made loaded text).guid = loaded.guid :=
    (editedNote_parts e.client.codec loaded e.opts.raw text).1
  have hguid' : (e.made loaded text).guid ≠ "" := by
    rw [hparts]
    exact hguid
  exact hrecovers.sends hbucket hheld hguid'

/-- **Recovering in the same mode sends the lost note.**  After a lost save, and whatever else
happens to the store as long as its recovery slot is left alone, an edit from the recovery point in
the same mode shows the text that was read from the lost buffer.  When that comes back unchanged it
sends the note that was refused, in one call, with its timestamps as they are written; only the
fingerprint in it may differ besides.  Unless the store cannot be written, the edit then says that
it saved this note, and the slot is empty. -/
theorem resent_after_lostSave (hhistory : history world steps tick s
      = before ++ e.moment :: (between ++ e'.moment :: since))
    (hlost : LostSave world e loaded text save) (hguid : loaded.guid ≠ "")
    (hbetween : ∀ m ∈ between, ¬ m.SetsRecovery world)
    (hmode : e'.opts.raw = e.opts.raw) (hcodec : e'.client.codec = e.client.codec)
    (hrecovers : Recovers world e') :
    let shown := (EditBuffer.parse text).format
    let lost := e.made loaded text
    ∃ hash, (e'.report world).events
        = [.edited shown (.ok shown),
          .called (.updateNote { (outgoing lost).asWritten with mdHash := hash }) (.ok ())]
      ∧ (e'.During world (fun w => w.fault = .none) →
        (e'.report world).result = .ok (.saved { lost.asWritten with mdHash := hash })
        ∧ Slot.recovery.held (e'.report world).store = none) := by
  intro shown lost
  obtain ⟨hsends, hloading⟩ := hlost.recovered hhistory hguid hbetween hrecovers
  have hbuffer : lost.asWritten.buffer e.opts.raw = EditBuffer.parse text :=
    (asWritten_parts lost e.opts.raw).2.trans
      (editedNote_parts e.client.codec loaded e.opts.raw text).2
  -- The text of the lost note is the text of the buffer that was read.
  have hshown : shownText lost.asWritten e'.opts.raw = shown := by
    rw [hmode]
    exact congrArg EditBuffer.format hbuffer
  have hmade : e'.made lost.asWritten (shownText lost.asWritten e'.opts.raw)
      = lost.asWritten.markLoaded e.opts.raw := by
    have hfits : EditBuffer.TitleFits lost.asWritten.title := titleFits_editedNote _ loaded _ text
    rw [Edit.made, editedNote_shownText _ hfits, hcodec, hmode]
    exact rendered_editedNote _ loaded _ text
  refine ⟨(lost.asWritten.markLoaded e.opts.raw).mdHash, ?_, ?_⟩
  · have hevents := hsends.events
    rw [hloading, hmade, hshown] at hevents
    exact hevents
  · intro hfault
    have hsettled := hsends.settledSave hrecovers.recover hfault
    refine ⟨?_, hsettled.held⟩
    rw [hsettled.result, hmade]
    rfl

end Histories

/-- The edit after the lost one meets surroundings that let it recover. -/
theorem Sample.Alike.recovers_next {w : Nat → Surroundings} (halike : Alike w)
    {opts : EditOptions} (h : opts.recover = true) : Recovers w (lostEdit.next w opts) := by
  have hlate {t : Nat} (ht : (lostEdit.next w opts).tick ≤ t) : 5 ≤ t := by
    rwa [Edit.tick_next, halike.tick] at ht
  refine ⟨h, fun t ht _ text => ?_, fun t ht _ note => ?_⟩
  · simp [halike.editor, world, Nat.not_lt.2 (hlate ht)]
  · simp [halike.update, world, remote, hlate ht]

/-- The markup that was refused is sent again, and the recovery point is forgotten. -/
theorem resent_after_lostEdit :
    let lost := Sample.lostEdit.made Sample.loaded "Foo\n\nnew"
    let again := Sample.lostEdit.next Sample.world { raw := true, recover := true }
    ∃ hash, (again.report Sample.world).result = .ok (.saved { lost with mdHash := hash })
      ∧ Slot.recovery.held (again.report Sample.world).store = none := by
  obtain ⟨hash, -, hsettled⟩ := resent_after_lostSave
    (Sample.lostEdit.history_next Sample.world { raw := true, recover := true })
    Sample.lostSave_lostEdit (by decide) (by simp) rfl rfl (Sample.alike_world.recovers_next rfl)
  exact ⟨hash, hsettled fun _ _ _ => rfl⟩

namespace Sample

/-- The surroundings of the lost edit, in which the store can no longer be written after it. -/
def sealedWorld (tick : Nat) : Surroundings :=
  { world tick with fault := if tick < 5 then .none else .refused }

theorem alike_sealedWorld : Alike sealedWorld := ⟨fun _ => rfl, fun _ _ => rfl, by decide +kernel⟩

theorem lostSave_sealedWorld : LostSave sealedWorld lostEdit loaded "Foo\n\nnew" refusal := by
  refine alike_sealedWorld.lostSave (eq_ok_of_toOption (by decide +kernel)) (by decide +kernel)
    fun t _ ht => ?_
  rw [alike_sealedWorld.tick] at ht
  exact if_pos ht

end Sample

/-- **Recovering need not send the very note that was lost, nor end well.**  A note that was
created in a stray leap second is sent as one that was created in the second after; and where the
store cannot be written the note is taken, and the edit fails all the same. -/
theorem resent_later_or_unsettled :
    let lost := Sample.lostEdit.made Sample.leapLoaded "Foo\n\nnew"
    let again := Sample.lostEdit.next Sample.leapWorld { raw := true, recover := true }
    let shut := Sample.lostEdit.next Sample.sealedWorld { raw := true, recover := true }
    (LostSave Sample.leapWorld Sample.lostEdit Sample.leapLoaded "Foo\n\nnew" Sample.refusal
      ∧ Recovers Sample.leapWorld again
      ∧ ∃ shown sent, (again.report Sample.leapWorld).events
          = [.edited shown (.ok shown), .called (.updateNote sent) (.ok ())]
        ∧ sent.created ≠ (outgoing lost).created)
    ∧ LostSave Sample.sealedWorld Sample.lostEdit Sample.loaded "Foo\n\nnew" Sample.refusal
      ∧ Recovers Sample.sealedWorld shut
      ∧ (shut.report Sample.sealedWorld).result = .error WriteFault.refusedError := by
  have hlate : Recovers Sample.leapWorld (Sample.lostEdit.next Sample.leapWorld
      { raw := true, recover := true }) := Sample.alike_leapWorld.recovers_next rfl
  have hshut : Recovers Sample.sealedWorld (Sample.lostEdit.next Sample.sealedWorld
      { raw := true, recover := true }) := Sample.alike_sealedWorld.recovers_next rfl
  refine ⟨⟨Sample.lostSave_leapWorld, hlate, ?_⟩, Sample.lostSave_sealedWorld, hshut, ?_⟩
  · obtain ⟨hsends, hloading⟩ := Sample.lostSave_leapWorld.recovered
      (Sample.lostEdit.history_next _ _) (by decide) (by simp) hlate
    have hevents := hsends.events
    rw [hloading] at hevents
    exact ⟨_, _, hevents, by decide⟩
  · obtain ⟨hsends, -⟩ := Sample.lostSave_sealedWorld.recovered
      (Sample.lostEdit.history_next _ _) (by decide) (by simp) hshut
    refine hsends.result_of_fault rfl fun t ht _ => ?_
    rw [Edit.tick_next, Sample.alike_sealedWorld.tick] at ht
    simp [Sample.sealedWorld, Nat.not_lt.2 ht, WriteFault.reply]

/-! ## 2. Recovering in the other mode

With markdown for markup, rendering a note copies its markdown into its body.  A lost save in
markdown mode did so before it was sent, and the note in the slot has one text twice; one in raw
mode did not, and its two texts are the edited one and the one that was loaded. -/

section Modes

variable [LawfulBackend σ] {world : Nat → Surroundings} {steps : List Step} {tick : Nat} {s : σ}
  {before between since : List (Moment σ)} {e e' : Edit σ} {loaded : Note} {text : String}
  {save : Error}

omit [LawfulBackend σ] in
theorem wrap_inj {body body' : String} :
    Envelope.wrap body = Envelope.wrap body' ↔ body = body' := by
  simp [Envelope.wrap]

/-- **When recovering in the other mode sends the lost text**, with markdown for markup.  A lost
save in markdown mode always comes through, for it made the markup anew.  One in raw mode does not
change the markdown, so that recovering it in markdown mode sends the markdown of the note as it
was loaded; and the recovery point is forgotten all the same. -/
theorem resent_in_other_mode_iff (hhistory : history world steps tick s
      = before ++ e.moment :: (between ++ e'.moment :: since))
    (hlost : LostSave world e loaded text save) (hguid : loaded.guid ≠ "")
    (hbetween : ∀ m ∈ between, ¬ m.SetsRecovery world)
    (hmode : e'.opts.raw ≠ e.opts.raw) (hcodec : e'.client.codec = .identity)
    (hrecovers : Recovers world e') :
    ∃ shown sent, (e'.report world).events
        = [.edited shown (.ok shown), .called (.updateNote sent) (.ok ())]
      ∧ (sent.body = (outgoing (e.made loaded text)).body
        ↔ (e.opts.raw = true → (EditBuffer.parse text).content = loaded.md))
      ∧ (e'.During world (fun w => w.fault = .none) →
        Slot.recovery.held (e'.report world).store = none) := by
  obtain ⟨hsends, hloading⟩ := hlost.recovered hhistory hguid hbetween hrecovers
  have hevents := hsends.events
  rw [hloading] at hevents
  refine ⟨_, _, hevents, ?_, fun hfault =>
    (hsends.settledSave hrecovers.recover hfault).held⟩
  let again := (e.made loaded text).asWritten
  have hfits : EditBuffer.TitleFits again.title := titleFits_editedNote _ loaded _ text
  have hmade : e'.made again (shownText again e'.opts.raw)
      = rendered .identity (again.markLoaded e'.opts.raw) e'.opts.raw := by
    rw [Edit.made, editedNote_shownText _ hfits, hcodec]
  have hidentity (md : String) : (if md = "" then "" else Codec.identity.toMarkup md) = md := by
    split
    · next h => exact h.symm
    · rfl
  simp only [outgoing, wrap_inj]
  rw [hmade]
  cases hraw : e.opts.raw with
  | true =>
    have hraw' : e'.opts.raw = false := by
      rw [hraw] at hmode
      exact Bool.eq_false_iff.2 hmode
    have hbody : (e.made loaded text).body = (EditBuffer.parse text).content := by
      rw [Edit.made, hraw]
      rfl
    have hmd : again.md = loaded.md := by
      simp only [again, Edit.made, hraw]
      rfl
    have hresent : (rendered .identity (again.markLoaded false) false).body = again.md :=
      hidentity _
    rw [hraw', hresent, hbody, hmd]
    exact ⟨fun h _ => h.symm, fun h => (h rfl).symm⟩
  | false =>
    have hraw' : e'.opts.raw = true := by
      rw [hraw] at hmode
      exact Bool.of_not_eq_false hmode
    rw [hraw']
    exact ⟨fun _ => nofun, fun _ => rfl⟩

end Modes

/-- The edited markup is lost when it is recovered in markdown mode: another text is sent, and the
recovery point is forgotten. -/
theorem not_resent_in_markdown_mode :
    let lost := Sample.lostEdit.made Sample.loaded "Foo\n\nnew"
    let again := Sample.lostEdit.next Sample.world { raw := false, recover := true }
    ∃ shown sent, (again.report Sample.world).events
        = [.edited shown (.ok shown), .called (.updateNote sent) (.ok ())]
      ∧ sent.body ≠ (outgoing lost).body
      ∧ Slot.recovery.held (again.report Sample.world).store = none := by
  obtain ⟨shown, sent, hevents, hbody, hsettled⟩ := resent_in_other_mode_iff
    (Sample.lostEdit.history_next Sample.world { raw := false, recover := true })
    Sample.lostSave_lostEdit (by decide) (by simp) (by decide) rfl
    (Sample.alike_world.recovers_next rfl)
  have hdiffers : ¬ (EditBuffer.parse "Foo\n\nnew").content = Sample.loaded.md := by
    decide +kernel
  exact ⟨shown, sent, hevents, fun h => hdiffers (hbody.1 h rfl), hsettled fun _ _ _ => rfl⟩

end Notekeeper
