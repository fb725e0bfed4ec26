import Notekeeper.Proofs.Command.Calling
import Notekeeper.Proofs.Command.Contract
import Notekeeper.Proofs.Command.Touching
import Notekeeper.Proofs.Damage.Legible
import Notekeeper.Proofs.Editing.Acting

/-!
# Operations that say that something is missing

Some errors only say that what was asked for is not there.  An operation may raise one after it has
looked around, which may fetch the notebook list, but not after anything that others could notice.
The remote service and the editor are taken to fail with errors of their own, as otherwise a refused
call could say the same.

Every operation looks for something first and acts on it afterwards.  While it looks, it does only
harmless things: calls that change nothing, times told, buckets made, and the notebook list cached
(`Effect.Harmless`).  What acts never says that something is missing, because by then everything
that could be missing was found: sending fails with what the service says, storing with what the
store says.  So if a run ends in such an error, it ended while it looked, and all of its effects are
harmless.  The two halves are `HarmlessIfMissing` for the commands that look and `NeverMissing` for
those that act, and `HarmlessIfMissing.bind` puts them together: where something is missing, what
comes after the looking is not reached.

A change of the credentials looks and acts in a single update, but an update that fails keeps no
writes.  The cached notebook list needs a word of its own.  That it is what was there before, or
what was fetched, is known of all operations but the change of a notebook, which patches it; there
it has to be shown that the patch was not reached (`refreshes_of_missing`).

* `Command.HarmlessIfMissing` : commands that have only looked when they raise such an error.
* `Command.NeverMissing` : commands that raise none.
* `Client.harmlessIfMissing_perform` : every operation is one of the former.
* `missing_leaves_no_trace` : what this means for the store, the service and the editor.
-/

namespace Notekeeper

open Command

variable {σ : Type} [Backend σ] {α β : Type}

/-! ## 1. Errors of others

A service that could answer with any error might say that something is missing after it was asked to
change it.  So it is assumed of the service and the editor that they fail with errors of their own.
-/

/-- **The errors of an editor**: it did not finish well, its file cannot be read or written, or it
is not there. -/
inductive Error.OfEditor : Error → Prop
  | editor (text : String) : OfEditor (.editor text)
  | io (text : String) : OfEditor (.io text)
  | noEditorFound : OfEditor .noEditorFound

/-- Whether an editor fails with errors of its own only. -/
def FailsAsEditor (world : Nat → Surroundings) : Prop :=
  ∀ (tick : Nat) (text : String) (e : Error), (world tick).editor text = .error e → e.OfEditor

/-- A store that cannot be written is not missing anything. -/
theorem WriteFault.isNotFound_of_reply {fault : WriteFault} {e : Error}
    (h : fault.reply = .error e) : e.isNotFound = false := by
  cases fault <;> cases h <;> rfl

/-- Nor is one with a record that cannot be read. -/
theorem Slot.isNotFound_of_record {ρ : Type} [Record ρ] {slot : Slot} {s : σ} {e : Error}
    (h : (slot.record s : Except Error (Option ρ)) = .error e) : e.isNotFound = false := by
  unfold Slot.record at h
  split at h
  · cases h
  · unfold Slot.decode at h
    split at h
    · cases h
    · cases h
      rfl

namespace Command

variable {world : Nat → Surroundings}

/-! ## 2. Commands that have only looked -/

/-- **Effects that nobody has to be told about**: calls that change nothing, looks at the clock,
buckets that were made, and a notebook list that was cached. -/
def Effect.Harmless : Effect → Prop
  | .called call _ => call.isWrite = false
  | .told _ => True
  | .wrote (.createBucket _) => True
  | .wrote (.put b k _) => Slot.notebooks.bucket = b ∧ Slot.notebooks.key = k
  | .edited _ _ | .wrote _ => False

/-- Harmless writes change no other entry than the cached notebook list. -/
theorem replay_of_harmless {ops : List StoreOp} (h : ∀ op ∈ ops, Effect.Harmless (.wrote op))
    {b : String} {k : Bytes} (hplace : ¬ (Slot.notebooks.bucket = b ∧ Slot.notebooks.key = k))
    (old : Option Bytes) : Transaction.replay b k ops old = old := by
  induction ops with
  | nil => rfl
  | cons op ops ih =>
    have hop := h op List.mem_cons_self
    have hops := ih fun o ho => h o (List.mem_cons_of_mem op ho)
    cases op with
    | createBucket bucket => exact hops
    | put bucket key value =>
      obtain ⟨rfl, rfl⟩ := hop
      have hsame : (StoreOp.put Slot.notebooks.bucket Slot.notebooks.key value).onEntry b k old
          = old := if_neg hplace
      calc Transaction.replay b k (.put Slot.notebooks.bucket Slot.notebooks.key value :: ops) old
          = Transaction.replay b k ops ((StoreOp.put Slot.notebooks.bucket Slot.notebooks.key
              value).onEntry b k old) := rfl
        _ = old := by rw [hsame, hops]
    | hasBucket bucket => exact hop.elim
    | get bucket key => exact hop.elim
    | delete bucket key => exact hop.elim

theorem seeksNotes_harmless : SeeksNotes Effect.Harmless :=
  ⟨⟨fun _ => rfl, fun _ => trivial, trivial, fun _ => ⟨rfl, rfl⟩⟩, fun _ _ _ _ => rfl⟩

/-- Looking for the note to edit, or for its content, is harmless. -/
theorem Effect.Looks.harmless {effect : Effect} (h : effect.Looks) : effect.Harmless := by
  cases effect with
  | called call answer => cases call <;> simp_all [Looks, Harmless, RemoteCall.name,
      RemoteCall.isWrite]
  | edited text result => exact h.elim
  | told time => trivial
  | wrote op =>
    cases op with
    | createBucket bucket => trivial
    | _ => exact h.elim

/-- **Whether a command has done nothing but harmless things when it says that something is
missing.** -/
def HarmlessIfMissing (σ : Type) [Backend σ] (world : Nat → Surroundings) (c : Command α) : Prop :=
  ∀ (tick : Nat) (s : σ) (e : Error), (c.report world tick s).result = .error e →
    e.isNotFound = true → ∀ effect ∈ (c.report world tick s).journal, effect.Harmless

/-- The contract never to say that something is missing. -/
def tellsOtherwise (σ : Type) : Contract σ where
  holds _ := True
  fails _ e := e.isNotFound = false
  calls _ := True
  fails_append _ _ _ h := h

/-- **Whether a command never says that something is missing.**  It is a contract, so that it can be
put together from parts. -/
def NeverMissing (σ : Type) [Backend σ] (world : Nat → Surroundings) (c : Command α) : Prop :=
  (tellsOtherwise σ).Kept world c

theorem neverMissing_of_result {c : Command α} (h : ∀ (tick : Nat) (s : σ) (e : Error),
    (c.report world tick s).result = .error e → e.isNotFound = false) :
    c.NeverMissing σ world :=
  fun tick s _ => ⟨trivial, h tick s, fun _ _ _ => trivial⟩

theorem KeepsTo.harmlessIfMissing {c : Command α} (h : c.KeepsTo σ Effect.Harmless) :
    c.HarmlessIfMissing σ world :=
  fun tick s _ _ _ => h world tick s

theorem NeverMissing.harmlessIfMissing {c : Command α} (h : c.NeverMissing σ world) :
    c.HarmlessIfMissing σ world := by
  intro tick s e he hmissing
  have hnever := (h tick s trivial).error e he
  exact absurd (hnever.symm.trans hmissing) Bool.false_ne_true

/-- An update that fails keeps no writes. -/
theorem harmlessIfMissing_updated (tx : Transaction α) :
    (updated tx).HarmlessIfMissing σ world := by
  intro tick s e he _ effect heffect
  rw [report_updated] at he heffect
  have hnone : tx.kept (world tick).fault s = [] := by
    simp only at he
    simp [Transaction.kept, he, Except.isOk, Except.toBool]
  rw [hnone] at heffect
  cases heffect

/-- What comes after harmless things decides. -/
theorem KeepsTo.bind_harmlessIfMissing {c : Command α} {f : α → Command β}
    (h : c.KeepsTo σ Effect.Harmless) (hf : ∀ a, (f a).HarmlessIfMissing σ world) :
    (c >>= f).HarmlessIfMissing σ world := by
  intro tick s e he hmissing effect heffect
  rcases mem_journal_bind.1 heffect with heffect | ⟨a, ha, heffect⟩
  · exact h world tick s effect heffect
  · rw [report_bind, Report.result_andThen, ha] at he
    exact hf a _ _ e he hmissing effect heffect

/-- **Where something is missing, what comes after the looking is not reached**, as long as that
never says so itself. -/
theorem HarmlessIfMissing.bind {c : Command α} {f : α → Command β}
    (h : c.HarmlessIfMissing σ world) (hf : ∀ a, (f a).NeverMissing σ world) :
    (c >>= f).HarmlessIfMissing σ world := by
  intro tick s e he hmissing effect heffect
  rw [report_bind, Report.result_andThen] at he
  cases hc : (c.report world tick s).result with
  | error e' =>
    rw [hc] at he
    obtain rfl : e' = e := Except.error.inj he
    rcases mem_journal_bind.1 heffect with heffect | ⟨a, ha, -⟩
    · exact h tick s e' hc hmissing effect heffect
    · cases hc.symm.trans ha
  | ok a =>
    rw [hc] at he
    have hnever := (hf a _ _ trivial).error e he
    exact absurd (hnever.symm.trans hmissing) Bool.false_ne_true

/-! ## 3. Commands that never say so

These commands act on what was found.  Whatever goes wrong with them is the fault of the service,
the editor or the store. -/

theorem neverMissing_asked (hremote : FailsRemotely world) (call : RemoteCall) :
    (asked call).NeverMissing σ world := by
  refine neverMissing_of_result fun tick s e he => ?_
  obtain ⟨text, rfl⟩ := hremote tick call e he
  rfl

theorem neverMissing_edited (heditor : FailsAsEditor world) (text : String) :
    (edited text).NeverMissing σ world := by
  refine neverMissing_of_result fun tick s e he => ?_
  have hkind : e.OfEditor := heditor tick text e he
  cases hkind <;> rfl

theorem neverMissing_of_justWrites {tx : Transaction Unit} {ops : List StoreOp}
    (h : tx.JustWrites σ ops) : (updated tx).NeverMissing σ world := by
  refine neverMissing_of_result fun tick s e he => ?_
  rw [report_updated_of_justWrites h] at he
  exact WriteFault.isNotFound_of_reply he

theorem neverMissing_loadRecord {ρ : Type} [Record ρ] (slot : Slot) :
    (loadRecord slot : Command (Option ρ)).NeverMissing σ world := by
  refine neverMissing_of_result fun tick s e he => ?_
  cases hbucket : Backend.hasBucket s slot.bucket with
  | true =>
    rw [report_loadRecord hbucket] at he
    exact Slot.isNotFound_of_record he
  | false =>
    have hmade : (updated (.perform (.createBucket slot.bucket)) >>= fun _ =>
        pure (none : Option ρ)).NeverMissing σ world :=
      (neverMissing_of_justWrites (Transaction.justWrites_createBucket _)).bind
        fun _ => Contract.kept_pure _
    rw [report_loadRecord_of_not_hasBucket hbucket] at he
    have hall := (hmade (tick + 1) s trivial).error e
    rw [report_bind] at hall
    exact hall he

theorem neverMissing_settings : settings.NeverMissing σ world :=
  (neverMissing_loadRecord _).bind fun _ => Contract.kept_pure _

variable [LawfulBackend σ]

theorem neverMissing_storeRecord {ρ : Type} [Record ρ] (slot : Slot) (a : ρ) :
    (storeRecord slot a).NeverMissing σ world :=
  neverMissing_of_justWrites (Transaction.justWrites_setBytes slot _)

/-- A notebook that was found is sent, and patched in the cached list. -/
theorem neverMissing_sendPatched (hremote : FailsRemotely world) (name : String) (nb : Notebook) :
    (sendPatched name nb).NeverMissing σ world := by
  refine (neverMissing_asked hremote _).bind fun _ => ?_
  refine (neverMissing_loadRecord _).bind fun cached => ?_
  dsimp only
  split
  · split
    · exact (neverMissing_storeRecord _ _).bind fun _ => Contract.kept_pure _
    · exact Contract.kept_pure _
  · exact Contract.kept_pure _

/-- A note that was edited is sent, and the recovery point is settled. -/
theorem neverMissing_sendEdited (hremote : FailsRemotely world) (codec : Codec)
    (opts : EditOptions) (note : Note) : (sendEdited codec opts note).NeverMissing σ world := by
  refine neverMissing_of_result fun tick s e he => ?_
  have hmet {effect : Effect}
      (h : effect ∈ ((sendEdited codec opts note).report world tick s).journal) :=
    met_of_mem_journal h
  have hcourse := sendCourse_report world codec opts note tick s
  generalize (sendEdited codec opts note).report world tick s = r at he hmet hcourse
  cases hcourse with
  | kept =>
    obtain ⟨t, -, -, hanswer⟩ := hmet List.mem_cons_self
    obtain ⟨text, hsave⟩ := hremote t _ _ hanswer
    cases he
    rw [hsave]
    rfl
  | lost _ =>
    cases he
    rfl
  | saved _ => cases he
  | cleared _ => cases he
  | notCleared _ hfault =>
    cases he
    exact WriteFault.isNotFound_of_reply hfault

theorem neverMissing_finishEdit (hremote : FailsRemotely world) (codec : Codec)
    (opts : EditOptions) (loaded : Note) (text : String) :
    (finishEdit codec opts loaded text).NeverMissing σ world := by
  unfold finishEdit
  split
  · exact Contract.kept_pure _
  · exact neverMissing_sendEdited hremote codec opts _

end Command

/-! ## 4. Operations -/

variable [LawfulBackend σ] {world : Nat → Surroundings}

/-- **An operation has only looked around when it says that something is missing.** -/
theorem Client.harmlessIfMissing_perform (hremote : FailsRemotely world)
    (heditor : FailsAsEditor world) (client : Client) (op : Operation) :
    (client.perform op).HarmlessIfMissing σ world := by
  have hnote (title : String) (within : Option String) :
      (Command.note client.config title within).KeepsTo σ Effect.Harmless :=
    keepsTo_noteWithin seeksNotes_harmless _ title within
  have hfind (name : String) : (findNotebook client.config name).KeepsTo σ Effect.Harmless :=
    keepsTo_findNotebook seeksNotes_harmless.toSeeksNotebooks _ name
  have hask (call : RemoteCall) : (asked call).NeverMissing σ world :=
    neverMissing_asked hremote call
  have hsend (call : RemoteCall) (note : Note) :
      (asked call >>= fun _ => pure note).NeverMissing σ world :=
    (hask call).bind fun _ => Contract.kept_pure note
  cases op with
  | notebooks forceSync =>
    exact (keepsTo_notebooks seeksNotes_harmless.toSeeksNotebooks _ _).harmlessIfMissing
  | findNotebook name => exact (hfind name).harmlessIfMissing
  | notebook guid => exact (hask _).harmlessIfMissing
  | createNotebook notebook makeDefault => exact (hask _).harmlessIfMissing
  | updateNotebook name patch =>
    exact (hfind name).harmlessIfMissing.bind fun nb => neverMissing_sendPatched hremote name _
  | findNotes filter offset count =>
    have hkeep (notes : List Note) : (storeSearch notes).NeverMissing σ world :=
      neverMissing_storeRecord _ _
    have hsearch : (findNotes filter offset count).NeverMissing σ world :=
      (hask _).bind fun notes => (hkeep notes).bind fun _ => Contract.kept_pure notes
    exact hsearch.harmlessIfMissing
  | note title within => exact (hnote title within).harmlessIfMissing
  | noteWithContent title =>
    have hlooks := keepsTo_noteWithContent (σ := σ) client.codec client.config title
    exact (hlooks.mono fun _ h => h.harmless).harmlessIfMissing
  | editNote title opts =>
    have hlooks := keepsTo_noteToEdit (σ := σ) client.codec client.config title opts
    change (editNote client.codec client.config title opts).HarmlessIfMissing σ world
    rw [editNote_eq]
    refine (hlooks.mono fun _ h => h.harmless).harmlessIfMissing.bind fun loaded => ?_
    refine (neverMissing_edited heditor _).bind fun text => ?_
    exact neverMissing_finishEdit hremote _ opts loaded text
  | createNoteInEditor title raw =>
    have hcreate (note : Note) : (Command.saveNewNote client.codec note raw).NeverMissing σ world :=
      hsend _ _
    have hmade : (Command.createNoteInEditor client.codec title raw).NeverMissing σ world :=
      (neverMissing_edited heditor _).bind fun text => hcreate _
    exact hmade.harmlessIfMissing
  | saveNewNote note raw => exact (hsend _ _).harmlessIfMissing
  | changeTitle old new => exact (hnote old none).harmlessIfMissing.bind fun note => hsend _ _
  | moveNote title notebook =>
    refine (hnote title none).bind_harmlessIfMissing fun note => ?_
    exact (hfind notebook).harmlessIfMissing.bind fun nb => hsend _ _
  | deleteNote title within =>
    exact (hnote title within).harmlessIfMissing.bind fun note => hsend _ _
  | recoveryPoint => exact (neverMissing_loadRecord _).harmlessIfMissing
  | credentials => exact KeepsTo.harmlessIfMissing (keepsTo_viewed _)
  | addCredential name secret => exact harmlessIfMissing_updated _
  | removeCredentialNamed name => exact harmlessIfMissing_updated _
  | removeCredentials places =>
    change (removeCredentials places).HarmlessIfMissing σ world
    unfold removeCredentials
    split
    · refine HarmlessIfMissing.bind ?_ fun _ => Contract.kept_pure _
      exact KeepsTo.bind_harmlessIfMissing (keepsTo_done _) fun _ => harmlessIfMissing_updated _
    · exact KeepsTo.bind_harmlessIfMissing (keepsTo_done _) fun _ => harmlessIfMissing_updated _
  | setActiveCredential place =>
    refine KeepsTo.bind_harmlessIfMissing (keepsTo_done _) fun index => ?_
    have hfound : (credentialAt index).KeepsTo σ Effect.Harmless := by
      refine .bind (keepsTo_viewed _) fun cs => ?_
      split
      · exact keepsTo_done _
      · exact keepsTo_done _
    refine hfound.harmlessIfMissing.bind fun credential => ?_
    have hstore (settings : Settings) :
        (Command.storeSettings settings).NeverMissing σ world := neverMissing_storeRecord _ _
    exact neverMissing_settings.bind fun settings => (hstore _).bind fun _ => Contract.kept_pure _
  | settings => exact neverMissing_settings.harmlessIfMissing
  | storeSettings settings => exact harmlessIfMissing_updated _

/-- **What is left of an operation that leaves no trace**, but perhaps in the cached notebook
list. -/
structure LeavesNoTrace (config : Config) (s : σ) (r : Report σ α) : Prop where
  /-- Nothing was to be changed at the remote service. -/
  calls (call : RemoteCall) (answer : Except Error call.Answer)
    (h : .called call answer ∈ r.events) : call.isWrite = false
  /-- The editor was not started. -/
  unshown : shownIn r.events = []
  /-- All records but one are as they were, and so is the version of the schema. -/
  held (slot : Slot) (h : slot ≠ .notebooks) : slot.held r.store = slot.held s
  /-- So are the bytes under all other keys. -/
  entry (b : String) (k : Bytes)
      (h : ¬ (Slot.notebooks.bucket = b ∧ Slot.notebooks.key = k)) :
    Backend.get r.store b k = Backend.get s b k
  /-- The cached notebook list is as it was, unless a list was fetched. -/
  notebooks : ∃ fetched : Option NotebookCache, Slot.notebooks.held r.store
      = (fetched.map Record.encode).or (Slot.notebooks.held s)
    ∧ ∀ cache ∈ fetched, Fetched config r.journal cache

/-- A change of a notebook that says that something is missing has not found the notebook. -/
theorem refreshes_of_missing (hremote : FailsRemotely world) (client : Client) (op : Operation)
    (tick : Nat) (s : σ) {e : Error}
    (he : ((client.perform op).report world tick s).result = .error e)
    (hmissing : e.isNotFound = true) :
    ∃ fetched : Option NotebookCache,
      Slot.notebooks.held ((client.perform op).report world tick s).store
        = (fetched.map Record.encode).or (Slot.notebooks.held s)
      ∧ ∀ cache ∈ fetched,
        Fetched client.config ((client.perform op).report world tick s).journal cache := by
  by_cases hop : ∀ name patch, op ≠ .updateNotebook name patch
  · exact client.refreshes_perform hop world tick s
  · obtain ⟨name, patch, rfl⟩ : ∃ name patch, op = .updateNotebook name patch := by
      by_contra hnone
      exact hop fun name patch hsame => hnone ⟨name, patch, hsame⟩
    have hfinding := refreshes_findNotebook (σ := σ) client.config name world tick s
    change ((updateNotebook client.config name patch).report world tick s).result = .error e at he
    change ∃ fetched : Option NotebookCache,
      Slot.notebooks.held ((updateNotebook client.config name patch).report world tick s).store = _
        ∧ ∀ cache ∈ fetched, Fetched client.config
          ((updateNotebook client.config name patch).report world tick s).journal cache
    rw [updateNotebook_eq, report_bind] at he ⊢
    cases hr : (findNotebook client.config name).report world tick s with
    | mk result s' journal tick' =>
      rw [hr] at he hfinding
      cases result with
      | error e' => exact hfinding
      | ok nb =>
        have hpatch := neverMissing_sendPatched (σ := σ) hremote name (nb.patch patch)
        have hnever := (hpatch tick' s' trivial).error e he
        exact absurd (hnever.symm.trans hmissing) Bool.false_ne_true

/-- **Saying that something is missing is harmless**, for every operation, on every store and
whatever goes wrong, as long as the remote service and the editor fail in their own ways.  All that
may be left of such an operation is a notebook list that was fetched and cached, as it was told. -/
theorem missing_leaves_no_trace (hremote : FailsRemotely world) (heditor : FailsAsEditor world)
    (client : Client) (op : Operation) (tick : Nat) (s : σ) {e : Error}
    (he : ((client.perform op).report world tick s).result = .error e)
    (hmissing : e.isNotFound = true) :
    LeavesNoTrace client.config s ((client.perform op).report world tick s) := by
  have hharmless := client.harmlessIfMissing_perform hremote heditor op tick s e he hmissing
  have hrefreshed := refreshes_of_missing hremote client op tick s he hmissing
  have hentry (b : String) (k : Bytes)
      (h : ¬ (Slot.notebooks.bucket = b ∧ Slot.notebooks.key = k)) :
      Backend.get ((client.perform op).report world tick s).store b k = Backend.get s b k := by
    rw [get_report]
    refine replay_of_harmless (fun op hop => ?_) h _
    obtain ⟨effect, heffect, hwrote⟩ := List.mem_filterMap.1 hop
    cases effect <;> cases hwrote
    exact hharmless _ heffect
  refine ⟨fun call answer h => ?_, ?_, fun slot hslot => hentry _ _ fun hplace => ?_, hentry,
    hrefreshed⟩
  · exact hharmless _ (Report.called_mem_journal h)
  · refine List.filterMap_eq_nil_iff.2 fun event h => ?_
    cases event with
    | called call answer => rfl
    | edited text result => exact (hharmless _ (Report.edited_mem_journal h)).elim
  · exact hslot (Slot.eq_of_place hplace.1 hplace.2).symm

namespace Sample

/-- Surroundings in which nothing can be had but the notebook list. -/
def reception : Surroundings where
  remote
    | .allNotebooks => .ok [{ name := "Inbox", guid := "b-1" }]
    | _ => .error refusal
  editor _ := .error .noEditorFound
  fault := .none
  now := .epoch

theorem failsRemotely_reception : FailsRemotely fun _ => reception := by
  intro tick call e he
  cases call <;> cases he <;> exact ⟨_, rfl⟩

theorem failsAsEditor_reception : FailsAsEditor fun _ => reception := by
  intro tick text e he
  cases he
  exact .noEditorFound

end Sample

/-- A note is to be deleted from a notebook that is not there.  The list is fetched and cached,
since there was none, and that is all that is left of it. -/
theorem missing_notebook_leaves_no_trace :
    let client : Client := ⟨{}, {}, .identity⟩
    let r := (client.perform (.deleteNote "Foo" (some "Cellar"))).report
      (fun _ => Sample.reception) 0 Sample.garbled
    r.result = .error .noNotebookFound ∧ LeavesNoTrace client.config Sample.garbled r
      ∧ (Slot.notebooks.held Sample.garbled).isNone
      ∧ (Slot.notebooks.held r.store).isSome := by
  have hmissing : (((Client.mk {} {} .identity).perform
      (.deleteNote "Foo" (some "Cellar"))).report (fun _ => Sample.reception) 0
      Sample.garbled).result = .error .noNotebookFound := by
    decide +kernel
  exact ⟨hmissing, missing_leaves_no_trace Sample.failsRemotely_reception
    Sample.failsAsEditor_reception _ _ _ _ hmissing rfl, by decide +kernel, by decide +kernel⟩

end Notekeeper
