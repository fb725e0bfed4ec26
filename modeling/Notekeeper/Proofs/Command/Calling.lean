import Notekeeper.Proofs.Command.Conduct
import Notekeeper.Proofs.Notebook.Refreshing

/-!
# What operations ask of the remote service

Which calls may an operation make?  The answer has to cover its parts, and looking for a notebook
or a note is part of many: of a listing, of a rename, of a move, of an edit.  It makes the same few
effects wherever it occurs, so the effects are collected once, in `SeeksNotebooks` and
`SeeksNotes`, as what a kind of effects must admit to cover the look.  Each later result about what
operations do at most gives a kind, shows that it admits these, and then deals with what the
operation does beside the look.

What an operation does when the look is over is one call at most.  A changed notebook is sent once
and the cached list is written; a new note is sent once; an edited note is sent once, and then the
recovery point is written or emptied.

Put together they bound each operation by a short list of names (`Operation.calls`).  The bound
holds of every run, also of those that end in an error.  It says nothing about how often a call is
made; where that matters, the courses of the command tell it (`Command/Listing`, `Command/Edit`).

* `Command.SeeksNotebooks`, `Command.SeeksNotes` : the effects of looking.
* `Command.keepsTo_noteWithin` : looking for a note keeps to them.
* `Command.keepsTo_finishEdit` : what an edit does with a text that came back.
* `Operation.calls` : the calls that an operation may make.
* `Client.calls_perform` : it makes no others.
-/

namespace Notekeeper

namespace Command

variable {σ : Type} [Backend σ] {α β : Type} {P Q : Effect → Prop}

/-! ## 1. Steps that keep to a kind of effects -/

namespace Report

variable {r : Report σ α}

omit [Backend σ]

/-- A call that others see was made. -/
theorem called_mem_journal {call : RemoteCall} {answer : Except Error call.Answer}
    (h : .called call answer ∈ r.events) : .called call answer ∈ r.journal := by
  obtain ⟨effect, heffect, hevent⟩ := List.mem_filterMap.1 h
  cases effect <;> cases hevent
  exact heffect

/-- So was a text that others see shown. -/
theorem edited_mem_journal {text : String} {result : Except Error String}
    (h : .edited text result ∈ r.events) : .edited text result ∈ r.journal := by
  obtain ⟨effect, heffect, hevent⟩ := List.mem_filterMap.1 h
  cases effect <;> cases hevent
  exact heffect

end Report

theorem KeepsTo.mono {c : Command α} (h : c.KeepsTo σ P) (hkind : ∀ effect, P effect → Q effect) :
    c.KeepsTo σ Q :=
  fun world tick s effect he => hkind effect (h world tick s effect he)

theorem keepsTo_edited {text : String} (h : ∀ result, P (.edited text result)) :
    (edited text).KeepsTo σ P := by
  intro world tick s effect he
  rw [report_edited] at he
  rw [List.mem_singleton.1 he]
  exact h _

theorem KeepsTo.attempt {c : Command α} (h : c.KeepsTo σ P) : c.attempt.KeepsTo σ P := by
  intro world tick s effect he
  rw [report_attempt] at he
  exact h world tick s effect he

/-- An update that just writes does no other writes. -/
theorem keepsTo_of_justWrites {tx : Transaction Unit} {ops : List StoreOp}
    (hwrites : tx.JustWrites σ ops) (h : ∀ op ∈ ops, P (.wrote op)) : (updated tx).KeepsTo σ P := by
  refine keepsTo_updated fun fault s op hop => ?_
  rw [(hwrites fault s).2] at hop
  split at hop
  · exact h op hop
  · cases hop

theorem keepsTo_storeRecord [LawfulBackend σ] {ρ : Type} [Record ρ] {slot : Slot} {a : ρ}
    (h : ∀ op ∈ slot.putting (Record.encode a), P (.wrote op)) :
    (storeRecord slot a).KeepsTo σ P :=
  keepsTo_of_justWrites (Transaction.justWrites_setBytes slot _) h

/-! ## 2. Looking for notebooks and notes -/

/-- **Whether a kind of effects covers looking for notebooks**: the list may be asked for, and then
it is cached. -/
structure SeeksNotebooks (P : Effect → Prop) : Prop where
  asked (answer : Except Error (List Notebook)) : P (.called .allNotebooks answer)
  told (time : Timestamp) : P (.told time)
  bucket : P (.wrote (.createBucket Slot.notebooks.bucket))
  cached (bs : Bytes) : P (.wrote (.put Slot.notebooks.bucket Slot.notebooks.key bs))

/-- **Whether a kind of effects covers looking for notes**, in a notebook or among all of them.  A
search adds one call to what looking for a notebook does, and writes nothing of its own. -/
structure SeeksNotes (P : Effect → Prop) : Prop extends SeeksNotebooks P where
  found (filter : NoteFilter) (offset count : Nat) (answer : Except Error (List Note)) :
    P (.called (.findNotes filter offset count) answer)

/-- Looking for notebooks shows nothing of a kind that the call for the list does not show. -/
theorem SeeksNotebooks.of_hidden {γ : Type} {shown : Event → Option γ}
    (h : ∀ answer, shown (.called .allNotebooks answer) = none) :
    SeeksNotebooks (Effect.Hidden shown) :=
  ⟨h, fun _ => rfl, rfl, fun _ => rfl⟩

section Looking

variable [LawfulBackend σ]

theorem keepsTo_notebooks (h : SeeksNotebooks P) (config : Config) (forceSync : Bool) :
    (notebooks config forceSync).KeepsTo σ P := by
  have husable (cached : NotebookCache) : (isUsable forceSync cached).KeepsTo σ P := by
    unfold isUsable
    split
    · exact keepsTo_done _
    · exact (keepsTo_now h.told).bind fun time => keepsTo_done _
  have hask : (asked .allNotebooks).KeepsTo σ P := keepsTo_asked h.asked
  have hfetch : (fetchNotebooks config).KeepsTo σ P := by
    refine hask.bind fun answer => (keepsTo_now h.told).bind fun time => ?_
    refine KeepsTo.bind (keepsTo_storeRecord fun op hop => ?_) fun _ => keepsTo_done _
    simp only [Slot.putting, List.mem_cons, List.not_mem_nil, or_false] at hop
    rcases hop with rfl | rfl
    · exact h.bucket
    · exact h.cached _
  rw [notebooks_eq]
  refine .bind (keepsTo_loadRecord h.bucket) fun cached => (husable _).bind fun usable => ?_
  split
  · exact keepsTo_done _
  · exact hfetch

theorem keepsTo_findNotebook (h : SeeksNotebooks P) (config : Config) (name : String) :
    (findNotebook config name).KeepsTo σ P := by
  refine (keepsTo_notebooks h config false).bind fun nbs => ?_
  split
  · exact keepsTo_done _
  · exact keepsTo_done _

theorem keepsTo_narrowing (h : SeeksNotebooks P) (config : Config) (within : Option String) :
    (narrowing config within).KeepsTo σ P := by
  unfold narrowing
  split
  · exact (keepsTo_findNotebook h config _).bind fun nb => keepsTo_done _
  · exact keepsTo_done _

/-- **Looking for a note**, by its ordinal or its title, and in any notebook. -/
theorem keepsTo_noteWithin (h : SeeksNotes P) (config : Config) (title : String)
    (within : Option String) : (note config title within).KeepsTo σ P := by
  -- The saved search and the cached list are in one bucket.
  refine (keepsTo_noteByOrdinal h.bucket title).bind fun found => ?_
  cases found with
  | some note => exact keepsTo_done _
  | none =>
    rw [noteByTitle_eq]
    refine (keepsTo_narrowing h.toSeeksNotebooks config within).bind fun guid => ?_
    exact keepsTo_titledNote h.found config title guid

end Looking

/-! ## 3. Sending notebooks and notes -/

/-- **What a change of a notebook does once the notebook is found**: it sends the notebook, and then
it writes the cached list at most. -/
theorem keepsTo_sendPatched {name : String} {nb : Notebook}
    (hsent : ∀ answer, P (.called (.updateNotebook nb) answer)) (hwrote : ∀ op, P (.wrote op)) :
    (sendPatched name nb).KeepsTo σ P := by
  refine (keepsTo_asked hsent).bind fun _ => .bind (keepsTo_loadRecord (hwrote _)) fun cached => ?_
  dsimp only
  split
  · split
    · exact .bind (keepsTo_updated fun _ _ op _ => hwrote op) fun _ => keepsTo_done _
    · exact keepsTo_done _
  · exact keepsTo_done _

theorem keepsTo_saveNewNote {codec : Codec} {note : Note} {raw : Bool}
    (h : ∀ answer, P (.called (.createNote (outgoing (rendered codec note raw))) answer)) :
    (saveNewNote codec note raw).KeepsTo σ P :=
  (keepsTo_asked h).bind fun _ => keepsTo_done _

/-- **What an edit does with a text that came back**: it may send the note, and then it writes the
recovery point at most. -/
theorem keepsTo_finishEdit {codec : Codec} {opts : EditOptions} {loaded : Note} {text : String}
    (hsent : ∀ answer, P (.called (.updateNote
      (outgoing (editedNote codec loaded opts.raw text))) answer))
    (hwrote : ∀ op, P (.wrote op)) : (finishEdit codec opts loaded text).KeepsTo σ P := by
  have hsave : (saveChanges codec ((loaded.markLoaded opts.raw).applyBuffer (.parse text) opts.raw)
      opts.raw).KeepsTo σ P := by
    refine (keepsTo_asked hsent).attempt.bind fun answer => ?_
    split
    · exact keepsTo_done _
    · have hkept : (storeRecoveryPoint (editedNote codec loaded opts.raw text)).KeepsTo σ P :=
        keepsTo_updated fun _ _ op _ => hwrote op
      refine hkept.attempt.bind fun kept => ?_
      split
      · exact keepsTo_done _
      · exact keepsTo_done _
  unfold finishEdit
  split
  · exact keepsTo_done _
  · refine hsave.bind fun saved => .bind ?_ fun _ => keepsTo_done _
    unfold settleRecovery
    split
    · exact keepsTo_updated fun _ _ op _ => hwrote op
    · exact keepsTo_done _

/-! ## 4. Calls -/

/-- Whether an effect is no call, or one with a name from a list. -/
@[simp]
def Effect.Calls (names : List String) : Effect → Prop
  | .called call _ => call.name ∈ names
  | .edited _ _ | .told _ | .wrote _ => True

/-- The calls that others see of such a command are from the list. -/
theorem KeepsTo.name_of_called {names : List String} {c : Command α}
    (h : c.KeepsTo σ (Effect.Calls names)) {world : Nat → Surroundings} {tick : Nat} {s : σ}
    {call : RemoteCall} {answer : Except Error call.Answer}
    (hcalled : .called call answer ∈ (c.report world tick s).events) : call.name ∈ names :=
  h world tick s _ (Report.called_mem_journal hcalled)

/-- What only looks makes no other calls than looks. -/
theorem KeepsTo.calls_of_looks {names : List String} {c : Command α}
    (h : c.KeepsTo σ Effect.Looks) (hnames : ["find_notes", "get_note_content"] ⊆ names) :
    c.KeepsTo σ (Effect.Calls names) := by
  refine h.mono fun effect hlooks => ?_
  cases effect with
  | called call answer => exact hnames hlooks
  | _ => trivial

section Events

variable {world : Nat → Surroundings} {tick : Nat} {s : σ} {call : RemoteCall}
  {answer : Except Error call.Answer}

/-- What others see of two commands is what they see of the first one, or of the second one after
it. -/
theorem mem_events_bind {c : Command α} {f : α → Command β} {event : Event}
    (h : event ∈ ((c >>= f).report world tick s).events) :
    event ∈ (c.report world tick s).events
      ∨ ∃ a, (c.report world tick s).result = .ok a
        ∧ event ∈ ((f a).report world (c.report world tick s).tick
          (c.report world tick s).store).events := by
  obtain ⟨effect, heffect, hevent⟩ := List.mem_filterMap.1 h
  rcases mem_journal_bind.1 heffect with heffect | ⟨a, hresult, heffect⟩
  · exact .inl (List.mem_filterMap.2 ⟨effect, heffect, hevent⟩)
  · exact .inr ⟨a, hresult, List.mem_filterMap.2 ⟨effect, heffect, hevent⟩⟩

theorem eq_of_mem_events_asked {sent : RemoteCall}
    (h : .called call answer ∈ ((asked sent).report world tick s).events) : call = sent := by
  rw [report_asked] at h
  cases List.mem_singleton.1 h
  rfl

/-- A call that is made for its effect is the only one. -/
theorem eq_of_mem_events_send {sent : RemoteCall} {a : α}
    (h : .called call answer ∈ ((asked sent >>= fun _ => pure a).report world tick s).events) :
    call = sent := by
  rcases mem_events_bind h with h | ⟨_, -, h⟩
  · exact eq_of_mem_events_asked h
  · cases h

end Events

end Command

/-! ## 5. Operations -/

open Command

/-- **The calls that an operation may make**, by their names. -/
@[simp]
def Operation.calls : Operation → List String
  | .notebooks _ | .findNotebook _ => ["get_all_notebooks"]
  | .notebook _ => ["get_notebook"]
  | .createNotebook _ _ => ["create_notebook"]
  | .updateNotebook _ _ => ["get_all_notebooks", "update_notebook"]
  | .findNotes _ _ _ => ["find_notes"]
  | .note _ _ => ["get_all_notebooks", "find_notes"]
  | .noteWithContent _ => ["find_notes", "get_note_content"]
  | .editNote _ _ => ["find_notes", "get_note_content", "update_note"]
  | .createNoteInEditor _ _ | .saveNewNote _ _ => ["create_note"]
  | .changeTitle _ _ | .moveNote _ _ => ["get_all_notebooks", "find_notes", "update_note"]
  | .deleteNote _ _ => ["get_all_notebooks", "find_notes", "delete_note"]
  | .recoveryPoint | .credentials | .addCredential _ _ | .removeCredentialNamed _
  | .removeCredentials _ | .setActiveCredential _ | .settings | .storeSettings _ => []

variable {σ : Type} [Backend σ] [LawfulBackend σ]

/-- **An operation makes no other calls than its own**, on every store and whatever goes wrong.  How
often it makes one is not said here. -/
theorem Client.calls_perform (client : Client) (op : Operation) :
    (client.perform op).KeepsTo σ (Effect.Calls op.calls) := by
  have hwrites {α : Type} (tx : Transaction α) {names : List String} :
      (updated tx).KeepsTo σ (Effect.Calls names) := keepsTo_updated fun _ _ _ _ => trivial
  have hask {call : RemoteCall} (h : call.name ∈ op.calls) :
      (asked call).KeepsTo σ (Effect.Calls op.calls) := keepsTo_asked fun _ => h
  have hseek (h : "get_all_notebooks" ∈ op.calls) : SeeksNotebooks (Effect.Calls op.calls) :=
    ⟨fun _ => h, fun _ => trivial, trivial, fun _ => trivial⟩
  have hfind (h : "get_all_notebooks" ∈ op.calls) (h' : "find_notes" ∈ op.calls) :
      SeeksNotes (Effect.Calls op.calls) := ⟨hseek h, fun _ _ _ _ => h'⟩
  cases op with
  | notebooks forceSync => exact keepsTo_notebooks (hseek (by simp)) _ _
  | findNotebook name => exact keepsTo_findNotebook (hseek (by simp)) _ _
  | notebook guid => exact hask (by simp [RemoteCall.name])
  | createNotebook notebook makeDefault => exact hask (by simp [RemoteCall.name])
  | updateNotebook name patch =>
    refine (keepsTo_findNotebook (hseek (by simp)) _ _).bind fun nb => ?_
    exact keepsTo_sendPatched (fun _ => by simp [RemoteCall.name]) fun _ => trivial
  | findNotes filter offset count =>
    exact (hask (by simp [RemoteCall.name])).bind fun notes =>
      (hwrites _).bind fun _ => keepsTo_done _
  | note title within => exact keepsTo_noteWithin (hfind (by simp) (by simp)) _ _ _
  | noteWithContent title => exact (keepsTo_noteWithContent _ _ _).calls_of_looks (by simp)
  | editNote title opts =>
    change (editNote client.codec client.config title opts).KeepsTo σ _
    rw [editNote_eq]
    refine .bind ((keepsTo_noteToEdit _ _ title opts).calls_of_looks (by simp)) fun loaded => ?_
    refine (keepsTo_edited fun _ => trivial).bind fun text => ?_
    exact keepsTo_finishEdit (fun _ => by simp [RemoteCall.name]) fun _ => trivial
  | createNoteInEditor title raw =>
    refine (keepsTo_edited fun _ => trivial).bind fun text => keepsTo_saveNewNote fun _ => ?_
    simp [RemoteCall.name]
  | saveNewNote note raw =>
    exact keepsTo_saveNewNote fun _ => by simp [RemoteCall.name]
  | changeTitle old new =>
    refine (keepsTo_noteWithin (hfind (by simp) (by simp)) _ _ _).bind fun note => ?_
    exact (hask (by simp [RemoteCall.name])).bind fun _ => keepsTo_done _
  | moveNote title notebook =>
    refine (keepsTo_noteWithin (hfind (by simp) (by simp)) _ _ _).bind fun note => ?_
    refine (keepsTo_findNotebook (hseek (by simp)) _ _).bind fun nb => ?_
    exact (hask (by simp [RemoteCall.name])).bind fun _ => keepsTo_done _
  | deleteNote title within =>
    refine (keepsTo_noteWithin (hfind (by simp) (by simp)) _ _ _).bind fun note => ?_
    exact (hask (by simp [RemoteCall.name])).bind fun _ => keepsTo_done _
  | recoveryPoint => exact keepsTo_loadRecord trivial
  | credentials => exact keepsTo_viewed _
  | addCredential name secret => exact hwrites _
  | removeCredentialNamed name => exact hwrites _
  | removeCredentials places =>
    change (removeCredentials places).KeepsTo σ _
    unfold removeCredentials
    split
    · exact .bind (.bind (keepsTo_done _) fun _ => hwrites _) fun _ => keepsTo_done _
    · exact .bind (keepsTo_done _) fun _ => hwrites _
  | setActiveCredential place =>
    refine .bind (keepsTo_done _) fun index => .bind ?_ fun credential => ?_
    · refine .bind (keepsTo_viewed _) fun cs => ?_
      split
      · exact keepsTo_done _
      · exact keepsTo_done _
    · refine .bind (.bind (keepsTo_loadRecord trivial) fun _ => keepsTo_done _) fun _ => ?_
      exact (hwrites _).bind fun _ => keepsTo_done _
  | settings => exact .bind (keepsTo_loadRecord trivial) fun _ => keepsTo_done _
  | storeSettings settings => exact hwrites _

end Notekeeper
