import Notekeeper.Client
import Notekeeper.Proofs.Command.Edit
import Notekeeper.Proofs.Command.Listing

/-!
# Footprints of operations

Each operation may change few slots of the store and leaves all others alone, whatever the store
holds and whatever goes wrong.  The footprint is what makes facts about a long history tractable:
to know what a slot holds, only the operations with that slot in their footprint count.

The argument goes from the bottom up.  A single step that is no update spares every slot; reading
a record makes a bucket at most, which touches no entry; storing a record touches its own slot.
From there `Spares.bind` carries the fact over to each command in the order in which the program
defines them, and a command needs a hypothesis `slot ≠ …` just for the records that it writes.
The last step is one case for each operation, where the hypotheses are what it means that the slot
is not listed in `Operation.slots`.

Two points need more than that.  A search for a note inside a notebook has to find the notebook
first, and may cache the list on the way; a search among all notes never does.  The footprint of
the operations on notes is therefore empty or the notebook list, as the notebook is given or not.
And the saved search is in no footprint but that of a search: a rename or a move through an ordinal
leaves the saved list as it was.

The look for a note is taken apart here as well, into the notebook that narrows it and the one
search that follows, since all later accounts of it begin with these parts.

* `Operation.slots` : the slots that an operation may change.
* `Client.spares_perform` : it changes no others.
* `Operation.eq_editNote_of_recovery_mem` : only an edit may change the recovery point.
* `Command.noteByTitle_eq` : the parts of a look for a title.
-/

namespace Notekeeper

namespace Command

variable {σ : Type} [Backend σ] {α β : Type} {slot : Slot}

/-! ## 1. Reading -/

theorem Spares.map {c : Command α} (h : c.Spares σ slot) (f : α → β) :
    (f <$> c).Spares σ slot :=
  Spares.bind h fun a => spares_done slot (.ok (f a))

theorem Spares.attempt {c : Command α} (h : c.Spares σ slot) : c.attempt.Spares σ slot := by
  intro world tick s op hop
  rw [report_attempt] at hop
  exact h world tick s op hop

theorem spares_settings : settings.Spares σ slot :=
  .bind (spares_loadRecord slot _) fun _ => spares_done slot _

theorem spares_lastSearch : lastSearch.Spares σ slot :=
  .bind (spares_loadRecord slot _) fun _ => spares_done slot _

/-! ## 2. Notebooks -/

theorem spares_isUsable (forceSync : Bool) (cached : NotebookCache) :
    (isUsable forceSync cached).Spares σ slot := by
  unfold isUsable
  split
  · exact spares_done slot _
  · exact .bind (spares_now slot) fun time => spares_done slot _

theorem spares_notebooks (h : slot ≠ .notebooks) (config : Config) (forceSync : Bool) :
    (notebooks config forceSync).Spares σ slot := by
  rw [notebooks_eq]
  refine .bind (spares_loadRecord slot _) fun cached => ?_
  refine .bind (spares_isUsable forceSync _) fun usable => ?_
  split
  · exact spares_done slot _
  · refine .bind (spares_asked slot _) fun notebooks => .bind (spares_now slot) fun time => ?_
    exact .bind (spares_storeRecord h.symm _) fun _ => spares_done slot _

theorem spares_findNotebook (h : slot ≠ .notebooks) (config : Config) (name : String) :
    (findNotebook config name).Spares σ slot := by
  refine .bind (spares_notebooks h config false) fun found => ?_
  split
  · exact spares_done slot _
  · exact spares_done slot _

theorem spares_updateNotebook (h : slot ≠ .notebooks) (config : Config) (name : String)
    (patch : NotebookPatch) : (updateNotebook config name patch).Spares σ slot := by
  refine .bind (spares_findNotebook h config name) fun nb => ?_
  refine .bind (spares_asked slot _) fun _ => .bind (spares_loadRecord slot _) fun cached => ?_
  dsimp only
  split
  · split
    · exact .bind (spares_storeRecord h.symm _) fun _ => spares_done slot _
    · exact spares_done slot _
  · exact spares_done slot _

/-! ## 3. Notes

Looking for a note spares every slot but that of the notebook list, and that one too if no notebook
is given.  The hypotheses say so as `slot ≠ .notebooks ∨ notebook = none`. -/

theorem spares_noteByOrdinal (title : String) : (noteByOrdinal title).Spares σ slot := by
  unfold noteByOrdinal
  split
  · exact .bind spares_lastSearch fun _ => spares_done slot _
  · exact spares_done slot _

/-- The identifier of the notebook that narrows a search, empty if there is none. -/
def narrowing (config : Config) (notebook : Option String) : Command String :=
  match notebook.filter (· ≠ "") with
  | some name => return (← findNotebook config name).guid
  | none => pure ""

/-- The first note that is found under exactly this title in a notebook. -/
def titledNote (config : Config) (title guid : String) : Command Note := do
  let found ← asked (.findNotes { notebookGuid := guid, words := title } 0
    config.searchPageSize.toNat)
  match found.find? (·.title = title) with
  | some note => pure note
  | none => fail .noNoteFound

/-- The first note of a list that has exactly this title, if there is one. -/
def pickTitled (title : String) (notes : List Note) : Except Error Note :=
  match notes.find? (·.title = title) with
  | some note => .ok note
  | none => .error .noNoteFound

theorem find?_of_pickTitled {title : String} {notes : List Note} {note : Note}
    (h : pickTitled title notes = .ok note) : notes.find? (·.title = title) = some note := by
  unfold pickTitled at h
  split at h
  · next found hfound =>
    rw [hfound, Except.ok.inj h]
  · cases h

/-- **Looking for a title is one search**, and a choice among what it finds.  Only the first page is
asked for, and the store is not touched. -/
theorem report_titledNote (config : Config) (title guid : String) (world : Nat → Surroundings)
    (tick : Nat) (s : σ) :
    let search : RemoteCall := .findNotes { notebookGuid := guid, words := title } 0
      config.searchPageSize.toNat
    (titledNote config title guid).report world tick s
      = ⟨((world tick).remote search).bind (pickTitled title), s,
          [.called search ((world tick).remote search)], tick + 1⟩ := by
  intro search
  unfold titledNote
  rw [report_bind, report_asked]
  change Report.andThen ⟨(world tick).remote search, s, _, _⟩ _ = _
  cases (world tick).remote search with
  | error e => rfl
  | ok notes =>
    simp only [Report.andThen, Except.bind, pickTitled]
    cases notes.find? (·.title = title) with
    | none => rfl
    | some note => rfl

theorem noteByTitle_eq (config : Config) (title : String) (notebook : Option String) :
    noteByTitle config title notebook
      = narrowing config notebook >>= titledNote config title := by
  unfold noteByTitle narrowing
  cases notebook.filter (· ≠ "") with
  | none => rfl
  | some name => exact (bind_assoc _ _ _).symm

theorem spares_titledNote (config : Config) (title guid : String) :
    (titledNote config title guid).Spares σ slot := by
  refine .bind (spares_asked slot _) fun found => ?_
  split
  · exact spares_done slot _
  · exact spares_done slot _

theorem spares_narrowing (config : Config) {notebook : Option String}
    (h : slot ≠ .notebooks ∨ notebook = none) : (narrowing config notebook).Spares σ slot := by
  rcases h with h | rfl
  · unfold narrowing
    split
    · exact .bind (spares_findNotebook h config _) fun nb => spares_done slot _
    · exact spares_done slot _
  · exact spares_done slot _

theorem spares_noteByTitle (config : Config) (title : String) {notebook : Option String}
    (h : slot ≠ .notebooks ∨ notebook = none) :
    (noteByTitle config title notebook).Spares σ slot := by
  rw [noteByTitle_eq]
  exact .bind (spares_narrowing config h) fun guid => spares_titledNote config title guid

/-- A note is looked for without a trace, but for the notebook list that may be needed. -/
theorem spares_note (config : Config) (title : String) {notebook : Option String}
    (h : slot ≠ .notebooks ∨ notebook = none) : (note config title notebook).Spares σ slot := by
  refine .bind (spares_noteByOrdinal title) fun found => ?_
  split
  · exact spares_done slot _
  · exact spares_noteByTitle config title h

theorem spares_noteWithContent (codec : Codec) (config : Config) (title : String) :
    (noteWithContent codec config title).Spares σ slot := by
  refine .bind (spares_note config title (.inr rfl)) fun note => ?_
  refine .bind (spares_asked slot _) fun content => .bind (spares_done slot _) fun body => ?_
  exact .bind (spares_done slot _) fun md => spares_done slot _

theorem spares_changeTitle (config : Config) (old new : String) :
    (changeTitle config old new).Spares σ slot := by
  refine .bind (spares_note config old (.inr rfl)) fun note => ?_
  exact .bind (spares_asked slot _) fun _ => spares_done slot _

theorem spares_moveNote (h : slot ≠ .notebooks) (config : Config) (title notebook : String) :
    (moveNote config title notebook).Spares σ slot := by
  refine .bind (spares_note config title (.inr rfl)) fun note => ?_
  refine .bind (spares_findNotebook h config notebook) fun nb => ?_
  exact .bind (spares_asked slot _) fun _ => spares_done slot _

theorem spares_deleteNote (config : Config) (title : String) {notebook : Option String}
    (h : slot ≠ .notebooks ∨ notebook = none) :
    (deleteNote config title notebook).Spares σ slot := by
  refine .bind (spares_note config title h) fun note => ?_
  exact .bind (spares_asked slot _) fun _ => spares_done slot _

theorem spares_saveNewNote (codec : Codec) (note : Note) (raw : Bool) :
    (saveNewNote codec note raw).Spares σ slot :=
  .bind (spares_asked slot _) fun _ => spares_done slot _

theorem spares_createNoteInEditor (codec : Codec) (title : Option String) (raw : Bool) :
    (createNoteInEditor codec title raw).Spares σ slot :=
  .bind (spares_edited slot _) fun _ => spares_saveNewNote codec _ raw

/-! ## 4. Editing -/

theorem spares_noteToRecover : noteToRecover.Spares σ slot := by
  refine .bind (spares_loadRecord slot _) fun found => ?_
  split
  · exact spares_done slot _
  · exact spares_done slot _

theorem spares_saveChanges (h : slot ≠ .recovery) (codec : Codec) (note : Note) (raw : Bool) :
    (saveChanges codec note raw).Spares σ slot := by
  refine .bind (Spares.attempt (spares_asked slot _)) fun answer => ?_
  split
  · exact spares_done slot _
  · refine .bind (Spares.attempt (spares_storeRecord h.symm _)) fun kept => ?_
    split
    · exact spares_done slot _
    · exact spares_done slot _

theorem spares_clearRecoveryPoint (h : slot ≠ .recovery) :
    clearRecoveryPoint.Spares σ slot := by
  refine spares_updated (.bind (Transaction.spares_perform rfl) fun _ => ?_)
  exact Transaction.spares_perform ((Slot.touches_delete _).trans (decide_eq_false h.symm))

theorem spares_noteToEdit (codec : Codec) (config : Config) (title : String)
    (opts : EditOptions) : (noteToEdit codec config title opts).Spares σ slot := by
  unfold noteToEdit
  split
  · exact spares_noteToRecover
  · exact spares_noteWithContent codec config title

theorem spares_sendEdited (h : slot ≠ .recovery) (codec : Codec) (opts : EditOptions)
    (note : Note) : (sendEdited codec opts note).Spares σ slot := by
  refine .bind (spares_saveChanges h codec _ _) fun saved => .bind ?_ fun _ => spares_done slot _
  unfold settleRecovery
  split
  · exact spares_clearRecoveryPoint h
  · exact spares_done slot _

theorem spares_editNote (h : slot ≠ .recovery) (codec : Codec) (config : Config)
    (title : String) (opts : EditOptions) : (editNote codec config title opts).Spares σ slot := by
  rw [editNote_eq]
  refine .bind (spares_noteToEdit codec config title opts) fun loaded => ?_
  refine .bind (spares_edited slot _) fun text => ?_
  unfold finishEdit
  split
  · exact spares_done slot _
  · exact spares_sendEdited h codec opts _

/-! ## 5. Credentials and settings -/

theorem spares_loadCredentials : loadCredentials.Spares σ slot :=
  .bind (Slot.spares_load slot _) fun _ => Transaction.spares_done slot _

theorem spares_changeCredentials (h : slot ≠ .credentials)
    (change : List Credential → Except Error (α × List Credential)) :
    (changeCredentials change).Spares σ slot := by
  refine spares_updated (.bind spares_loadCredentials fun cs => ?_)
  refine .bind (Transaction.spares_done slot _) fun left => ?_
  exact .bind (Slot.spares_setBytes h.symm _) fun _ => Transaction.spares_done slot _

theorem spares_removePlace (h : slot ≠ .credentials) (place : Int64) :
    (removePlace place).Spares σ slot :=
  .bind (spares_done slot _) fun _ => spares_changeCredentials h _

theorem spares_removePlaces (h : slot ≠ .credentials) (places : List Int64) :
    (removePlaces places).Spares σ slot :=
  .bind (spares_done slot _) fun _ => spares_changeCredentials h _

theorem spares_setActive (h : slot ≠ .settings) (place : Int64) :
    (setActive place).Spares σ slot := by
  refine .bind (spares_done slot _) fun index => .bind ?_ fun credential => ?_
  · refine .bind (spares_viewed slot _) fun cs => ?_
    split
    · exact spares_done slot _
    · exact spares_done slot _
  · refine .bind spares_settings fun _ => ?_
    exact .bind (spares_storeRecord h.symm _) fun _ => spares_done slot _

/-! ## 6. The schema -/

theorem spares_version : Schema.version.Spares σ slot := by
  refine .bind (Transaction.spares_perform rfl) fun found => ?_
  split
  · exact Transaction.spares_done slot _
  · exact Transaction.spares_done slot _

theorem spares_migrateKey (h : slot ≠ .credentials) : Schema.migrateKey.Spares σ slot := by
  have hnothing : Transaction.Spares σ slot (pure ()) := Transaction.spares_done slot _
  refine .bind (Transaction.spares_perform rfl) fun found => ?_
  split
  · refine .bind (Slot.spares_load slot _) fun settings => ?_
    split
    · split
      · refine .bind (Slot.spares_load slot _) fun credentials => ?_
        dsimp only
        split
        · exact hnothing
        · exact Slot.spares_setBytes h.symm _
      · exact hnothing
    · exact hnothing
  · exact hnothing

/-- Bringing a store up to date changes the version and the credentials. -/
theorem spares_upgradeStore (hv : slot ≠ .schemaVersion) (hc : slot ≠ .credentials) :
    upgradeStore.Spares σ slot := by
  refine .bind (spares_viewed slot _) fun found => ?_
  split
  · exact spares_done slot _
  · refine spares_updated (.bind spares_version fun found => ?_)
    split
    · exact Transaction.spares_done slot _
    · refine .bind (spares_migrateKey hc) fun _ => ?_
      exact .bind (Slot.spares_setBytes hv.symm _) fun _ => Transaction.spares_done slot _

end Command

/-! ## 7. Operations

The slots of an operation are those that its parts may write.  Whether it comes to write them
depends on much else, and is not asked here. -/

namespace Operation

/-- **The slots that an operation may change.**  This is a bound for all stores; for a given one it
can be narrower. -/
def slots : Operation → List Slot
  | .notebooks _ | .findNotebook _ | .updateNotebook _ _ | .moveNote _ _ => [.notebooks]
  | .note _ within | .deleteNote _ within => if within = none then [] else [.notebooks]
  | .findNotes _ _ _ => [.search]
  | .editNote _ _ => [.recovery]
  | .addCredential _ _ | .removeCredentialNamed _ | .removeCredentials _ => [.credentials]
  | .setActiveCredential _ | .storeSettings _ => [.settings]
  | .notebook _ | .createNotebook _ _ | .noteWithContent _ | .createNoteInEditor _ _
  | .saveNewNote _ _ | .changeTitle _ _ | .recoveryPoint | .credentials | .settings => []

theorem ne_of_not_mem_slots {slot : Slot} {within : Option String}
    (h : slot ∉ (if within = none then [] else [Slot.notebooks])) :
    slot ≠ .notebooks ∨ within = none := by
  by_cases hn : within = none
  · exact .inr hn
  · rw [if_neg hn] at h
    exact .inl fun hs => h (hs ▸ List.mem_singleton_self _)

/-- Looking for a note changes nothing but the notebook list. -/
theorem not_mem_slots_of_ne {slot : Slot} (h : slot ≠ .notebooks) (within : Option String) :
    slot ∉ (if within = none then [] else [Slot.notebooks]) := by
  split
  · exact List.not_mem_nil
  · exact fun hs => h (List.mem_singleton.1 hs)

/-- Only an edit may change the recovery point. -/
theorem eq_editNote_of_recovery_mem {op : Operation} (h : Slot.recovery ∈ op.slots) :
    ∃ title opts, op = .editNote title opts := by
  cases op with
  | editNote title opts => exact ⟨title, opts, rfl⟩
  | note title within => exact absurd h (not_mem_slots_of_ne (by decide) within)
  | deleteNote title within => exact absurd h (not_mem_slots_of_ne (by decide) within)
  | _ => exact absurd h (by simp [slots])

/-- Only a search may change what the last one found. -/
theorem eq_findNotes_of_search_mem {op : Operation} (h : Slot.search ∈ op.slots) :
    ∃ filter offset count, op = .findNotes filter offset count := by
  cases op with
  | findNotes filter offset count => exact ⟨filter, offset, count, rfl⟩
  | note title within => exact absurd h (not_mem_slots_of_ne (by decide) within)
  | deleteNote title within => exact absurd h (not_mem_slots_of_ne (by decide) within)
  | _ => exact absurd h (by simp [slots])

end Operation

namespace Client

variable {σ : Type} [Backend σ] {slot : Slot}

theorem spares_removeCredentials (h : slot ≠ .credentials) (places : List Int64) :
    (removeCredentials places).Spares σ slot := by
  unfold removeCredentials
  split
  · exact .bind (Command.spares_removePlace h _) fun _ => Command.spares_done slot _
  · exact Command.spares_removePlaces h _

/-- **An operation changes none but its own slots**, on every store, for every client and whatever
goes wrong. -/
theorem spares_perform (client : Client) {op : Operation} (h : slot ∉ op.slots) :
    (client.perform op).Spares σ slot := by
  have hone {own : Slot} (ho : slot ∉ [own]) : slot ≠ own :=
    fun he => ho (List.mem_singleton.2 he)
  cases op with
  | notebooks forceSync => exact Command.spares_notebooks (hone h) _ _
  | findNotebook name => exact Command.spares_findNotebook (hone h) _ _
  | notebook guid => exact Command.spares_asked slot _
  | createNotebook notebook makeDefault => exact Command.spares_asked slot _
  | updateNotebook name patch => exact Command.spares_updateNotebook (hone h) _ _ _
  | findNotes filter offset count =>
    refine .bind (Command.spares_asked slot _) fun notes => ?_
    exact .bind (Command.spares_storeRecord (hone h).symm _) fun _ => Command.spares_done slot _
  | note title notebook =>
    exact Command.spares_note _ title (Operation.ne_of_not_mem_slots h)
  | noteWithContent title => exact Command.spares_noteWithContent _ _ title
  | editNote title opts => exact Command.spares_editNote (hone h) _ _ title opts
  | createNoteInEditor title raw => exact Command.spares_createNoteInEditor _ title raw
  | saveNewNote note raw => exact Command.spares_saveNewNote _ note raw
  | changeTitle old new => exact Command.spares_changeTitle _ old new
  | moveNote title notebook => exact Command.spares_moveNote (hone h) _ title notebook
  | deleteNote title notebook =>
    exact Command.spares_deleteNote _ title (Operation.ne_of_not_mem_slots h)
  | recoveryPoint => exact Command.spares_loadRecord slot _
  | credentials => exact Command.spares_viewed slot _
  | addCredential name secret => exact Command.spares_changeCredentials (hone h) _
  | removeCredentialNamed name => exact Command.spares_changeCredentials (hone h) _
  | removeCredentials places => exact spares_removeCredentials (hone h) places
  | setActiveCredential place => exact Command.spares_setActive (hone h) place
  | settings => exact Command.spares_settings
  | storeSettings settings => exact Command.spares_storeRecord (hone h).symm _

end Client
end Notekeeper
