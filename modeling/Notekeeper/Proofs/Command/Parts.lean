import Notekeeper.Proofs.Command.Footprint
import Notekeeper.Proofs.Command.ReadBack
import Notekeeper.Proofs.Credential.Positions
import Notekeeper.Proofs.Notebook.Refreshing

/-!
# What operations are made of

Every operation is a few parts, one after another: calls, texts shown, records read and written,
and results that the program settles by itself.  What each part keeps, and `>>=` carries over, is
kept by all operations, so that results about all of them need one case for each kind of part and
not one for each operation.

A kind of part is as large as its behaviour is one thing.  A listing of notebooks is a part, and so
is a changed notebook that is sent and patched in the cache, since what they keep true of the cached
list holds of each as a whole.  Fetching the content of a note is one too (`contentOf`): what the
codec fails with is then tied to the answer that the codec was given.  The slots that a part may
change are an index of the predicate, and for an operation they are its footprint.

Results come in as parts with the errors that a command may raise by itself, and there are only two
sorts of these, whatever the store holds: something asked for is not there, or a note comes without
its envelope (`Command.Raised`).  All other errors come from the store, the service, the editor or
the codec, and are met inside another part.

* `Command.Part` : the parts.
* `Command.MadeOf` : what is made of them, one after another.
* `Command.Raised` : the errors that commands raise by themselves.
* `Client.madeOf_perform` : every operation is made of parts that change none but its own slots.
-/

namespace Notekeeper

/-- **The errors that commands raise by themselves**: something asked for is not there, or a note
comes without its envelope. -/
inductive Command.Raised : Error → Prop
  | notFound {e : Error} (h : e.isNotFound = true) : Raised e
  | envelope (text : String) : Raised (.markup text)

namespace Command

variable {α β : Type}

/-! ## 1. Parts

A part is a command whose behaviour is told as a whole, by a lemma on its report.  It may be a
single call, or a change of several steps. -/

/-- The content of a note in both forms, as markup and as markdown. -/
def contentOf (codec : Codec) (guid : String) : Command (String × String) := do
  let content ← asked (.noteContent guid)
  let body ← done (Envelope.unwrap content)
  let md ← done (codec.toMarkdown body)
  pure (body, md)

/-- Looking for a note with its content is looking for the note and then for its content. -/
theorem noteWithContent_eq (codec : Codec) (config : Config) (title : String) :
    noteWithContent codec config title = note config title none >>= fun note =>
      contentOf codec note.guid >>= fun both =>
        pure { note with body := both.1, md := both.2 } := by
  unfold noteWithContent contentOf
  simp only [bind_assoc]
  rfl

/-- The remote service is asked once for the content, which is then taken out of its envelope and
made markdown of. -/
theorem report_contentOf {σ : Type} [Backend σ] (codec : Codec) (guid : String)
    (world : Nat → Surroundings) (tick : Nat) (s : σ) :
    (contentOf codec guid).report world tick s
      = ⟨((world tick).remote (.noteContent guid)).bind fun content =>
          (Envelope.unwrap content).bind fun body =>
            (codec.toMarkdown body).map fun md => (body, md), s,
        [.called (.noteContent guid) ((world tick).remote (.noteContent guid))], tick + 1⟩ := by
  unfold contentOf
  rw [report_bind, report_asked]
  generalize (world tick).remote (.noteContent guid) = answer
  cases answer with
  | error e => rfl
  | ok content =>
    simp only [Report.andThen, Except.bind]
    cases Envelope.unwrap content with
    | error e => rfl
    | ok body =>
      change Report.after _ ((done (codec.toMarkdown body) >>= fun md => pure (body, md)).report
        world (tick + 1) s) = _
      simp only
      cases codec.toMarkdown body <;> rfl

/-- **The parts that the operations of a client are made of**, where some slots may change.  The
client comes in with its codec and its configuration. -/
inductive Part (client : Client) (slots : List Slot) : {α : Type} → Command α → Prop
  | result {α : Type} {r : Except Error α} (h : ∀ e, r = .error e → Raised e) :
    Part client slots (done r)
  | asked {call : RemoteCall} (h : call ≠ .allNotebooks) : Part client slots (asked call)
  | content (guid : String) : Part client slots (contentOf client.codec guid)
  | edited (text : String) : Part client slots (edited text)
  | load (kind : RecordKind) :
    Part client slots (loadRecord kind.slot : Command (Option kind.Value))
  | store (kind : RecordKind) (v : kind.Value) (h : kind.slot ∈ slots)
      (hkind : kind = .settings ∨ kind = .search) : Part client slots (storeRecord kind.slot v)
  | credentials : Part client slots credentials
  | change {α : Type} {change : List Credential → Except Error (α × List Credential)}
      (hraise : ∀ cs e, change cs = .error e → Raised e) (h : .credentials ∈ slots) :
    Part client slots (changeCredentials change)
  | list (forceSync : Bool) (h : .notebooks ∈ slots) :
    Part client slots (notebooks client.config forceSync)
  | patch (name : String) (nb : Notebook) (h : .notebooks ∈ slots) :
    Part client slots (sendPatched name nb)
  | save (note : Note) (raw : Bool) (h : .recovery ∈ slots) :
    Part client slots (saveChanges client.codec note raw)
  | clear (h : .recovery ∈ slots) : Part client slots clearRecoveryPoint

/-- **What is made of parts**, one after another.  What follows one may depend on what it gave. -/
inductive MadeOf (client : Client) (slots : List Slot) : {α : Type} → Command α → Prop
  | part {α : Type} {c : Command α} (h : Part client slots c) : MadeOf client slots c
  | bind {α β : Type} {c : Command α} {f : α → Command β} (h : MadeOf client slots c)
      (hf : ∀ a, MadeOf client slots (f a)) : MadeOf client slots (c >>= f)

variable {client : Client} {slots : List Slot}

theorem madeOf_pure (a : α) : MadeOf client slots (pure a) := .part (.result nofun)

theorem madeOf_fail {e : Error} (h : e.isNotFound = true) :
    MadeOf client slots (fail e : Command α) :=
  .part (.result fun _ he => Except.error.inj he ▸ .notFound h)

theorem madeOf_asked {call : RemoteCall} (h : call ≠ .allNotebooks) :
    MadeOf client slots (asked call) :=
  .part (.asked h)

/-! ## 2. Notebooks and notes -/

theorem madeOf_findNotebook (h : .notebooks ∈ slots) (name : String) :
    MadeOf client slots (findNotebook client.config name) := by
  refine .bind (.part (.list false h)) fun found => ?_
  split
  · exact madeOf_pure _
  · exact madeOf_fail rfl

theorem madeOf_updateNotebook (h : .notebooks ∈ slots) (name : String) (patch : NotebookPatch) :
    MadeOf client slots (updateNotebook client.config name patch) := by
  rw [updateNotebook_eq]
  exact .bind (madeOf_findNotebook h name) fun nb => .part (.patch name _ h)

theorem madeOf_noteByOrdinal (title : String) : MadeOf client slots (noteByOrdinal title) := by
  unfold noteByOrdinal
  split
  · exact .bind (.bind (.part (.load .search)) fun _ => madeOf_pure _) fun _ => madeOf_pure _
  · exact madeOf_pure _

theorem madeOf_noteByTitle (title : String) {within : Option String}
    (h : within.filter (· ≠ "") = none ∨ .notebooks ∈ slots) :
    MadeOf client slots (noteByTitle client.config title within) := by
  rw [noteByTitle_eq]
  refine .bind ?_ fun guid => .bind (madeOf_asked nofun) fun found => ?_
  · unfold narrowing
    split
    · next name hname =>
      have hslot := h.resolve_left fun hnone => by rw [hnone] at hname; cases hname
      exact .bind (madeOf_findNotebook hslot name) fun nb => madeOf_pure _
    · exact madeOf_pure _
  · split
    · exact madeOf_pure _
    · exact madeOf_fail rfl

/-- Only a notebook name that is not empty makes the look for a note list notebooks. -/
theorem madeOf_note (title : String) {within : Option String}
    (h : within.filter (· ≠ "") = none ∨ .notebooks ∈ slots) :
    MadeOf client slots (note client.config title within) := by
  refine .bind (madeOf_noteByOrdinal title) fun found => ?_
  split
  · exact madeOf_pure _
  · exact madeOf_noteByTitle title h

theorem madeOf_deleteNote (title : String) {within : Option String}
    (h : within.filter (· ≠ "") = none ∨ .notebooks ∈ slots) :
    MadeOf client slots (deleteNote client.config title within) :=
  .bind (madeOf_note title h) fun _ => .bind (madeOf_asked nofun) fun _ => madeOf_pure _

/-- The envelope is opened, or its content is malformed. -/
theorem raised_of_unwrap {content : String} {e : Error}
    (h : Envelope.unwrap content = .error e) : Raised e := by
  unfold Envelope.unwrap at h
  split at h
  · cases h
    exact .envelope _
  · split at h
    · cases h
      exact .envelope _
    · split at h
      · cases h
      · split at h
        · cases h
          exact .envelope _
        · cases h

theorem madeOf_noteWithContent (title : String) :
    MadeOf client slots (noteWithContent client.codec client.config title) := by
  rw [noteWithContent_eq]
  exact .bind (madeOf_note title (.inl rfl)) fun note =>
    .bind (.part (.content _)) fun both => madeOf_pure _

theorem madeOf_changeTitle (old new : String) :
    MadeOf client slots (changeTitle client.config old new) :=
  .bind (madeOf_note old (.inl rfl)) fun _ =>
    .bind (madeOf_asked nofun) fun _ => madeOf_pure _

theorem madeOf_moveNote (h : .notebooks ∈ slots) (title notebook : String) :
    MadeOf client slots (moveNote client.config title notebook) :=
  .bind (madeOf_note title (.inl rfl)) fun _ => .bind (madeOf_findNotebook h notebook) fun _ =>
    .bind (madeOf_asked nofun) fun _ => madeOf_pure _

theorem madeOf_saveNewNote (note : Note) (raw : Bool) :
    MadeOf client slots (saveNewNote client.codec note raw) :=
  .bind (madeOf_asked nofun) fun _ => madeOf_pure _

/-! ## 3. Editing -/

theorem madeOf_noteToEdit (title : String) (opts : EditOptions) :
    MadeOf client slots (noteToEdit client.codec client.config title opts) := by
  unfold noteToEdit
  split
  · refine .bind (.part (.load .recovery)) fun found => ?_
    split
    · exact madeOf_pure _
    · exact madeOf_fail rfl
  · exact madeOf_noteWithContent title

theorem madeOf_editNote (h : .recovery ∈ slots) (title : String) (opts : EditOptions) :
    MadeOf client slots (editNote client.codec client.config title opts) := by
  rw [editNote_eq]
  refine .bind (madeOf_noteToEdit title opts) fun loaded => ?_
  refine .bind (.part (.edited _)) fun text => ?_
  unfold finishEdit
  split
  · exact madeOf_pure _
  · refine .bind (.part (.save _ _ h)) fun saved => .bind ?_ fun _ => madeOf_pure _
    unfold settleRecovery
    split
    · exact .part (.clear h)
    · exact madeOf_pure _

/-! ## 4. Credentials

A change of credentials is one part, with a condition on the errors that the change raises: it
raises one only if something that it was asked for is not there. -/

/-- A credential that is to be removed is there, or it is not found. -/
theorem raised_of_removeFirst {p : Credential → Bool} {cs : List Credential} {e : Error}
    (h : CredentialList.removeFirst p cs = .error e) : Raised e := by
  unfold CredentialList.removeFirst at h
  split at h
  · cases h
  · cases h
    exact .notFound rfl

theorem raised_of_removeAt {index : Int} {cs : List Credential} {e : Error}
    (h : CredentialList.removeAt index cs = .error e) : Raised e := by
  rw [CredentialList.removeAt_eq] at h
  split at h
  · cases h
    exact .notFound rfl
  · split at h
    · cases h
    · cases h
      exact .notFound rfl

theorem raised_of_removeAll {indices : List Int} {cs : List Credential} {e : Error}
    (h : CredentialList.removeAll indices cs = .error e) : Raised e := by
  rw [CredentialList.removeAll_eq] at h
  split at h
  · cases h
    exact .notFound rfl
  · split at h
    · cases h
      exact .notFound rfl
    · cases h

theorem raised_of_storeIndex {place : Int64} {e : Error} (h : storeIndex place = .error e) :
    Raised e := by
  unfold storeIndex at h
  split at h
  · cases h
    exact .notFound rfl
  · cases h

/-- What one of many fails with is what the first that fails does. -/
theorem exists_of_mapM_eq_error {f : α → Except Error β} {as : List α} {e : Error}
    (h : as.mapM f = .error e) : ∃ a ∈ as, f a = .error e := by
  induction as with
  | nil => cases h
  | cons a rest ih =>
    rw [List.mapM_cons] at h
    cases hf : f a with
    | error e' =>
      rw [hf] at h
      exact ⟨a, List.mem_cons_self, hf.trans (congrArg Except.error (Except.error.inj h))⟩
    | ok b =>
      rw [hf] at h
      cases hrest : rest.mapM f with
      | error e' =>
        rw [hrest] at h
        obtain ⟨a', ha', he⟩ := ih (hrest.trans (congrArg Except.error (Except.error.inj h)))
        exact ⟨a', List.mem_cons_of_mem a ha', he⟩
      | ok bs =>
        rw [hrest] at h
        cases h

theorem madeOf_removeCredentials (h : .credentials ∈ slots) (places : List Int64) :
    MadeOf client slots (Client.removeCredentials places) := by
  unfold Client.removeCredentials
  split
  · refine .bind (.bind ?_ fun index => ?_) fun _ => madeOf_pure _
    · exact .part (.result fun _ he => raised_of_storeIndex he)
    · exact .part (.change (fun _ _ he => raised_of_removeAt he) h)
  · refine .bind (.part (.result fun e he => ?_)) fun indices => ?_
    · obtain ⟨place, -, hplace⟩ := exists_of_mapM_eq_error he
      exact raised_of_storeIndex hplace
    · exact .part (.change (fun _ _ he => raised_of_removeAll he) h)

theorem madeOf_setActive (h : .settings ∈ slots) (place : Int64) :
    MadeOf client slots (setActive place) := by
  refine .bind (.part (.result fun _ he => raised_of_storeIndex he)) fun index => ?_
  refine .bind (.bind (.part .credentials) fun cs => ?_) fun credential => ?_
  · split
    · exact madeOf_pure _
    · exact madeOf_fail rfl
  · refine .bind (.bind (.part (.load .settings)) fun _ => madeOf_pure _) fun _ => ?_
    exact .bind (.part (.store .settings _ h (.inl rfl))) fun _ => madeOf_pure _

end Command

/-! ## 5. Operations -/

namespace Client

open Command

theorem mem_slots_of_within {within : Option String} (h : within.filter (· ≠ "") ≠ none) :
    .notebooks ∈ (if within = none then [] else [Slot.notebooks]) := by
  rw [if_neg fun hnone => h (by rw [hnone]; rfl)]
  exact List.mem_singleton_self _

/-- **Every operation is made of parts** that change none but its own slots. -/
theorem madeOf_perform (client : Client) (op : Operation) :
    MadeOf client op.slots (client.perform op) := by
  have hown {slot : Slot} : slot ∈ [slot] := List.mem_singleton_self slot
  cases op with
  | notebooks forceSync => exact .part (.list forceSync hown)
  | findNotebook name => exact madeOf_findNotebook hown name
  | notebook guid => exact madeOf_asked nofun
  | createNotebook notebook makeDefault => exact madeOf_asked nofun
  | updateNotebook name patch => exact madeOf_updateNotebook hown name patch
  | findNotes filter offset count =>
    exact .bind (madeOf_asked nofun) fun notes =>
      .bind (.part (.store .search notes hown (.inr rfl))) fun _ => madeOf_pure _
  | note title within =>
    exact madeOf_note title (Decidable.or_iff_not_imp_left.2 mem_slots_of_within)
  | noteWithContent title => exact madeOf_noteWithContent title
  | editNote title opts => exact madeOf_editNote hown title opts
  | createNoteInEditor title raw =>
    exact .bind (.part (.edited _)) fun text => madeOf_saveNewNote _ raw
  | saveNewNote note raw => exact madeOf_saveNewNote note raw
  | changeTitle old new => exact madeOf_changeTitle old new
  | moveNote title notebook => exact madeOf_moveNote hown title notebook
  | deleteNote title within =>
    exact madeOf_deleteNote title (Decidable.or_iff_not_imp_left.2 mem_slots_of_within)
  | recoveryPoint => exact .part (.load .recovery)
  | credentials => exact .part .credentials
  | addCredential name secret => exact .part (.change nofun hown)
  | removeCredentialNamed name => exact .part (.change (fun _ _ h => raised_of_removeFirst h) hown)
  | removeCredentials places => exact madeOf_removeCredentials hown places
  | setActiveCredential place => exact madeOf_setActive hown place
  | settings => exact .bind (.part (.load .settings)) fun _ => madeOf_pure _
  | storeSettings settings => exact .part (.store .settings settings hown (.inl rfl))

end Client
end Notekeeper
