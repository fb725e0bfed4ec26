import Notekeeper.Proofs.Command.Contract
import Notekeeper.Proofs.Searching.Ordinal

/-!
# What each operation may change

Every operation has at most one record of its own, and the bytes under all other keys of the store
stay as they are, whatever the store holds, whatever the others answer and whatever goes wrong.
This is a statement about bytes: a record that is garbled, or a key that the program does not know,
stays just as it was.

The contract is to differ from the store at the beginning in some slots only, and in buckets of
records that were made (`DiffersIn.contract`).  It allows every error and every call, so that all
of its content is about the store, and by `Contract.Allows.perform` what is made of parts keeps it.

The slots are then narrowed down.  A note is looked for in a notebook only when its title is no
ordinal of the saved search, and so the notebook list cannot change when it is one: the look ends
at the ordinal and the notebook is never asked for (`OrdinalIn.report_note`).  An empty name stands
for no notebook.  These two conditions depend on the store, which is why `Operation.MayChange` does.

An operation without a record of its own changes no bytes at all.  What it may do is make a bucket
to look into, and this bucket stays empty.

* `Operation.MayChange` : the records that an operation may change in a store.
* `Operation.Touches` : what an operation leaves of a store.
* `OrdinalIn.report_note` : an ordinal names its note without a trace.
* `Client.touches_perform` : an operation changes no other bytes, and makes no more than a bucket.
-/

namespace Notekeeper

open Command

variable {σ : Type} [Backend σ] {α : Type}

/-! ## 1. Stores that differ in some slots -/

/-- **Whether a store differs from another one in some slots only**, and in buckets of records that
were made. -/
structure DiffersIn (slots : List Slot) (s s' : σ) : Prop where
  get (b : String) (k : Bytes) (h : ∀ slot ∈ slots, ¬ (slot.bucket = b ∧ slot.key = k)) :
    Backend.get s' b k = Backend.get s b k
  bucket (b : String) (h : Backend.hasBucket s b = true) : Backend.hasBucket s' b = true
  made (b : String) (h : Backend.hasBucket s b = false) (h' : Backend.hasBucket s' b = true) :
    b = "settings" ∨ b = "cache"

/-- The bucket of a record is one of two. -/
theorem RecordKind.bucket_eq (kind : RecordKind) :
    kind.slot.bucket = "settings" ∨ kind.slot.bucket = "cache" := by
  cases kind <;> decide

namespace DiffersIn

variable {slots : List Slot} {s s₁ s₂ : σ}

theorem refl (s : σ) : DiffersIn slots s s :=
  ⟨fun _ _ _ => rfl, fun _ h => h, fun _ h h' => absurd (h.symm.trans h') Bool.false_ne_true⟩

theorem createBucket [LawfulBackend σ] (kind : RecordKind) (h : DiffersIn slots s s₁) :
    DiffersIn slots s (Backend.createBucket s₁ kind.slot.bucket) where
  get b k hk := (LawfulBackend.get_createBucket _ _ _ _).trans (h.get b k hk)
  bucket b hb := by rw [LawfulBackend.hasBucket_createBucket, h.bucket b hb, Bool.or_true]
  made b hb hb' := by
    rw [LawfulBackend.hasBucket_createBucket, Bool.or_eq_true, beq_iff_eq] at hb'
    rcases hb' with rfl | hb'
    · exact kind.bucket_eq
    · exact h.made b hb hb'

theorem turns {kind : RecordKind} {entry : Option Bytes} (h : DiffersIn slots s s₁)
    (hslot : kind.slot ∈ slots) (hturns : kind.slot.Turns entry s₁ s₂) : DiffersIn slots s s₂ where
  get b k hk := by
    rw [hturns.get, if_neg (hk _ hslot)]
    exact h.get b k hk
  bucket b hb := by rw [hturns.hasBucket, h.bucket b hb, Bool.or_true]
  made b hb hb' := by
    rw [hturns.hasBucket, Bool.or_eq_true, beq_iff_eq] at hb'
    rcases hb' with rfl | hb'
    · exact kind.bucket_eq
    · exact h.made b hb hb'

/-- The contract to change no more than some slots of a store. -/
def contract (slots : List Slot) (s : σ) : Contract σ where
  holds := DiffersIn slots s
  fails _ _ := True
  calls _ := True
  fails_append _ _ _ _ := trivial

theorem allows [LawfulBackend σ] (slots : List Slot) (s : σ) (world : Nat → Surroundings)
    (client : Client) : (contract slots s).Allows world client slots where
  bucket kind _ h := DiffersIn.createBucket kind h
  entry _ _ _ _ hslot hturns h := DiffersIn.turns h hslot hturns
  unreadable _ _ _ _ _ := trivial
  fault _ _ _ := trivial
  raised _ _ := trivial
  remote _ _ _ _ := trivial
  editor _ _ _ _ := trivial
  content _ _ _ _ _ _ := trivial
  lost _ _ _ _ _ _ _ := trivial
  call _ _ := trivial

end DiffersIn

/-- What is made of parts changes no more than its slots. -/
theorem Command.MadeOf.differsIn [LawfulBackend σ] {client : Client} {slots : List Slot}
    {c : Command α} (h : MadeOf client slots c) (world : Nat → Surroundings) (tick : Nat) (s : σ) :
    DiffersIn slots s (c.report world tick s).store :=
  (Contract.kept_madeOf h (DiffersIn.allows slots s world client).part tick s (.refl s)).store

/-! ## 2. Ordinals

Whether a title is an ordinal depends on the store: it has to be the place of a note in the saved
search.  Then nothing else is looked for. -/

/-- **Whether a title is an ordinal of the saved search**: the place of one of the notes that a
store has from the last search. -/
structure OrdinalIn (s : σ) (title : String) : Prop where
  hasBucket : Backend.hasBucket s Slot.search.bucket = true
  place : ∃ (n : Nat) (notes : List Note), ordinal? title = some n
    ∧ Slot.search.record s = .ok (some notes) ∧ n ≤ notes.length

/-- An ordinal of the saved search names its note without a trace. -/
theorem OrdinalIn.report_note {s : σ} {title : String} (h : OrdinalIn s title) (config : Config)
    (within : Option String) (world : Nat → Surroundings) (tick : Nat) :
    ∃ note, (Command.note config title within).report world tick s
      = ⟨.ok note, s, [], tick + 1⟩ := by
  obtain ⟨n, notes, hordinal, hrecord, hmost⟩ := h.place
  -- An ordinal counts from one.
  have hleast : 1 ≤ n := of_decide_eq_true (Option.filter_eq_some_iff.1 hordinal).2
  exact ⟨_, report_note_of_record h.hasBucket hrecord hordinal hleast hmost config within world
    tick⟩

/-! ## 3. Operations -/

namespace Operation

/-- **The records that an operation may change** in a store.  A note is looked for among the
notebooks only with the name of a notebook, and by a title that is no ordinal. -/
inductive MayChange (s : σ) : Operation → Slot → Prop
  | setActiveCredential (place : Int64) : MayChange s (.setActiveCredential place) .settings
  | storeSettings (settings : Settings) : MayChange s (.storeSettings settings) .settings
  | addCredential (name secret : String) : MayChange s (.addCredential name secret) .credentials
  | removeCredentialNamed (name : String) :
    MayChange s (.removeCredentialNamed name) .credentials
  | removeCredentials (places : List Int64) : MayChange s (.removeCredentials places) .credentials
  | notebooks (forceSync : Bool) : MayChange s (.notebooks forceSync) .notebooks
  | findNotebook (name : String) : MayChange s (.findNotebook name) .notebooks
  | updateNotebook (name : String) (patch : NotebookPatch) :
    MayChange s (.updateNotebook name patch) .notebooks
  | moveNote (title notebook : String) : MayChange s (.moveNote title notebook) .notebooks
  | note {title name : String} (hname : name ≠ "") (htitle : ¬ OrdinalIn s title) :
    MayChange s (.note title (some name)) .notebooks
  | deleteNote {title name : String} (hname : name ≠ "") (htitle : ¬ OrdinalIn s title) :
    MayChange s (.deleteNote title (some name)) .notebooks
  | findNotes (filter : NoteFilter) (offset count : Nat) :
    MayChange s (.findNotes filter offset count) .search
  | editNote (title : String) (opts : EditOptions) : MayChange s (.editNote title opts) .recovery

/-- **What an operation leaves of a store.** -/
structure Touches (op : Operation) (s s' : σ) : Prop where
  /-- Bytes differ only where a record is that the operation may change. -/
  entry (b : String) (k : Bytes) (h : Backend.get s' b k ≠ Backend.get s b k) :
    ∃ slot, op.MayChange s slot ∧ slot.bucket = b ∧ slot.key = k
  /-- The version of the schema stays. -/
  version : Slot.schemaVersion.held s' = Slot.schemaVersion.held s
  /-- No bucket is taken away. -/
  bucket (b : String) (h : Backend.hasBucket s b = true) : Backend.hasBucket s' b = true
  /-- A new bucket is one for records. -/
  made (b : String) (h : Backend.hasBucket s b = false) (h' : Backend.hasBucket s' b = true) :
    b = "settings" ∨ b = "cache"
  /-- An operation that has no record of its own changes nothing under any key, so that a bucket
  which it makes is empty. -/
  idle (h : ∀ slot, ¬ op.MayChange s slot) (b : String) (k : Bytes) :
    Backend.get s' b k = Backend.get s b k

/-- What differs in slots that an operation may change is what it leaves. -/
theorem touches_of_differsIn {op : Operation} {slots : List Slot} {s s' : σ}
    (h : DiffersIn slots s s') (hslots : ∀ slot ∈ slots, op.MayChange s slot) :
    op.Touches s s' where
  entry b k hk := by
    by_contra hnone
    exact hk (h.get b k fun slot hslot hplace => hnone ⟨slot, hslots slot hslot, hplace⟩)
  version := h.get _ _ fun slot hslot hplace => by
    have hmay := hslots slot hslot
    rw [Slot.eq_of_place hplace.1 hplace.2] at hmay
    cases hmay
  bucket := h.bucket
  made := h.made
  idle hidle b k := h.get b k fun slot hslot _ => hidle slot (hslots slot hslot)

end Operation

namespace Client

open Operation

variable [LawfulBackend σ]

/-- What is made of parts leaves of a store what an operation does that may change their slots. -/
theorem touches_of_madeOf {client : Client} {op : Operation} {slots : List Slot} {c : Command α}
    (h : MadeOf client slots c) (s : σ) (hslots : ∀ slot ∈ slots, op.MayChange s slot)
    (world : Nat → Surroundings) (tick : Nat) : op.Touches s (c.report world tick s).store :=
  touches_of_differsIn (h.differsIn world tick s) hslots

/-- What is made of parts that change no slot leaves of a store what every operation does. -/
theorem touches_of_madeOf_nil {client : Client} {c : Command α} (h : MadeOf client [] c)
    (op : Operation) (s : σ) (world : Nat → Surroundings) (tick : Nat) :
    op.Touches s (c.report world tick s).store :=
  touches_of_madeOf h s (fun _ hslot => absurd hslot List.not_mem_nil) world tick

omit [LawfulBackend σ] in
/-- A note is looked for among all notes, by an ordinal, or in a notebook. -/
theorem note_cases (s : σ) (title : String) (within : Option String) :
    within.filter (· ≠ "") = none ∨ OrdinalIn s title
      ∨ ∃ name, within = some name ∧ name ≠ "" ∧ ¬ OrdinalIn s title := by
  by_cases hordinal : OrdinalIn s title
  · exact .inr (.inl hordinal)
  · cases within with
    | none => exact .inl rfl
    | some name =>
      by_cases hname : name = ""
      · exact .inl (by simp [hname])
      · exact .inr (.inr ⟨name, rfl, hname, hordinal⟩)

theorem touches_note (client : Client) (title : String) (within : Option String)
    (world : Nat → Surroundings) (tick : Nat) (s : σ) : (Operation.note title within).Touches s
      ((Command.note client.config title within).report world tick s).store := by
  rcases note_cases s title within with hnone | hordinal | ⟨name, rfl, hname, htitle⟩
  · exact touches_of_madeOf_nil (madeOf_note title (.inl hnone)) _ s world tick
  · obtain ⟨note, hreport⟩ := hordinal.report_note client.config within world tick
    rw [hreport]
    have hidle : MadeOf client [] (pure note) := madeOf_pure note
    exact touches_of_madeOf_nil hidle _ s world tick
  · refine touches_of_madeOf (madeOf_note title (.inr (List.mem_singleton_self _))) s ?_ world tick
    rintro slot hslot
    rw [List.mem_singleton.1 hslot]
    exact .note hname htitle

theorem touches_deleteNote (client : Client) (title : String) (within : Option String)
    (world : Nat → Surroundings) (tick : Nat) (s : σ) :
    (Operation.deleteNote title within).Touches s
      ((Command.deleteNote client.config title within).report world tick s).store := by
  rcases note_cases s title within with hnone | hordinal | ⟨name, rfl, hname, htitle⟩
  · exact touches_of_madeOf_nil (madeOf_deleteNote title (.inl hnone)) _ s world tick
  · obtain ⟨note, hreport⟩ := hordinal.report_note client.config within world tick
    have hrest : MadeOf client [] (asked (.deleteNote note.guid) >>= fun _ => pure note) :=
      .bind (madeOf_asked nofun) fun _ => madeOf_pure _
    unfold Command.deleteNote
    rw [report_bind, hreport]
    exact touches_of_madeOf_nil hrest _ s world (tick + 1)
  · refine touches_of_madeOf (madeOf_deleteNote title (.inr (List.mem_singleton_self _))) s ?_
      world tick
    rintro slot hslot
    rw [List.mem_singleton.1 hslot]
    exact .deleteNote hname htitle

/-- **An operation changes no other bytes than those of its own record**, on every store and
whatever goes wrong.  Most operations are told by their footprint alone; a note that is looked for
in a notebook needs the store as well. -/
theorem touches_perform (client : Client) (op : Operation) (world : Nat → Surroundings)
    (tick : Nat) (s : σ) : op.Touches s ((client.perform op).report world tick s).store := by
  have hown (hslots : ∀ slot ∈ op.slots, op.MayChange s slot) :
      op.Touches s ((client.perform op).report world tick s).store :=
    touches_of_madeOf (client.madeOf_perform op) s hslots world tick
  cases op with
  | note title within => exact touches_note client title within world tick s
  | deleteNote title within => exact touches_deleteNote client title within world tick s
  | _ =>
    refine hown fun slot hslot => ?_
    first
    | exact absurd hslot List.not_mem_nil
    | cases List.mem_singleton.1 hslot; constructor

end Client

namespace Sample

/-- A store with settings that nothing can be read from. -/
def garbled : Tables :=
  Backend.plant ⟨[], []⟩ Slot.settings.bucket Slot.settings.key (Utf8.ofString "not a record")

end Sample

/-- The recovery point is looked for in a store without a cache: there is an empty one afterwards,
and the settings that cannot be read are as they were. -/
theorem recoveryPoint_touches_garbled :
    let client : Client := ⟨{}, {}, .identity⟩
    let after := ((client.perform .recoveryPoint).report (fun _ => Sample.calm) 0
      Sample.garbled).store
    Operation.recoveryPoint.Touches Sample.garbled after
      ∧ Backend.hasBucket Sample.garbled "cache" = false
      ∧ Backend.hasBucket after "cache" = true :=
  ⟨Client.touches_perform _ _ _ _ _, by decide +kernel, by decide +kernel⟩

end Notekeeper
