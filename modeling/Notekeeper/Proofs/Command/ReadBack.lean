import Notekeeper.Proofs.Command.Records
import Notekeeper.Proofs.Credential.Changing

/-!
# Records stored and read back

There are five kinds of record, each with a slot of its own.  Whatever a store holds, a record that
is stored in it is what is read from then on, and the bytes under all other keys stay as they are.

Two steps lie between a record and what is read.  The record is written as text and read from it
again, which is a matter of the formats alone (`LawfulRecord`).  And the bytes are put into a slot
and got from there, which is a matter of the store (`Slot.Sets`).  An operation that stores a record
is an update that puts the bytes of the record into its slot or fails (`Command.Puts`), and once
this is shown of each of them the rest is the same for all (`readsBack_of_puts`).

Reading gives the record as it is written.  For settings and credentials this is the record itself.
Notes, searches and the notebook cache hold timestamps, and a leap second that ends no minute has no
text of its own: it is written as the second after, and is read as that (`Timestamp.asWritten`).
`stray_leap_reads_back_later` is a note to which this happens.  A record that was itself read from
some text holds no such timestamp, so that from there on it reads back unchanged, and `asWritten`
adds nothing to what was read once.

A credential list is stored as a whole by the upgrades of the store, while the operations of clients
store what a change makes of the list that is there.  They read it first, and where it cannot be
read they fail and store nothing.

* `Command.Puts` : commands that put bytes into a slot, or leave the store as it was.
* `RecordKind.Storing` : the operations that store a record of a kind.
* `RecordKind.ReadsBack` : what comes of storing a record.
* `RecordKind.reads_back_as_stored` : every record reads back as it was written.
-/

namespace Notekeeper

instance : LawfulRecord Settings where
  plain_toJson s := .object (by simp [Json.Plain.text, Record.plain_option])
  toJson_ne_null _ := Json.noConfusion
  ofJson?_toJson s := by
    unfold instRecordSettings
    simp [Json.record, Json.fields?, Json.field?, Json.optional, Json.string?,
      Record.ofJson?_option]

instance : ExactRecord Settings := ⟨fun _ => rfl⟩

variable {σ : Type} [Backend σ] {α : Type}

namespace Command

/-! ## 1. Bytes put into a slot

An operation that stores a record is one update.  It fails only with a store that cannot be written,
and otherwise it puts the bytes into the slot. -/

/-- **Whether a command puts bytes into a slot** of a store, and leaves the store as it was when
that cannot be written. -/
structure Puts (slot : Slot) (bs : Bytes) (c : Command α) (s : σ) : Prop where
  written (world : Nat → Surroundings) (tick : Nat) (h : (world tick).fault = .none) :
    (c.report world tick s).result.isOk = true ∧ slot.Sets bs s (c.report world tick s).store
  unwritten (world : Nat → Surroundings) (tick : Nat) (h : (world tick).fault ≠ .none) :
    (c.report world tick s).result.isOk = false ∧ (c.report world tick s).store = s

/-- An update puts bytes into a slot when it fails only with a store that cannot be written. -/
theorem puts_updated {slot : Slot} {bs : Bytes} {tx : Transaction α} {s : σ}
    (hnone : ∃ a s', tx.update .none s = (.ok a, s') ∧ slot.Sets bs s s')
    (hfault : ∀ fault, fault ≠ .none → ∃ e, (tx.update fault s).1 = .error e) :
    (updated tx).Puts slot bs s where
  written world tick h := by
    obtain ⟨a, s', hupdate, hsets⟩ := hnone
    rw [report_updated, h, hupdate]
    exact ⟨rfl, hsets⟩
  unwritten world tick h := by
    obtain ⟨e, he⟩ := hfault (world tick).fault h
    rw [report_updated, he]
    exact ⟨rfl, Transaction.update_of_error he⟩

/-- Where a slot holds a record, nothing takes its place. -/
theorem report_loadRecord_getD [Record α] [LawfulRecord α] {slot : Slot} {a : α} {s : σ}
    (h : slot.Holds a s) (default : α) (world : Nat → Surroundings) (tick : Nat) :
    (loadRecord slot >>= fun found : Option α => pure (found.getD default)).report world tick s
      = ⟨.ok (LawfulRecord.asWritten a), s, [], tick + 1⟩ := by
  rw [report_bind, report_loadRecord_of_holds h]
  rfl

variable [LawfulBackend σ]

theorem puts_storeRecord [Record α] (slot : Slot) (a : α) (s : σ) :
    (storeRecord slot a).Puts slot (Record.encode a) s := by
  refine puts_updated ?_ ?_
  · obtain ⟨s', hset, hsets⟩ := Slot.run_setBytes slot (Record.encode a) s
    exact ⟨(), s', Transaction.update_of_run hset, hsets⟩
  · intro fault hfault
    have hreply := (Transaction.justWrites_setBytes slot (Record.encode a) fault s).1
    cases fault with
    | none => exact absurd rfl hfault
    | locked => exact ⟨_, hreply⟩
    | refused => exact ⟨_, hreply⟩

/-- A change of the credential list puts the changed list into its slot. -/
theorem puts_changeCredentials {change : List Credential → Except Error (α × List Credential)}
    {s : σ} {cs left : List Credential} {a : α} (hstored : CredentialList.stored s = .ok cs)
    (hchange : change cs = .ok (a, left)) :
    (changeCredentials change).Puts .credentials (Record.encode left) s := by
  have hfound : foundBy change s = .ok (a, left) := by
    rw [foundBy, hstored]
    exact hchange
  refine puts_updated ?_ ?_
  · obtain ⟨s', hupdate, hsets⟩ := update_changing_none hfound
    exact ⟨a, s', hupdate, hsets⟩
  · intro fault hfault
    have hreply : ((changing change).update fault s).1
        = fault.replyTo ((foundBy change s).map (·.1)) := result_changing fault s
    rw [hfound] at hreply
    cases fault with
    | none => exact absurd rfl hfault
    | locked => exact ⟨_, hreply⟩
    | refused => exact ⟨_, hreply⟩

end Command

/-! ## 2. Kinds of record -/

/-- **The kinds of record that a store keeps.**  The version of the schema has a slot as well, but
it is a number and no record. -/
inductive RecordKind
  | settings
  | credentials
  | notebooks
  | search
  | recovery

namespace RecordKind

/-- The slot of a kind of record. -/
def slot : RecordKind → Slot
  | settings => .settings
  | credentials => .credentials
  | notebooks => .notebooks
  | search => .search
  | recovery => .recovery

theorem slot_injective {kind kind' : RecordKind} (h : kind.slot = kind'.slot) : kind = kind' := by
  cases kind <;> cases kind' <;> first | rfl | cases h

/-- Only the schema version is no record. -/
theorem slot_ne_schemaVersion (kind : RecordKind) : kind.slot ≠ .schemaVersion := by
  cases kind <;> decide

/-- The values that are kept as records of a kind. -/
@[reducible] def Value : RecordKind → Type
  | settings => Settings
  | credentials => List Credential
  | notebooks => NotebookCache
  | search => List Note
  | recovery => Note

instance : (kind : RecordKind) → Record kind.Value
  | settings => inferInstanceAs (Record Settings)
  | credentials => inferInstanceAs (Record (List Credential))
  | notebooks => inferInstanceAs (Record NotebookCache)
  | search => inferInstanceAs (Record (List Note))
  | recovery => inferInstanceAs (Record Note)

instance : (kind : RecordKind) → LawfulRecord kind.Value
  | settings => inferInstanceAs (LawfulRecord Settings)
  | credentials => inferInstanceAs (LawfulRecord (List Credential))
  | notebooks => inferInstanceAs (LawfulRecord NotebookCache)
  | search => inferInstanceAs (LawfulRecord (List Note))
  | recovery => inferInstanceAs (LawfulRecord Note)

/-- What reading a kind of record gives: some kinds have a value that stands for none. -/
@[reducible] def Found : RecordKind → Type
  | settings => Settings
  | credentials => List Credential
  | notebooks => Option NotebookCache
  | search => List Note
  | recovery => Option Note

/-- What reading gives when there is a record. -/
def found : (kind : RecordKind) → kind.Value → kind.Found
  | settings, v | credentials, v | search, v => v
  | notebooks, v | recovery, v => some v

/-- **A record with its timestamps as they are written**: a leap second is written as the second
after, unless it ends a minute. -/
def asWritten : (kind : RecordKind) → kind.Value → kind.Value
  | settings, v => v
  | credentials, v => v
  | notebooks, cache => cache.asWritten
  | search, notes => notes.map Note.asWritten
  | recovery, note => note.asWritten

theorem lawful_asWritten (kind : RecordKind) (v : kind.Value) :
    LawfulRecord.asWritten v = kind.asWritten v := by
  cases kind with
  | settings => exact ExactRecord.asWritten_eq (α := Settings) v
  | credentials => exact ExactRecord.asWritten_eq (α := List Credential) v
  | notebooks => rfl
  | search => rfl
  | recovery => rfl

/-- Reading a kind of record. -/
def read : (kind : RecordKind) → Command kind.Found
  | settings => Command.settings
  | credentials => Command.credentials
  | notebooks => Command.notebookCache
  | search => Command.lastSearch
  | recovery => Command.recoveryPoint

/-- **The operations that store a record** in a store.  A record is replaced whatever was there; a
credential list is also what a change makes of the list that is there. -/
inductive Storing : (kind : RecordKind) → kind.Value → {α : Type} → Command α → σ → Prop
  | settings (v : Settings) (s : σ) : Storing .settings v (Command.storeSettings v) s
  | credentials (v : List Credential) (s : σ) :
    Storing .credentials v (Command.storeRecord .credentials v) s
  | changed {α : Type} {change : List Credential → Except Error (α × List Credential)}
      {s : σ} {cs v : List Credential} {a : α} (hstored : CredentialList.stored s = .ok cs)
      (hchange : change cs = .ok (a, v)) :
    Storing .credentials v (Command.changeCredentials change) s
  | notebooks (v : NotebookCache) (s : σ) : Storing .notebooks v (Command.storeNotebookCache v) s
  | search (v : List Note) (s : σ) : Storing .search v (Command.storeSearch v) s
  | recovery (v : Note) (s : σ) : Storing .recovery v (Command.storeRecoveryPoint v) s

/-- **What comes of storing a record.** -/
structure ReadsBack (kind : RecordKind) (v : kind.Value) (c : Command α) (s : σ) : Prop where
  /-- Only a store that cannot be written keeps it from being stored. -/
  stored_iff (world : Nat → Command.Surroundings) (tick : Nat) :
    (c.report world tick s).result.isOk = true ↔ (world tick).fault = .none
  /-- Once it is stored it is what is read, as it was written and without a trace. -/
  read (world : Nat → Command.Surroundings) (tick : Nat)
      (h : (c.report world tick s).result.isOk = true)
      (world' : Nat → Command.Surroundings) (tick' : Nat) :
    kind.read.report world' tick' (c.report world tick s).store
      = ⟨.ok (kind.found (kind.asWritten v)), (c.report world tick s).store, [], tick' + 1⟩
  /-- The bytes under other keys stay as they are. -/
  others (world : Nat → Command.Surroundings) (tick : Nat) (b : String) (k : Bytes)
      (h : ¬ (kind.slot.bucket = b ∧ kind.slot.key = k)) :
    Backend.get (c.report world tick s).store b k = Backend.get s b k
  /-- Where it is not stored nothing changes. -/
  unstored (world : Nat → Command.Surroundings) (tick : Nat)
      (h : (c.report world tick s).result.isOk = false) : (c.report world tick s).store = s

/-- **A record is what is read from the slot that holds it**, as it was written.  Reading it takes
one tick and leaves no trace. -/
theorem report_read_of_holds {kind : RecordKind} {v : kind.Value} {s : σ}
    (h : kind.slot.Holds v s) (world : Nat → Command.Surroundings) (tick : Nat) :
    kind.read.report world tick s = ⟨.ok (kind.found (kind.asWritten v)), s, [], tick + 1⟩ := by
  rw [← lawful_asWritten]
  cases kind with
  | settings => exact Command.report_loadRecord_getD h {} world tick
  | credentials =>
    have hrecord : Slot.credentials.record s = .ok (some (LawfulRecord.asWritten v)) := h.record
    have hstored : CredentialList.stored s = .ok (LawfulRecord.asWritten v) := by
      rw [CredentialList.stored, hrecord]
      rfl
    change (Command.viewed Command.loadCredentials).report world tick s = _
    rw [Command.report_viewed, Transaction.view, Command.run_loadCredentials, hstored]
    rfl
  | notebooks => exact Command.report_loadRecord_of_holds h world tick
  | search => exact Command.report_loadRecord_getD h [] world tick
  | recovery => exact Command.report_loadRecord_of_holds h world tick

theorem readsBack_of_puts {kind : RecordKind} {v : kind.Value} {c : Command α} {s : σ}
    (h : c.Puts kind.slot (Record.encode v) s) : ReadsBack kind v c s := by
  have hstored (world : Nat → Command.Surroundings) (tick : Nat) :
      (c.report world tick s).result.isOk = true ↔ (world tick).fault = .none := by
    by_cases hfault : (world tick).fault = .none
    · simp [hfault, (h.written world tick hfault).1]
    · simp [hfault, (h.unwritten world tick hfault).1]
  refine ⟨hstored, ?_, ?_, ?_⟩
  · intro world tick hok world' tick'
    obtain ⟨-, hsets⟩ := h.written world tick ((hstored world tick).1 hok)
    exact report_read_of_holds hsets.holds world' tick'
  · intro world tick b k hother
    by_cases hfault : (world tick).fault = .none
    · obtain ⟨-, hsets⟩ := h.written world tick hfault
      rw [hsets.get, if_neg hother]
    · rw [(h.unwritten world tick hfault).2]
  · intro world tick hnot
    refine (h.unwritten world tick ?_).2
    intro hfault
    rw [(hstored world tick).2 hfault] at hnot
    cases hnot

variable [LawfulBackend σ]

theorem Storing.puts {kind : RecordKind} {v : kind.Value} {c : Command α} {s : σ}
    (h : Storing kind v c s) : c.Puts kind.slot (Record.encode v) s := by
  cases h with
  | settings => exact Command.puts_storeRecord .settings _ s
  | credentials => exact Command.puts_storeRecord .credentials _ s
  | changed hstored hchange => exact Command.puts_changeCredentials hstored hchange
  | notebooks => exact Command.puts_storeRecord .notebooks _ s
  | search => exact Command.puts_storeRecord .search _ s
  | recovery => exact Command.puts_storeRecord .recovery _ s

/-- **Every record reads back as it was written**, whatever the store held before, and all else in
the store stays as it is.  And a record that was read from any text is written as it is, so that it
reads back unchanged from its own. -/
theorem reads_back_as_stored (kind : RecordKind) (v : kind.Value) :
    (∀ (α : Type) (c : Command α) (s : σ), Storing kind v c s → ReadsBack kind v c s)
    ∧ ∀ text : Bytes, (Record.decode? text : Option kind.Value) = some v →
      kind.asWritten v = v ∧ (Record.decode? (Record.encode v) : Option kind.Value) = some v := by
  refine ⟨fun _ _ _ h => readsBack_of_puts h.puts, fun text htext => ?_⟩
  have hwritten : LawfulRecord.asWritten v = v := Record.asWritten_of_decode? htext
  have hagain : (Record.decode? (Record.encode v) : Option kind.Value)
      = some (LawfulRecord.asWritten v) := Record.decode?_encode v
  exact ⟨(lawful_asWritten kind v).symm.trans hwritten, hagain.trans (congrArg some hwritten)⟩

end RecordKind

namespace Sample

/-- Half a second into the leap second at the end of June 2015. -/
def endOfJune : Timestamp :=
  (Timestamp.of? ⟨2015, 6, 30, by decide, by decide, by decide⟩ 23 59 60 500000000).get rfl

/-- A note that was created then, with all there is to a note. -/
def filed : Note where
  title := "Foo"
  guid := "n-1"
  body := "a &lt; b"
  md := "a < b"
  mdHash := some ⟨List.replicate 32 7, rfl⟩
  notebook := some { name := "Work", guid := "nb-1" }
  created := some endOfJune
  updated := some .epoch

/-- The text of this note with the fields in another order and the times in other zones. -/
def filedText : Bytes := Utf8.encode (Json.record [
  ("created", .text "2015-07-01 01:59:60.5+02:00"), ("updated", .text "1969-12-31T23:00:00-01:00"),
  ("title", .text "Foo"), ("guid", .text "n-1"), ("body", .text "a &lt; b"), ("md", .text "a < b"),
  ("md_hash", .array (List.replicate 32 (.natural 7))),
  ("notebook", .record [("name", .text "Work"), ("guid", .text "nb-1")])]).write

/-- A note that was created in a leap second that ends no minute. -/
def strayNote : Note := { title := "Foo", guid := "n-1", created := some strayLeap }

/-- A store with a recovery point that nothing can be read from. -/
def garbledPoint : Tables :=
  Backend.plant ⟨[], []⟩ Slot.recovery.bucket Slot.recovery.key (Utf8.ofString "not a record")

/-- A store with a credential list that nothing can be read from. -/
def garbledList : Tables :=
  Backend.plant ⟨[], []⟩ Slot.credentials.bucket Slot.credentials.key (Utf8.ofString "no list")

end Sample

/-- A note takes the place of what nothing could be read from.  It is also what a text of another
writer decodes to, with its fields in another order and its times in other zones, and it reads back
from its own text. -/
theorem filed_reads_back :
    RecordKind.ReadsBack .recovery Sample.filed (Command.storeRecoveryPoint Sample.filed)
        Sample.garbledPoint
      ∧ RecordKind.asWritten .recovery Sample.filed = Sample.filed
      ∧ Record.decode? (Record.encode Sample.filed) = some Sample.filed := by
  obtain ⟨hback, hagain⟩ :=
    RecordKind.reads_back_as_stored (σ := Tables) .recovery Sample.filed
  have htext : Record.decode? Sample.filedText = some Sample.filed := by
    decide +kernel
  exact ⟨hback Unit _ _ (.recovery _ _), hagain _ htext⟩

/-- **Not every record reads back as it was stored.**  A note that was created in a stray leap
second reads back as one created in the second after; and a list that nothing can be read from
does not give way to a new one when a credential is added. -/
theorem stray_leap_reads_back_later :
    ((Command.storeRecoveryPoint Sample.strayNote).report (fun _ => Sample.calm) 0
        Sample.garbledPoint).result = .ok ()
      ∧ (Command.recoveryPoint.report (fun _ => Sample.calm) 1
          ((Command.storeRecoveryPoint Sample.strayNote).report (fun _ => Sample.calm) 0
            Sample.garbledPoint).store).result = .ok (some Sample.strayNote.asWritten)
      ∧ Sample.strayNote.asWritten ≠ Sample.strayNote
      ∧ ((Command.addCredential { name := "A", secret := "a" }).report (fun _ => Sample.calm) 0
          Sample.garbledList).result
        = .error (Slot.credentials.corrupt "not a record of this kind") := by
  have hback : RecordKind.ReadsBack .recovery Sample.strayNote
      (Command.storeRecoveryPoint Sample.strayNote) Sample.garbledPoint :=
    RecordKind.readsBack_of_puts (RecordKind.Storing.recovery _ _).puts
  have hread := hback.read (fun _ => Sample.calm) 0 rfl (fun _ => Sample.calm) 1
  exact ⟨rfl, congrArg Command.Report.result hread, by decide, rfl⟩

end Notekeeper
