import Notekeeper.Credential
import Notekeeper.Note
import Notekeeper.Notebook.Cache
import Notekeeper.Proofs.Json
import Notekeeper.Proofs.Text.Utf8
import Notekeeper.Proofs.Time.Rfc3339

/-!
# Records read back

A record that is stored reads back as it was written, for its JSON form tells it in full.  There is
one exception to this, and it has to do with time: a leap second that ends no minute has no text of
its own, and reads back as the second after.

So each kind of record comes with what is written of a value, `LawfulRecord.asWritten`.  It is the
value itself for all records without timestamps, and puts `Timestamp.asWritten` on the timestamps
of the others.  Three laws tie it to the JSON form.  A value and what is written of it have the same
form, the form of a value reads as what is written of it, and whatever can be read at all is written
as it is.  From these three it follows for every record that what is stored reads back as written,
and that a value which was read from any text, however that was laid out, is stored and read without
loss.  Records that consist of others, in lists or in fields that may be missing, inherit the laws
from their parts.

* `LawfulRecord` : what there is to show of each kind of record.
* `ExactRecord` : records of which every value is written as it is.
* `Record.decode?_encode`, `Record.asWritten_of_decode?` : what follows for all of them.
* `Note.asWritten_eq_self_iff` : which notes read back exactly.
-/

namespace Notekeeper

/-- **A record that its JSON form tells in full**, but for how its timestamps are written.  What was
read from any JSON is written as it is. -/
class LawfulRecord (α : Type) [Record α] where
  /-- A value with its timestamps as they are written. -/
  asWritten : α → α := id
  plain_toJson : ∀ a : α, (Record.toJson a).Plain
  toJson_ne_null : ∀ a : α, Record.toJson a ≠ .null
  /-- The JSON form does not tell a value from what is written of it. -/
  toJson_asWritten : ∀ a : α, Record.toJson (asWritten a) = Record.toJson a := by
    exact fun _ => rfl
  ofJson?_toJson : ∀ a : α, Record.ofJson? (Record.toJson a) = some (asWritten a)
  /-- What is read was never anything but what is written of it. -/
  asWritten_of_ofJson? : ∀ (j : Json) (a : α), Record.ofJson? j = some a → asWritten a = a := by
    exact fun _ _ _ => rfl

/-- **A record without timestamps**: all of it is written as it is, so it reads back unchanged. -/
class ExactRecord (α : Type) [Record α] [LawfulRecord α] : Prop where
  asWritten_eq : ∀ a : α, LawfulRecord.asWritten a = a

namespace Record

open LawfulRecord (asWritten)

attribute [simp] ExactRecord.asWritten_eq

variable {α : Type} [Record α] [LawfulRecord α]

/-- **What is stored reads back** as it was written.  For most values this is the value itself. -/
theorem decode?_encode (a : α) : decode? (encode a) = some (asWritten a) := by
  rw [decode?, encode, Utf8.symbols_encode, write,
    Json.parse?_write (LawfulRecord.plain_toJson a), Option.bind_some,
    LawfulRecord.ofJson?_toJson]

/-- A value and what is written of it have the same bytes. -/
@[simp] theorem encode_asWritten (a : α) : encode (asWritten a) = encode a := by
  rw [encode, write, LawfulRecord.toJson_asWritten, encode, write]

/-- **A value that any bytes decode to is written as it is**, and so reads back unchanged. -/
theorem asWritten_of_decode? {bs : Bytes} {a : α} (h : decode? bs = some a) :
    asWritten a = a := by
  obtain ⟨j, -, hj⟩ := Option.bind_eq_some_iff.1 h
  exact LawfulRecord.asWritten_of_ofJson? j a hj

@[simp] theorem asWritten_asWritten (a : α) : asWritten (asWritten a) = asWritten a :=
  asWritten_of_decode? (decode?_encode a)

instance : LawfulRecord Timestamp where
  asWritten := Timestamp.asWritten
  plain_toJson _ := .text _
  toJson_ne_null _ := Json.noConfusion
  toJson_asWritten t := by simp only [toJson, Timestamp.write_asWritten]
  ofJson?_toJson t := by
    simp [toJson, ofJson?, Json.string?, Timestamp.read?_write]
  asWritten_of_ofJson? j t h := by
    obtain ⟨text, -, hread⟩ := Option.bind_eq_some_iff.1 h
    exact Timestamp.asWritten_of_read? hread

theorem mapM_ofJson? (as : List α) :
    (as.map toJson).mapM ofJson? = some (as.map asWritten) := by
  induction as with
  | nil => rfl
  | cons a as ih => simp [List.mapM_cons, LawfulRecord.ofJson?_toJson, ih]

theorem map_asWritten_of_mapM {js : List Json} {as : List α} (h : js.mapM ofJson? = some as) :
    as.map asWritten = as := by
  induction js generalizing as with
  | nil => cases h; rfl
  | cons j js ih =>
    simp only [List.mapM_cons, Option.pure_def, Option.bind_eq_bind, Option.bind_eq_some_iff,
      Option.some.injEq] at h
    obtain ⟨a, ha, as', has', rfl⟩ := h
    rw [List.map_cons, LawfulRecord.asWritten_of_ofJson? j a ha, ih has']

instance : LawfulRecord (List α) where
  asWritten := List.map asWritten
  plain_toJson as := by
    refine .array fun j hj => ?_
    obtain ⟨a, -, rfl⟩ := List.mem_map.1 hj
    exact LawfulRecord.plain_toJson a
  toJson_ne_null _ := Json.noConfusion
  toJson_asWritten as := by
    simp only [toJson, List.map_map, Function.comp_def, LawfulRecord.toJson_asWritten]
  ofJson?_toJson as := mapM_ofJson? as
  asWritten_of_ofJson? j as h := by
    cases j with
    | array js => exact map_asWritten_of_mapM h
    | _ => cases h

instance [ExactRecord α] : ExactRecord (List α) where
  asWritten_eq as := (List.map_congr_left fun a _ => ExactRecord.asWritten_eq a).trans as.map_id

theorem plain_option (o : Option α) : (toJson o).Plain := by
  cases o with
  | none => exact .null
  | some a => exact LawfulRecord.plain_toJson a

theorem toJson_option (o : Option α) : toJson (o.map asWritten) = toJson o := by
  cases o with
  | none => rfl
  | some a => exact LawfulRecord.toJson_asWritten a

theorem ofJson?_option (o : Option α) : ofJson? (toJson o) = some (o.map asWritten) := by
  cases o with
  | none => rfl
  | some a =>
    have hne := LawfulRecord.toJson_ne_null a
    have ha := LawfulRecord.ofJson?_toJson a
    change Json.nullable? ofJson? (toJson a) = some (some (asWritten a))
    unfold Json.nullable?
    split
    · next h => exact absurd h hne
    · rw [ha]
      rfl

theorem map_asWritten_of_option {j : Json} {o : Option α} (h : ofJson? j = some o) :
    o.map asWritten = o := by
  change Json.nullable? ofJson? j = some o at h
  unfold Json.nullable? at h
  split at h
  · cases h
    rfl
  · obtain ⟨a, ha, rfl⟩ := Option.map_eq_some_iff.1 h
    exact congrArg some (LawfulRecord.asWritten_of_ofJson? _ a ha)

/-- A field that may be missing. -/
theorem map_asWritten_of_optional {field : Option Json} {o : Option α}
    (h : Json.optional none ofJson? field = some o) : o.map asWritten = o := by
  cases field with
  | none =>
    cases h
    rfl
  | some j => exact map_asWritten_of_option h

/-- A field that must be there. -/
theorem asWritten_of_required {field : Option Json} {a : α}
    (h : Json.required ofJson? field = some a) : asWritten a = a := by
  cases field with
  | none => cases h
  | some j => exact LawfulRecord.asWritten_of_ofJson? j a h

@[simp] theorem map_asWritten [ExactRecord α] (o : Option α) : o.map asWritten = o := by
  cases o with
  | none => rfl
  | some a => exact congrArg some (ExactRecord.asWritten_eq a)

end Record

/-! ## Records of the store -/

instance : LawfulRecord Fingerprint where
  plain_toJson f := by
    refine .array fun j hj => ?_
    obtain ⟨b, -, rfl⟩ := List.mem_map.1 hj
    exact .natural _
  toJson_ne_null _ := Json.noConfusion
  ofJson?_toJson f := by
    have hbytes (bs : Bytes) : (bs.map fun b => Json.natural b.toNat).mapM (Json.below? 256)
        = some (bs.map UInt8.toNat) := by
      induction bs with
      | nil => rfl
      | cons b bs ih =>
        have hb : b.toNat < 256 := b.toNat_lt
        simp [List.mapM_cons, Json.below?, hb, ih]
    have hback : (f.bytes.map UInt8.toNat).map UInt8.ofNat = f.bytes := by
      simp [Function.comp_def]
    simp [Record.toJson, Record.ofJson?, Json.list?, hbytes, hback, Fingerprint.of?,
      f.length_bytes]

instance : ExactRecord Fingerprint := ⟨fun _ => rfl⟩

instance : LawfulRecord Notebook where
  plain_toJson nb := .object (by simp [Json.Plain.text])
  toJson_ne_null _ := Json.noConfusion
  ofJson?_toJson nb := by
    unfold Notebook.instRecord
    simp [Json.record, Json.fields?, Json.field?, Json.required, Json.optional, Json.string?]

instance : ExactRecord Notebook := ⟨fun _ => rfl⟩

/-- **A note with its timestamps as they are written**, and all else as it is. -/
def Note.asWritten (n : Note) : Note :=
  { n with created := n.created.map Timestamp.asWritten,
           updated := n.updated.map Timestamp.asWritten }

/-- A note is written as it is just when no leap second of its timestamps is a stray one. -/
theorem Note.asWritten_eq_self_iff {n : Note} : n.asWritten = n
    ↔ (∀ t ∈ n.created, t.LeapEndsMinute) ∧ ∀ t ∈ n.updated, t.LeapEndsMinute := by
  have hmap (o : Option Timestamp) :
      o.map Timestamp.asWritten = o ↔ ∀ t ∈ o, t.LeapEndsMinute := by
    cases o <;> simp [Timestamp.asWritten_eq_self_iff]
  rw [← hmap, ← hmap]
  cases n
  simp [Note.asWritten]

instance : LawfulRecord Note where
  asWritten := Note.asWritten
  plain_toJson n := .object (by simp [Json.Plain.text, Json.Plain.bool, Record.plain_option])
  toJson_ne_null _ := Json.noConfusion
  toJson_asWritten n := by
    have hcreated : Record.toJson (n.created.map Timestamp.asWritten) = Record.toJson n.created :=
      Record.toJson_option n.created
    have hupdated : Record.toJson (n.updated.map Timestamp.asWritten) = Record.toJson n.updated :=
      Record.toJson_option n.updated
    unfold Note.instRecord
    simp only [Note.asWritten]
    rw [hcreated, hupdated]
  ofJson?_toJson n := by
    unfold Note.instRecord
    simp [Json.record, Json.fields?, Json.field?, Json.required, Json.optional, Json.string?,
      Json.bool?, Record.ofJson?_option]
    rfl
  asWritten_of_ofJson? j n h := by
    obtain ⟨fields, -, h⟩ := Option.bind_eq_some_iff.1 h
    split at h
    · simp only [Option.bind_eq_bind, Option.bind_eq_some_iff, Option.some.injEq] at h
      obtain ⟨title, -, guid, -, body, -, md, -, mdHash, -, deleted, -, notebook, -, created,
        hcreated, updated, hupdated, rfl⟩ := h
      have hcreated' : created.map Timestamp.asWritten = created :=
        Record.map_asWritten_of_optional hcreated
      have hupdated' : updated.map Timestamp.asWritten = updated :=
        Record.map_asWritten_of_optional hupdated
      simp only [Note.asWritten, hcreated', hupdated']
    · cases h

instance : LawfulRecord Duration where
  plain_toJson d := .object (by simp [Json.Plain.natural])
  toJson_ne_null _ := Json.noConfusion
  ofJson?_toJson d := by
    obtain ⟨seconds, nanos, hn⟩ := d
    have hs : seconds.toNat < UInt64.size := seconds.toNat_lt
    have hn32 : nanos < UInt32.size := Nat.lt_trans hn (by decide)
    have hof : Duration.of? seconds.toNat nanos = some ⟨seconds, nanos, hn⟩ := by
      simp [Duration.of?, Nat.div_eq_of_lt hn, Nat.mod_eq_of_lt hn, hs]
    unfold Duration.instRecord
    simp [Json.record, Json.fields?, Json.field?, Json.required, Json.below?, hs, hn32, hof]

instance : ExactRecord Duration := ⟨fun _ => rfl⟩

/-- **A cached list with its timestamp as it is written.** -/
def NotebookCache.asWritten (c : NotebookCache) : NotebookCache :=
  { c with timestamp := c.timestamp.asWritten }

instance : LawfulRecord NotebookCache where
  asWritten := NotebookCache.asWritten
  plain_toJson c := .object (by simp [LawfulRecord.plain_toJson])
  toJson_ne_null _ := Json.noConfusion
  toJson_asWritten c := by
    have htimestamp : Record.toJson c.timestamp.asWritten = Record.toJson c.timestamp :=
      LawfulRecord.toJson_asWritten c.timestamp
    unfold NotebookCache.instRecord
    simp only [NotebookCache.asWritten]
    rw [htimestamp]
  ofJson?_toJson c := by
    unfold NotebookCache.instRecord
    simp [Json.record, Json.fields?, Json.field?, Json.required, LawfulRecord.ofJson?_toJson]
    rfl
  asWritten_of_ofJson? j c h := by
    obtain ⟨fields, -, h⟩ := Option.bind_eq_some_iff.1 h
    split at h
    · simp only [Option.bind_eq_bind, Option.bind_eq_some_iff, Option.some.injEq] at h
      obtain ⟨notebooks, -, timestamp, htimestamp, limit, -, rfl⟩ := h
      have htimestamp' : timestamp.asWritten = timestamp :=
        Record.asWritten_of_required htimestamp
      simp only [NotebookCache.asWritten, htimestamp']
    · cases h

instance : LawfulRecord CredentialType where
  plain_toJson t := .text _
  toJson_ne_null _ := Json.noConfusion
  ofJson?_toJson t := by cases t <;> decide

instance : ExactRecord CredentialType := ⟨fun _ => rfl⟩

instance : LawfulRecord Credential where
  plain_toJson c := .object (by simp [Json.Plain.text, LawfulRecord.plain_toJson])
  toJson_ne_null _ := Json.noConfusion
  ofJson?_toJson c := by
    unfold instRecordCredential
    simp [Json.record, Json.fields?, Json.field?, Json.required, Json.optional, Json.string?,
      LawfulRecord.ofJson?_toJson]

instance : ExactRecord Credential := ⟨fun _ => rfl⟩

end Notekeeper
