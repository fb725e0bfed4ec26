import Notekeeper.Proofs.Command.Conduct
import Notekeeper.Proofs.Recovery.Edit

/-!
# Loading the note to edit

An edit starts from a note that it loads, and it can load one in two ways.  With recovery it takes
the note in the recovery slot, if there is one that the remote service knows: a note without an
identifier was never there, and cannot be sent for an update.  Without recovery it takes the note
that its title names: the note is looked up, its content is fetched and taken out of the envelope,
and the markdown is made of the body.

`Edit.Loads` lists what either way takes, as conditions on the store, on the answers of the service
and on the codec, without a mention of how the program goes about it.  That the two agree is shown
for each way by itself: reading the slot is reading a record (`report_loadRecord`), and the other
way is four steps, each of which may fail, so that its result is the results of these one after the
other.

The lookup is left as it is.  How a title names a note, by an ordinal or by a search, is not the
concern of an edit, and other modules tell it.

* `Edit.Loads` : the two ways in which a note is loaded.
* `Edit.result_noteToRecover`, `Edit.result_noteWithContent` : what each of them gives.
* `Edit.loading_eq_ok_iff` : there are no others.
-/

namespace Notekeeper

open Command

variable {σ : Type} [Backend σ]

namespace Edit

/-- The report of looking up the note that the title names, without its content. -/
def lookup (world : Nat → Surroundings) (e : Edit σ) : Report σ Note :=
  (note e.client.config e.title none).report world e.tick e.store

/-- **What it takes to load a note.**  The conditions are on the store, the answers of the service
and the codec. -/
inductive Loads (world : Nat → Surroundings) (e : Edit σ) : Note → Prop
  /-- The recovery point is a note that the remote service knows. -/
  | recovered {loaded : Note} (hrecover : e.opts.recover = true)
      (hbucket : Backend.hasBucket e.store Slot.recovery.bucket = true)
      (hrecord : Slot.recovery.record e.store = .ok (some loaded)) (hguid : loaded.guid ≠ "") :
    Loads world e loaded
  /-- The note is found, its content is fetched, and both forms of it are made. -/
  | fetched {found : Note} {content body md : String} (hrecover : e.opts.recover = false)
      (hfound : (e.lookup world).result = .ok found)
      (hcontent : (world (e.lookup world).tick).remote (.noteContent found.guid) = .ok content)
      (hbody : Envelope.unwrap content = .ok body)
      (hmd : e.client.codec.toMarkdown body = .ok md) :
    Loads world e { found with body, md }

variable {world : Nat → Surroundings}

/-- The recovery point is loaded if there is one, and the remote service knows it. -/
theorem result_noteToRecover (world : Nat → Surroundings) (tick : Nat) (s : σ) (loaded : Note) :
    (noteToRecover.report world tick s).result = .ok loaded
      ↔ Backend.hasBucket s Slot.recovery.bucket = true
        ∧ Slot.recovery.record s = .ok (some loaded) ∧ loaded.guid ≠ "" := by
  unfold noteToRecover recoveryPoint
  rw [report_bind, Report.result_andThen]
  cases hb : Backend.hasBucket s Slot.recovery.bucket with
  | true =>
    rw [report_loadRecord hb]
    rcases hrecord : (Slot.recovery.record s : Except Error (Option Note)) with e | _ | note
    · simp [Except.bind]
    · simp [Except.bind, report_fail]
    · by_cases hguid : note.guid = ""
      · have hnone : (some note).filter (·.guid ≠ "") = none := by simp [hguid]
        simp only [Except.bind, hnone, report_fail]
        simp only [reduceCtorEq, Except.ok.injEq, Option.some.injEq, true_and, false_iff]
        rintro ⟨rfl, hknown⟩
        exact hknown hguid
      · have hsome : (some note).filter (·.guid ≠ "") = some note := by simp [hguid]
        simp only [Except.bind, hsome, report_pure]
        simp only [Except.ok.injEq, Option.some.injEq, true_and]
        constructor
        · rintro rfl
          exact ⟨rfl, hguid⟩
        · exact fun h => h.1
  | false =>
    rw [report_loadRecord_of_not_hasBucket hb, Report.result_andThen]
    cases ((updated (.perform (.createBucket Slot.recovery.bucket))).report world (tick + 1)
      s).result <;> simp [Except.bind, report_fail]

/-- A note with its content takes a lookup, a fetch and two readings. -/
theorem result_noteWithContent (codec : Codec) (config : Config) (title : String)
    (world : Nat → Surroundings) (tick : Nat) (s : σ) :
    let lookup := (note config title none).report world tick s
    ((noteWithContent codec config title).report world tick s).result
      = lookup.result.bind fun found =>
        ((world lookup.tick).remote (.noteContent found.guid)).bind fun content =>
          (Envelope.unwrap content).bind fun body =>
            (codec.toMarkdown body).map fun md => { found with body, md } := by
  intro lookup
  unfold noteWithContent
  simp only [report_bind, Report.result_andThen]
  rfl

variable {e : Edit σ}

theorem loading_of_recover (h : e.opts.recover = true) :
    e.loading world = noteToRecover.report world e.tick e.store := by
  rw [loading, noteToEdit, h, if_pos rfl]

theorem loading_of_not_recover (h : e.opts.recover = false) : e.loading world
    = (noteWithContent e.client.codec e.client.config e.title).report world e.tick e.store := by
  rw [loading, noteToEdit, h, if_neg Bool.false_ne_true]

/-- **An edit loads a note in one of the two ways**, or fails. -/
theorem loading_eq_ok_iff (world : Nat → Surroundings) (e : Edit σ) (loaded : Note) :
    (e.loading world).result = .ok loaded ↔ e.Loads world loaded := by
  cases hrecover : e.opts.recover with
  | true =>
    rw [loading_of_recover hrecover, result_noteToRecover]
    constructor
    · rintro ⟨hbucket, hrecord, hguid⟩
      exact .recovered hrecover hbucket hrecord hguid
    · intro h
      cases h with
      | recovered _ hbucket hrecord hguid => exact ⟨hbucket, hrecord, hguid⟩
      | fetched hnot _ _ _ _ => exact absurd (hnot.symm.trans hrecover) nofun
  | false =>
    rw [loading_of_not_recover hrecover, result_noteWithContent]
    constructor
    · intro h
      obtain ⟨found, hfound, h⟩ := bind_eq_ok_iff.1 h
      obtain ⟨content, hcontent, h⟩ := bind_eq_ok_iff.1 h
      obtain ⟨body, hbody, h⟩ := bind_eq_ok_iff.1 h
      obtain ⟨md, hmd, rfl⟩ := map_eq_ok_iff.1 h
      exact .fetched hrecover hfound hcontent hbody hmd
    · intro h
      cases h with
      | recovered hnot _ _ _ => exact absurd (hnot.symm.trans hrecover) nofun
      | fetched _ hfound hcontent hbody hmd =>
        exact bind_eq_ok_iff.2 ⟨_, hfound, bind_eq_ok_iff.2 ⟨_, hcontent,
          bind_eq_ok_iff.2 ⟨_, hbody, map_eq_ok_iff.2 ⟨_, hmd, rfl⟩⟩⟩⟩

end Edit
end Notekeeper
