import Notekeeper.Markdown
import Notekeeper.Proofs.Editing.Acting
import Notekeeper.Proofs.Markup.Envelope
import Notekeeper.Proofs.Markup.PlainText

/-!
# Editing markup itself

An edit in raw mode shows the markup of a note, which is what its envelope holds, and it sends what
comes back without rendering it.  So the codec should not matter to it.  But loading the note also
makes its markdown, whatever the mode is, and where that fails there is no note to edit.

With the codec for plain text it fails at a tag that never ends (`Markup/PlainText`), and a sign of
comparison in running text is enough of a tag for this.  The note cannot then be edited in either
mode, and so the markup cannot be mended with the mode that is meant for it.

The statement says which of the two happens, for every body: if no tag is left open, the markup is
shown as it is, and if one is, nothing is shown and the edit ends in the error about it.  Of the
codec it needs no more than that markdown is made as for plain text.

* `Edit.EditsMarkup` : an edit of the markup of a note.
* `Edit.EditsMarkup.result_loading` : what loading the note comes to.
* `Edit.raw_shown` : which markup is shown, and what becomes of the rest.
-/

namespace Notekeeper

open Command

variable {σ : Type} [Backend σ]

namespace Edit

/-- **An edit of the markup of a note** that is found, and whose content is fetched, by a client
whose markdown is the plain text of markup. -/
structure EditsMarkup (world : Nat → Surroundings) (e : Edit σ) (found : Note) (body : String) :
    Prop where
  codec : e.client.codec.toMarkdown = PlainText.read
  raw : e.opts.raw = true
  recover : e.opts.recover = false
  finds : (e.lookup world).result = .ok found
  fetches : (world (e.lookup world).tick).remote (.noteContent found.guid)
    = .ok (Envelope.wrap body)

variable {world : Nat → Surroundings} {e : Edit σ} {found : Note} {body : String}

/-- The note to edit is the one found, with its markup and the plain text of that. -/
theorem EditsMarkup.result_loading (h : e.EditsMarkup world found body) :
    (e.loading world).result = (PlainText.read body).map fun md => { found with body, md } := by
  rw [loading_of_not_recover h.recover, result_noteWithContent]
  change (e.lookup world).result.bind _ = _
  rw [h.finds]
  change ((world (e.lookup world).tick).remote (.noteContent found.guid)).bind _ = _
  rw [h.fetches]
  change (Envelope.unwrap (Envelope.wrap body)).bind _ = _
  rw [Envelope.unwrap_wrap, h.codec]
  rfl

/-- **Markup is shown as it is, unless it has a tag that never ends**: then the edit fails before
anything is shown.  One of the two is the case for every body. -/
theorem raw_shown [LawfulBackend σ] (h : e.EditsMarkup world found body) :
    (¬ PlainText.HasOpenTag body.toList →
      shownIn (e.report world).events = [(EditBuffer.mk found.title body).format])
    ∧ (PlainText.HasOpenTag body.toList → shownIn (e.report world).events = []
      ∧ (e.report world).result = .error PlainText.unterminated) := by
  have hloading := h.result_loading
  constructor
  · intro hclosed
    cases hread : PlainText.read body with
    | error err => exact absurd (PlainText.read_eq_error_iff.1 hread).2 hclosed
    | ok md =>
      rw [hread] at hloading
      have hshown := shownIn_of_loaded hloading
      rw [hshown, h.raw]
      rfl
  · intro hopen
    rw [PlainText.read_eq_error_iff.2 ⟨rfl, hopen⟩] at hloading
    obtain ⟨hevents, -, hresult⟩ := report_of_not_loaded hloading
    exact ⟨shownIn_report hevents, hresult⟩

end Edit

namespace Sample

/-- Surroundings with one note, whose markup says that a is less than b. -/
def comparing : Surroundings where
  remote
    | .findNotes _ _ _ => .ok [{ title := "Foo", guid := "n-1" }]
    | .noteContent _ => .ok (Envelope.wrap "a < b")
    | _ => .error refusal
  editor := .ok
  fault := .none
  now := .epoch

/-- An edit of this markup. -/
def rawEdit : Edit Buckets := ⟨⟨{}, {}, .plainText⟩, "Foo", { raw := true }, 0, ⟨[]⟩⟩

theorem editsMarkup_rawEdit : rawEdit.EditsMarkup (fun _ => comparing)
    { title := "Foo", guid := "n-1" } "a < b" :=
  ⟨rfl, rfl, rfl, rfl, rfl⟩

theorem hasOpenTag_less : PlainText.HasOpenTag "a < b".toList :=
  ⟨"a ".toList, " b".toList, by decide, by decide⟩

end Sample

/-- Markup that says that a is less than b is not shown, although no markdown was asked for. -/
theorem Edit.raw_shown_less :
    Sample.rawEdit.EditsMarkup (fun _ => Sample.comparing) { title := "Foo", guid := "n-1" } "a < b"
    ∧ shownIn (Sample.rawEdit.report fun _ => Sample.comparing).events = []
    ∧ (Sample.rawEdit.report fun _ => Sample.comparing).result
      = .error (.markup "unterminated tag") := by
  obtain ⟨hshown, hresult⟩ := (Edit.raw_shown Sample.editsMarkup_rawEdit).2 Sample.hasOpenTag_less
  exact ⟨Sample.editsMarkup_rawEdit, hshown, hresult⟩

end Notekeeper
