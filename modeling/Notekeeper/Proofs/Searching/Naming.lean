import Notekeeper.Proofs.Command.Calling
import Notekeeper.Proofs.Searching.Ordinal
import Notekeeper.Proofs.Searching.Title

/-!
# Which titles are ordinals

A title that is the numeral of a place in the saved search names the note there, and nothing is
asked.  Every other title is looked for among the notes that contain its words: zero, a number past
the end, one too large for 64 bits, and whatever else is no numeral.

The numerals are those of unsigned numbers: one plus sign or none, and digits, with as many zeros in
front as there may be.  That reading such a text gives its number, and that nothing else can be
read, is shown in `Text/Numeral` for numerals of any length; the bound of 64 bits is no bound on the
length, as zeros count for nothing.  A number that is too large is read as none.  It could not be a
place in a list that was saved either, so the two cases need not be told apart.

A lookup takes the title for an ordinal first, and that is all it does if there is such a place.
Otherwise it finds out the notebook that narrows the search, searches once for the words of the
title, and takes the first note on the page with exactly this title.  If the notebook is not found,
it fails before it searches.  Taking the title for an ordinal and looking for a notebook are no
searches, so one search is the most that others see.

* `PlaceIn` : the titles that are ordinals.
* `Lookup.Sought` : what a lookup does with any other title.
* `Lookup.NamedWithin` : which note a title names.
* `Lookup.namedWithin_of_found` : a lookup tells the two apart.
-/

namespace Notekeeper

open Command

/-! ## 1. Searches that others see

A search is told with its filter, its page and its answer, so that it can be said what was searched
for, and that nothing else was. -/

/-- **A search**, and its answer. -/
structure Search where
  filter : NoteFilter
  offset : Nat
  count : Nat
  answer : Except Error (List Note)

namespace Command

/-- The search that an event shows. -/
def Event.search? : Event → Option Search
  | .called (.findNotes filter offset count) answer => some ⟨filter, offset, count, answer⟩
  | _ => none

namespace Report

variable {σ α : Type}

/-- The searches that a report shows. -/
def searches (r : Report σ α) : List Search := r.events.filterMap Event.search?

theorem searches_after {effects : List Effect} (r : Report σ α)
    (h : (effects.filterMap Effect.event?).filterMap Event.search? = []) :
    (r.after effects).searches = r.searches := by
  rw [searches, events_after, List.filterMap_append, h, List.nil_append, ← searches]

/-- Where a search is shown, others see something. -/
theorem events_ne_nil_of_searches {r : Report σ α} (h : r.searches ≠ []) : r.events ≠ [] := by
  intro hnone
  rw [searches, hnone] at h
  exact h rfl

end Report

variable {σ : Type} [Backend σ]

/-- Finding out which notebook narrows a search is no search. -/
theorem searches_narrowing [LawfulBackend σ] (config : Config) (within : Option String)
    (world : Nat → Surroundings) (tick : Nat) (s : σ) :
    ((narrowing config within).report world tick s).searches = [] := by
  have hseeks : SeeksNotebooks (Effect.Hidden Event.search?) := .of_hidden fun _ => rfl
  exact (keepsTo_narrowing hseeks config within).filterMap_events_eq_nil world tick s

/-- Nor is taking a title for an ordinal. -/
theorem searches_noteByOrdinal (title : String) (world : Nat → Surroundings) (tick : Nat) (s : σ) :
    ((noteByOrdinal title).report world tick s).searches = [] := by
  have hbucket : Effect.Hidden Event.search? (.wrote (.createBucket Slot.search.bucket)) := rfl
  exact (keepsTo_noteByOrdinal hbucket title).filterMap_events_eq_nil world tick s

end Command

/-! ## 2. Ordinals and titles

The saved search comes in by its length alone.  What a numeral beyond it names depends on the
service and no longer on the store. -/

/-- **Whether a title is an ordinal**: the numeral of a place among so many notes, counted from
one. -/
structure PlaceIn (size : Nat) (title : String) (n : Nat) : Prop where
  numeral : Text.Numeral title.toList n
  least : 1 ≤ n
  most : n ≤ size

variable {σ : Type} [Backend σ] {world : Nat → Surroundings}

namespace Lookup

/-- The report of finding out which notebook narrows a lookup that goes by title. -/
def narrowed (world : Nat → Surroundings) (l : Lookup σ) : Report σ String :=
  (narrowing l.client.config l.within).report world (l.numbered world).tick
    (l.numbered world).store

/-- **What a lookup does with a title that is no ordinal.** -/
inductive Sought (world : Nat → Surroundings) (l : Lookup σ) : Prop
  /-- One page is searched, for the words of the title, and the first note on it with exactly this
  title is the one. -/
  | searched {guid : String} {answer : Except Error (List Note)}
      (hguid : (l.narrowed world).result = .ok guid)
      (hsearches : (l.report world).searches = [
        { filter := { notebookGuid := guid, words := l.title }, offset := 0,
          count := l.client.config.searchPageSize.toNat, answer }])
      (hresult : (l.report world).result = answer.bind (pickTitled l.title))
  /-- The notebook that was given is not found, and nothing is searched. -/
  | lost {name : String} {e : Error} (hwithin : l.within = some name) (hname : name ≠ "")
      (hlost : ((findNotebook l.client.config name).report world (l.numbered world).tick
        (l.numbered world).store).result = .error e)
      (hsearches : (l.report world).searches = [])
      (hresult : (l.report world).result = .error e)

/-- **Which note a title names**, where the saved search has these notes.  The first two fields are
about ordinals, and the others about all other titles. -/
structure NamedWithin (world : Nat → Surroundings) (l : Lookup σ) (found : List Note) : Prop where
  /-- An ordinal names the note at its place, and nothing else is asked, looked up or written. -/
  of_place (n : Nat) (h : PlaceIn found.length l.title n) : ∃ note, found[n - 1]? = some note
    ∧ l.report world = ⟨.ok note, l.store, [], l.tick + 1⟩
  /-- Only an ordinal names a note without a call. -/
  uncalled_iff : (∃ note, (l.report world).result = .ok note ∧ (l.report world).events = [])
    ↔ ∃ n, PlaceIn found.length l.title n
  /-- Every other title is looked for. -/
  sought (h : ∀ n, ¬ PlaceIn found.length l.title n) : l.Sought world
  /-- And then it is the title of the note that it names. -/
  titled (h : ∀ n, ¬ PlaceIn found.length l.title n) (note : Note)
    (hnote : (l.report world).result = .ok note) : note.title = l.title

theorem Sought.title_eq {l : Lookup σ} (h : l.Sought world) {note : Note}
    (hnote : (l.report world).result = .ok note) : note.title = l.title := by
  cases h with
  | searched _ _ hresult =>
    obtain ⟨notes, -, hpick⟩ := bind_eq_ok_iff.1 (hresult.symm.trans hnote)
    have hmatch := List.find?_some (find?_of_pickTitled hpick)
    exact of_decide_eq_true hmatch
  | lost _ _ _ _ hresult => cases hresult.symm.trans hnote

/-- A note that was looked for is not named without a call. -/
theorem Sought.events_ne_nil {l : Lookup σ} (h : l.Sought world) {note : Note}
    (hnote : (l.report world).result = .ok note) : (l.report world).events ≠ [] := by
  cases h with
  | searched _ hsearches _ =>
    refine Report.events_ne_nil_of_searches ?_
    rw [hsearches]
    exact List.cons_ne_nil _ _
  | lost _ _ _ _ hresult => cases hresult.symm.trans hnote

/-- A title that is no ordinal is looked for in the notebook that was given. -/
theorem report_of_numbered_none {l : Lookup σ} (h : (l.numbered world).result = .ok none) :
    l.report world = ((l.narrowed world).andThen fun guid tick s =>
      (titledNote l.client.config l.title guid).report world tick s).after
        (l.numbered world).journal := by
  change (note l.client.config l.title l.within).report world l.tick l.store = _
  unfold note
  rw [report_bind]
  change (l.numbered world).andThen _ = _
  rw [Report.andThen_of_ok h]
  change ((noteByTitle l.client.config l.title l.within).report world _ _).after _ = _
  rw [noteByTitle_eq, report_bind]
  rfl

/-- A notebook that narrows no search is one that was given and not found. -/
theorem exists_of_narrowed_error {l : Lookup σ} {e : Error}
    (h : (l.narrowed world).result = .error e) :
    ∃ name, l.within = some name ∧ name ≠ ""
      ∧ ((findNotebook l.client.config name).report world (l.numbered world).tick
        (l.numbered world).store).result = .error e := by
  unfold narrowed narrowing at h
  split at h
  · next name hfilter =>
    obtain ⟨hwithin, hname⟩ := Option.filter_eq_some_iff.1 hfilter
    refine ⟨name, hwithin, of_decide_eq_true hname, ?_⟩
    rw [report_bind, Report.result_andThen] at h
    cases hresult : ((findNotebook l.client.config name).report world (l.numbered world).tick
        (l.numbered world).store).result with
    | error e' =>
      rw [hresult] at h
      cases h
      rfl
    | ok nb =>
      rw [hresult] at h
      cases h
  · cases h

variable [LawfulBackend σ]

/-- **A title that is no ordinal is looked for.** -/
theorem sought_of_numbered_none {l : Lookup σ} (h : (l.numbered world).result = .ok none) :
    l.Sought world := by
  have hreport := report_of_numbered_none h
  have hnumbered : (l.numbered world).searches = [] :=
    searches_noteByOrdinal l.title world l.tick l.store
  have hnarrowed : (l.narrowed world).searches = [] :=
    searches_narrowing l.client.config l.within world _ _
  cases hresult : (l.narrowed world).result with
  | error e =>
    obtain ⟨name, hwithin, hname, hlost⟩ := exists_of_narrowed_error hresult
    rw [Report.andThen_of_error hresult] at hreport
    refine .lost hwithin hname hlost ?_ ?_
    · rw [hreport, Report.searches_after _ hnumbered]
      exact hnarrowed
    · rw [hreport]
      rfl
  | ok guid =>
    let page := l.client.config.searchPageSize.toNat
    let filter : NoteFilter := { notebookGuid := guid, words := l.title }
    let answer := (world (l.narrowed world).tick).remote (.findNotes filter 0 page)
    rw [Report.andThen_of_ok hresult, report_titledNote] at hreport
    have hsearches : (l.report world).searches
        = [{ filter, offset := 0, count := page, answer }] := by
      rw [hreport, Report.searches_after _ hnumbered, Report.searches_after _ hnarrowed]
      rfl
    have hnote : (l.report world).result = answer.bind (pickTitled l.title) := by
      rw [hreport]
      rfl
    exact .searched hresult hsearches hnote

/-- **Which titles are ordinals.**  Where the saved search can be read, a title names a note of it
just when the title is the numeral of a place there, with a plus sign or without and with any number
of zeros in front.  Every other title takes one search for its words, in the notebook that was given
if that is found, and the note that it names has exactly this title. -/
theorem namedWithin_of_found {l : Lookup σ} {found : List Note} {size : UInt64}
    (hfound : (lastSearch.report world l.tick l.store).result = .ok found)
    (hsize : found.length = size.toNat) : l.NamedWithin world found := by
  have hplace : ∀ n, PlaceIn found.length l.title n → ∃ note, found[n - 1]? = some note
      ∧ l.report world = ⟨.ok note, l.store, [], l.tick + 1⟩ := by
    rintro n ⟨hnumeral, hleast, hmost⟩
    have hne : found ≠ [] := List.ne_nil_of_length_pos (by omega)
    obtain ⟨hbucket, hrecord⟩ := record_of_lastSearch hfound hne
    have hword : n < Text.wordBound := by
      have : size.toNat < Text.wordBound := size.toNat_lt
      omega
    have hordinal : ordinal? l.title = some n := ordinal?_eq_some_iff.2 ⟨hnumeral, hword, hleast⟩
    exact ⟨found[n - 1], List.getElem?_eq_getElem (by omega),
      report_note_of_record hbucket hrecord hordinal hleast hmost l.client.config l.within world
        l.tick⟩
  have hsought (h : ∀ n, ¬ PlaceIn found.length l.title n) : l.Sought world := by
    refine sought_of_numbered_none (result_numbered fun n hordinal => ⟨found, hfound, ?_⟩)
    obtain ⟨hnumeral, -, hleast⟩ := ordinal?_eq_some_iff.1 hordinal
    exact Nat.lt_of_not_le fun hmost => h n ⟨hnumeral, hleast, hmost⟩
  refine ⟨hplace, ⟨?_, ?_⟩, hsought, fun h note hnote => (hsought h).title_eq hnote⟩
  · rintro ⟨note, hnote, hevents⟩
    refine Classical.byContradiction fun hnone => ?_
    exact (hsought (not_exists.1 hnone)).events_ne_nil hnote hevents
  · rintro ⟨n, hn⟩
    obtain ⟨note, -, hreport⟩ := hplace n hn
    exact ⟨note, by rw [hreport], by rw [hreport]; rfl⟩

end Lookup

namespace Sample

/-- The lookup of a numeral in the store with the notes of the orchard, within a notebook. -/
def gatheredLookup (title : String) : Lookup Buckets :=
  ⟨gatherer, title, some "Cellar", 0, (gathered.report orchard).store⟩

end Sample

/-- A sign and zeros in front make no difference: the second note is named, and the notebook that
was given is not looked for. -/
theorem pears_named_with_sign_and_zeros :
    let l := Sample.gatheredLookup "+0002"
    l.NamedWithin (fun _ => Sample.calm) [Sample.apples, Sample.pears]
      ∧ l.report (fun _ => Sample.calm) = ⟨.ok Sample.pears, l.store, [], 1⟩ := by
  intro l
  have hfinds : Sample.gathered.Finds Sample.orchard [Sample.apples, Sample.pears] :=
    .intro (by rfl)
  have hread : lastSearch.report (fun _ => Sample.calm) 0 l.store
      = ⟨.ok [Sample.apples, Sample.pears], l.store, [], 1⟩ :=
    report_loadRecord_getD hfinds.holds [] _ 0
  have hfound : (lastSearch.report (fun _ => Sample.calm) l.tick l.store).result
      = .ok [Sample.apples, Sample.pears] := congrArg Report.result hread
  have hsize : [Sample.apples, Sample.pears].length = (2 : UInt64).toNat := rfl
  have hnamed : l.NamedWithin (fun _ => Sample.calm) [Sample.apples, Sample.pears] :=
    Lookup.namedWithin_of_found hfound hsize
  have hnumeral : Text.Numeral "+0002".toList 2 := by
    have hdigits : Text.Digits ['0', '0', '0', '2'] 2 := ⟨by simp, by simp, rfl⟩
    have htext : "+0002".toList = '+' :: ['0', '0', '0', '2'] := rfl
    rw [htext]
    exact .signed hdigits
  obtain ⟨note, hnote, hreport⟩ := hnamed.of_place 2 ⟨hnumeral, by decide, by decide⟩
  obtain rfl : Sample.pears = note := Option.some.inj hnote
  exact ⟨hnamed, hreport⟩

end Notekeeper
