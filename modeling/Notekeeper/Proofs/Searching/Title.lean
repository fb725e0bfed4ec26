import Notekeeper.Proofs.Editing.Loading
import Notekeeper.Proofs.Notebook.Refreshing
import Notekeeper.Remote.Scripted

/-!
# Notes named by title

A title is looked up among the notes that contain its words, for a service does not search for
whole titles.  Only one page of these is asked for, and the first note on it with exactly this
title is the one.  So other notes that contain the words can hide it.

What hides a note can be counted.  A service answers from a catalogue in some order, keeps the notes
that contain the words and are in the notebook, and gives a page of them from the front.  The first
note with the title is on this page just if fewer notes than the page holds are kept ahead of it.
This is a fact about a list that is filtered, cut and searched, by induction on the list with the
room on the page going down by one for each note that is kept (`find?_take_filter`).

A catalogue leaves open what it means for a note to contain words.  All that is asked is that a note
contains its own title, so that the note that is looked for is kept.  For a service in memory, where
a note contains what its title contains, this is shown to hold (`serves_ofTitles`).

That the program goes by title takes two things: the title is no ordinal of the saved search, and
the notebook that is given, if any, is found (`Lookup.ByTitle`).  Its result is then the first page,
searched, whichever size the configuration gives to a page.

* `Catalogue` : the notes that a service answers from.
* `Catalogue.find?_firstPage` : what the first page shows of a title.
* `Lookup.ByTitle` : what it takes for a lookup to go by title.
* `Lookup.complete_iff` : which lookups find what there is to find.
* `not_found_in_crowd` : one that does not.
-/

namespace Notekeeper

open Command

/-! ## 1. Catalogues

A catalogue is what the service has when it answers.  Its order is that of the answers, and a page
is a stretch of what a filter lets through. -/

/-- Whether a note is in a notebook, or anywhere if none is given. -/
def Note.isIn (guid : String) (n : Note) : Bool := guid = "" || n.notebookGuid = some guid

/-- **The notes of a service**, in the order in which it finds them. -/
structure Catalogue where
  notes : List Note
  /-- Whether a note contains some words. -/
  contains : String → Note → Bool
  /-- A note contains its own title. -/
  contains_title (n : Note) : contains n.title n = true

namespace Catalogue

variable (c : Catalogue) (title guid : String)

/-- The notes that a filter lets through. -/
def matching (filter : NoteFilter) : List Note :=
  c.notes.filter fun n => c.contains filter.words n && n.isIn filter.notebookGuid

/-- **Whether searches are answered from a catalogue**: a filter lets some of its notes through, and
a page of these is given. -/
def Serves (w : Surroundings) : Prop :=
  ∀ (filter : NoteFilter) (offset count : Nat),
    w.remote (.findNotes filter offset count) = .ok (((c.matching filter).drop offset).take count)

/-- Whether a note has exactly this title, and is in this notebook. -/
def isTitled (n : Note) : Bool := n.title = title && n.isIn guid

/-- The first note with exactly this title. -/
def titled? : Option Note := c.notes.find? (isTitled title guid)

/-- How many notes contain the words of a title and come ahead of the first one that has it. -/
def ahead : Nat :=
  (c.notes.takeWhile fun n => !isTitled title guid n).countP fun n =>
    c.contains title n && n.isIn guid

/-- **What a complete lookup gives**: the first note with the title, on whatever page it is. -/
def lookup : Except Error Note :=
  match c.titled? title guid with
  | some note => .ok note
  | none => .error .noNoteFound

theorem lookup_eq_error_iff :
    c.lookup title guid = .error .noNoteFound ↔ c.titled? title guid = none := by
  unfold lookup
  cases c.titled? title guid <;> simp

/-- The first item of a page is the first one of all, if what is kept ahead of it leaves it on the
page. -/
theorem find?_take_filter {α : Type} {kept exact onPage : α → Bool}
    (hexact : ∀ a, exact a = true → kept a = true)
    (hpage : ∀ a, kept a = true → onPage a = exact a) (as : List α) (count : Nat) :
    ((as.filter kept).take count).find? onPage
      = if (as.takeWhile fun a => !exact a).countP kept < count then as.find? exact else none := by
  induction as generalizing count with
  | nil => split <;> simp
  | cons a as ih =>
    cases hkept : kept a with
    | false =>
      have hnot : exact a = false :=
        Bool.eq_false_iff.2 fun h => Bool.false_ne_true (hkept.symm.trans (hexact a h))
      simp [hkept, hnot, ih]
    | true =>
      have honPage : onPage a = exact a := hpage a hkept
      -- What is kept takes a place on the page, so the bound goes down with it.
      cases count with
      | zero => simp
      | succ count =>
        cases h : exact a with
        | true => simp [hkept, h, honPage]
        | false => simp [hkept, h, honPage, ih]

/-- **The first page of a catalogue** shows the first note with a title unless too many others are
ahead of it. -/
theorem find?_firstPage (page : Nat) :
    ((c.matching { notebookGuid := guid, words := title }).take page).find? (·.title = title)
      = if c.ahead title guid < page then c.titled? title guid else none := by
  refine find?_take_filter ?_ ?_ c.notes page
  · intro n hn
    obtain ⟨htitle, hin⟩ := Bool.and_eq_true_iff.1 hn
    rw [← of_decide_eq_true htitle, c.contains_title, Bool.true_and]
    exact hin
  · intro n hn
    obtain ⟨-, hin⟩ := Bool.and_eq_true_iff.1 hn
    rw [isTitled, hin, Bool.and_true]

/-! ## 2. Titles that contain a text

The service in memory, which takes words to be contained in a note if its title has them, answers
from such a catalogue. -/

/-- Every text contains itself. -/
theorem contains_self (text : List Char) : Text.contains text text = true := by
  have hall : Text.dropPrefix? text text = some [] := Text.dropPrefix?_eq_some.2 (by simp)
  unfold Text.contains
  cases text with
  | nil => rfl
  | cons ch chs => simp [Text.splitFirst, hall]

/-- The catalogue in which a note contains what its title contains. -/
def ofTitles (notes : List Note) : Catalogue where
  notes := notes
  contains words n := words = "" || Text.contains words.toList n.title.toList
  contains_title n := by simp [contains_self]

/-- A service in memory answers searches from such a catalogue. -/
theorem serves_ofTitles {r : ScriptedRemote} {w : Surroundings} (hremote : w.remote = r.answer)
    (hfind : "find_notes" ∉ r.failing) : (ofTitles r.notes).Serves w := by
  intro filter offset count
  rw [hremote, ScriptedRemote.answer, if_neg]
  · rfl
  · simpa [RemoteCall.name] using hfind

end Catalogue

/-! ## 3. Lookups

A lookup that goes by title begins like every other one, with the look for an ordinal. -/

variable {σ : Type} [Backend σ] {world : Nat → Surroundings}

/-- **A lookup**: a client is asked for a note, at a tick and on a store. -/
structure Lookup (σ : Type) where
  client : Client
  title : String
  within : Option String
  tick : Nat
  store : σ

/-- **Whether a place is one to look in**: a notebook that is in the list and has an identifier, or
anywhere. -/
inductive Place (world : Nat → Surroundings) (config : Config) (tick : Nat) (s : σ) :
    Option String → (guid : String) → Prop
  | anywhere {within : Option String} (h : within.filter (· ≠ "") = none) :
    Place world config tick s within ""
  | inside {name : String} {nbs : List Notebook} {nb : Notebook} (hname : name ≠ "")
      (hlist : ((notebooks config false).report world tick s).result = .ok nbs)
      (hfirst : nbs.find? (·.name = name) = some nb) (hguid : nb.guid ≠ "") :
    Place world config tick s (some name) nb.guid

namespace Lookup

/-- The report of a lookup. -/
def report (world : Nat → Surroundings) (l : Lookup σ) : Report σ Note :=
  (l.client.perform (.note l.title l.within)).report world l.tick l.store

/-- The report of taking the title for an ordinal, with which a lookup begins. -/
def numbered (world : Nat → Surroundings) (l : Lookup σ) : Report σ (Option Note) :=
  (noteByOrdinal l.title).report world l.tick l.store

/-- **What it takes for a lookup to go by title.** -/
structure ByTitle (world : Nat → Surroundings) (l : Lookup σ) (guid : String) : Prop where
  /-- If the title is an ordinal, it is past the end of what the last search found. -/
  unnumbered (n : Nat) (h : ordinal? l.title = some n) : ∃ found,
    (lastSearch.report world l.tick l.store).result = .ok found ∧ found.length < n
  place : Place world l.client.config (l.numbered world).tick (l.numbered world).store l.within guid

/-- An ordinal past the end of what the last search found is none. -/
theorem result_numbered {l : Lookup σ} (h : ∀ n, ordinal? l.title = some n → ∃ found,
      (lastSearch.report world l.tick l.store).result = .ok found ∧ found.length < n) :
    (l.numbered world).result = .ok none := by
  unfold numbered noteByOrdinal
  cases hordinal : ordinal? l.title with
  | none => rfl
  | some n =>
    obtain ⟨found, hfound, hpast⟩ := h n hordinal
    have hnone : found[n - 1]? = none := List.getElem?_eq_none (by omega)
    simp only [report_bind, Report.result_andThen, hfound, Except.bind, report_pure, hnone]

end Lookup

theorem Place.result_narrowing {config : Config} {tick : Nat} {s : σ} {within : Option String}
    {guid : String} (h : Place world config tick s within guid) :
    ((narrowing config within).report world tick s).result = .ok guid := by
  unfold narrowing
  cases h with
  | anywhere h => rw [h]; rfl
  | @inside name nbs nb hname hlist hfirst hguid =>
    have hfilter : (some name).filter (· ≠ "") = some name := by simp [hname]
    have hfind : ((findNotebook config name).report world tick s).result = .ok nb := by
      simp only [report_findNotebook, hlist, Except.bind, pickNotebook, hfirst]
    rw [hfilter]
    simp only [report_bind, Report.result_andThen, hfind, Except.bind, report_pure]

/-- **A title is looked up on the first page.**  Where the note is not on it, the lookup says that
there is none. -/
theorem result_titledNote {c : Catalogue} {tick : Nat} (h : c.Serves (world tick))
    (config : Config) (title guid : String) (s : σ) :
    ((titledNote config title guid).report world tick s).result
      = if c.ahead title guid < config.searchPageSize.toNat then c.lookup title guid
        else .error .noNoteFound := by
  let page := config.searchPageSize.toNat
  let filter : NoteFilter := { notebookGuid := guid, words := title }
  have hanswer : (world tick).remote (.findNotes filter 0 page)
      = .ok ((c.matching filter).take page) := h filter 0 page
  have hpage : ((c.matching filter).take page).find? (·.title = title)
      = if c.ahead title guid < page then c.titled? title guid else none :=
    c.find?_firstPage title guid page
  calc ((titledNote config title guid).report world tick s).result
      = match ((c.matching filter).take page).find? (·.title = title) with
        | some note => .ok note
        | none => .error .noNoteFound := by
        rw [report_titledNote, hanswer]
        rfl
    _ = if c.ahead title guid < page then c.lookup title guid else .error .noNoteFound := by
        rw [hpage]
        by_cases hahead : c.ahead title guid < page
        · rw [if_pos hahead, if_pos hahead]
          rfl
        · rw [if_neg hahead, if_neg hahead]

/-- **A lookup by title sees one page.** -/
theorem Lookup.result_report {c : Catalogue} (hremote : ∀ tick, c.Serves (world tick))
    {l : Lookup σ} {guid : String} (h : l.ByTitle world guid) :
    (l.report world).result
      = if c.ahead l.title guid < l.client.config.searchPageSize.toNat then
          c.lookup l.title guid
        else .error .noNoteFound := by
  change ((note l.client.config l.title l.within).report world l.tick l.store).result = _
  unfold note
  rw [report_bind, Report.result_andThen]
  change Except.bind (l.numbered world).result _ = _
  rw [result_numbered h.unnumbered]
  change ((noteByTitle l.client.config l.title l.within).report world (l.numbered world).tick
    (l.numbered world).store).result = _
  rw [noteByTitle_eq, report_bind, Report.result_andThen, h.place.result_narrowing]
  exact result_titledNote (hremote _) l.client.config l.title guid _

/-- **Which lookups by title find what there is to find.**  A lookup gives the first note with
exactly this title, or says that there is none, just when there is none or fewer notes than a page
holds contain its words and come ahead of it.  Otherwise it says that there is none, although there
is. -/
theorem Lookup.complete_iff {c : Catalogue} (hremote : ∀ tick, c.Serves (world tick))
    {l : Lookup σ} {guid : String} (h : l.ByTitle world guid) :
    let page := l.client.config.searchPageSize.toNat
    ((l.report world).result = c.lookup l.title guid
      ↔ c.titled? l.title guid = none ∨ c.ahead l.title guid < page)
    ∧ (page ≤ c.ahead l.title guid → (l.report world).result = .error .noNoteFound) := by
  intro page
  have hresult : (l.report world).result
      = if c.ahead l.title guid < page then c.lookup l.title guid else .error .noNoteFound :=
    l.result_report hremote h
  rw [hresult]
  by_cases hahead : c.ahead l.title guid < page
  · rw [if_pos hahead]
    exact ⟨⟨fun _ => .inr hahead, fun _ => rfl⟩, fun hpage => absurd hahead (by omega)⟩
  · rw [if_neg hahead, eq_comm, c.lookup_eq_error_iff]
    exact ⟨⟨.inl, fun hnone => hnone.resolve_right hahead⟩, fun _ => rfl⟩

namespace Sample

def foo : Note := { title := "Foo", guid := "n-1" }

/-- A service with one note called Foo, behind as many others as a page holds. -/
def crowd : ScriptedRemote := { notes := List.replicate 20 { title := "Foo bar" } ++ [foo] }

def crowded (_ : Nat) : Surroundings where
  remote := crowd.answer
  editor := .ok
  fault := .none
  now := .epoch

/-- The lookup of that note. -/
def crowdedLookup : Lookup Buckets := ⟨⟨{}, {}, .identity⟩, "Foo", none, 0, ⟨[]⟩⟩

end Sample

/-- **A note that is there is said not to be there**, for the page is full of others whose titles
contain its own. -/
theorem not_found_in_crowd :
    (Catalogue.ofTitles Sample.crowd.notes).lookup "Foo" "" = .ok Sample.foo
      ∧ (Sample.crowdedLookup.report Sample.crowded).result = .error .noNoteFound := by
  have hserves (tick : Nat) :
      (Catalogue.ofTitles Sample.crowd.notes).Serves (Sample.crowded tick) :=
    Catalogue.serves_ofTitles rfl (by decide)
  have hbyTitle : Sample.crowdedLookup.ByTitle Sample.crowded "" := by
    refine ⟨fun n hn => ?_, .anywhere rfl⟩
    have hnone : ordinal? "Foo" = none := by decide +kernel
    cases hnone.symm.trans hn
  have htitled : (Catalogue.ofTitles Sample.crowd.notes).titled? "Foo" "" = some Sample.foo := by
    decide +kernel
  have hahead : 20 ≤ (Catalogue.ofTitles Sample.crowd.notes).ahead "Foo" "" := by decide +kernel
  obtain ⟨-, hhidden⟩ := Lookup.complete_iff hserves hbyTitle
  exact ⟨by rw [Catalogue.lookup, htitled], hhidden hahead⟩

end Notekeeper
