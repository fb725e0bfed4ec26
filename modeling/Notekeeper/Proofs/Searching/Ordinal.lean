import Notekeeper.Proofs.Command.ReadBack
import Notekeeper.Proofs.History
import Notekeeper.Proofs.Text.Numeral

/-!
# Notes named by ordinal

A search that goes well is kept, and an ordinal is a place in it.  Nothing but another search that
goes well puts other notes there: not an edit, not a change of the notes themselves, not a search
that fails, and not closing and opening the store.

A search asks the service and then stores the answer, in one update.  If either fails, the store is
as it was, and so a search is kept in full or not at all (`searched_findNotes`).  All other
operations, and openings, do not have the slot of the search in their footprint.  By induction over
the moments since the search, the slot holds what the search put there.

To name a note by ordinal, the program reads the title as a number and the number as a place.  The
number's own numeral is read as that number, as long as it fits in 64 bits, and the note is the one
at the place in the saved list, counted from one.  This is the whole lookup: it makes no call, and
the notebook that is given along is never looked for.

The note that is given is the found one as the store has it.  Its times were written when the search
was kept, and a leap second that ends no minute was written as the second after, so that the note is
given with that time (`ordinal_names_figs_later`).  All other notes are given as they were found.

* `Moment.Finds` : a search that goes well.
* `Moment.held_search` : what every other moment leaves as it is.
* `report_note_of_record` : an ordinal names the note at its place, and nothing else is done.
* `ordinal_names_found` : which note an ordinal names from then on.
-/

namespace Notekeeper

open Command

variable {σ : Type} [Backend σ] {world : Nat → Surroundings}

/-! ## 1. Searches that are kept

A search stores what it found in a step of its own, after the answer came.  If it cannot be stored,
the search fails and the notes found before stay. -/

/-- **Whether a moment is a search that goes well**, and which notes it finds. -/
inductive Moment.Finds (world : Nat → Surroundings) : Moment σ → List Note → Prop
  | intro {client : Client} {filter : NoteFilter} {offset count tick : Nat} {s : σ}
      {notes : List Note}
      (h : ((client.perform (.findNotes filter offset count)).report world tick s).result
        = .ok notes) :
    Finds world ⟨.operation client (.findNotes filter offset count), tick, s⟩ notes

/-- What a search does to a store. -/
inductive Searched (s : σ) (r : Report σ (List Note)) : Prop
  | found (notes : List Note) (hresult : r.result = .ok notes)
      (hholds : Slot.search.Holds notes r.store)
  | failed (e : Error) (hresult : r.result = .error e) (hstore : r.store = s)

variable [LawfulBackend σ]

/-- **A search is kept in full, or fails without a trace** in the store.  It is stored in one
update, after the answer came. -/
theorem searched_findNotes (world : Nat → Surroundings) (filter : NoteFilter)
    (offset count tick : Nat) (s : σ) :
    Searched s ((findNotes filter offset count).report world tick s) := by
  unfold findNotes
  rw [report_bind, report_asked]
  cases (world tick).remote (.findNotes filter offset count) with
  | error e => exact .failed e rfl rfl
  | ok notes =>
    have hputs : (storeSearch notes).Puts .search (Record.encode notes) s :=
      puts_storeRecord .search notes s
    -- The answer came at one tick; what is in the way of keeping it is met at the next one.
    have hwritten := hputs.written world (tick + 1)
    have hunwritten := hputs.unwritten world (tick + 1)
    simp only [Report.andThen, report_bind]
    cases hr : (storeSearch notes).report world (tick + 1) s with
    | mk result s' journal tick' =>
      rw [hr] at hwritten hunwritten
      by_cases hfault : (world (tick + 1)).fault = .none
      · obtain ⟨hok, hsets⟩ := hwritten hfault
        cases result with
        | error e => cases hok
        | ok _ => exact .found notes rfl hsets.holds
      · obtain ⟨hnot, hstore⟩ := hunwritten hfault
        cases result with
        | error e => exact .failed e rfl hstore
        | ok _ => cases hnot

/-- A search that goes well keeps what it finds. -/
theorem Moment.Finds.holds {m : Moment σ} {notes : List Note} (h : m.Finds world notes) :
    Slot.search.Holds notes (m.report world).store := by
  cases h with
  | @intro client filter offset count tick s _ hresult =>
    cases searched_findNotes world filter offset count tick s with
    | found found hfound hholds =>
      obtain rfl : found = notes := Except.ok.inj (hfound.symm.trans hresult)
      exact hholds
    | failed e herror => cases herror.symm.trans hresult

/-- **A moment that is no search that goes well leaves the kept notes as they are**, openings of the
store included. -/
theorem Moment.held_search (m : Moment σ) (hm : ∀ found, ¬ m.Finds world found) :
    Slot.search.held (m.report world).store = Slot.search.held m.store := by
  obtain ⟨step, tick, s⟩ := m
  cases step with
  | opening =>
    have hspared : upgradeStore.Spares σ .search := spares_upgradeStore (by decide) (by decide)
    exact hspared.held world tick s
  | operation client op =>
    by_cases hop : Slot.search ∈ op.slots
    · obtain ⟨filter, offset, count, rfl⟩ := Operation.eq_findNotes_of_search_mem hop
      cases searched_findNotes world filter offset count tick s with
      | found found hresult => exact absurd (.intro hresult) (hm found)
      | failed e _ hstore => exact congrArg Slot.search.held hstore
    · exact (client.spares_perform hop).held world tick s

/-- A history without another search that goes well leaves the kept notes as they are. -/
theorem held_search_storeAfter {steps : List Step} {tick : Nat} {s : σ}
    (hquiet : ∀ m ∈ history world steps tick s, ∀ found, ¬ m.Finds world found) :
    Slot.search.held (storeAfter world steps tick s) = Slot.search.held s :=
  held_storeAfter fun m hm => m.held_search (hquiet m hm)

theorem holds_search_storeAfter {steps : List Step} {tick : Nat} {s : σ} {notes : List Note}
    (h : Slot.search.Holds notes s)
    (hquiet : ∀ m ∈ history world steps tick s, ∀ found, ¬ m.Finds world found) :
    Slot.search.Holds notes (storeAfter world steps tick s) :=
  ⟨hasBucket_storeAfter h.hasBucket steps tick, (held_search_storeAfter hquiet).trans h.held⟩

/-! ## 2. Ordinals

Here the store is given, and no history: what the slot of the search holds is all that an ordinal
depends on. -/

/-- **The ordinal that a text is** is the number that it is the numeral of, unless that is zero or
too large for 64 bits. -/
theorem ordinal?_eq_some_iff {title : String} {n : Nat} :
    ordinal? title = some n ↔ Text.Numeral title.toList n ∧ n < Text.wordBound ∧ 1 ≤ n := by
  rw [ordinal?, Option.filter_eq_some_iff, Text.unsigned?_eq_some_iff, decide_eq_true_iff,
    and_assoc]
  exact Iff.rfl

/-- A number of 64 bits is the ordinal that its numeral is, but for zero. -/
theorem ordinal?_decimal {n : UInt64} (h : 1 ≤ n.toNat) :
    ordinal? (String.ofList (Text.decimal n.toNat)) = some n.toNat := by
  have hnumeral : Text.Numeral (String.ofList (Text.decimal n.toNat)).toList n.toNat := by
    rw [String.toList_ofList]
    exact Text.numeral_decimal n.toNat
  exact ordinal?_eq_some_iff.2 ⟨hnumeral, n.toNat_lt, h⟩

section Places

variable {s : σ} {notes : List Note} {title : String} {n : Nat}

omit [LawfulBackend σ]

/-- Notes that are read from the saved search are what the store says. -/
theorem record_of_lastSearch {world : Nat → Surroundings} {tick : Nat}
    (h : (lastSearch.report world tick s).result = .ok notes) (hne : notes ≠ []) :
    Backend.hasBucket s Slot.search.bucket = true
      ∧ Slot.search.record s = .ok (some notes) := by
  unfold lastSearch at h
  rw [report_bind, Report.result_andThen] at h
  obtain ⟨kept, hkept, hnotes⟩ := bind_eq_ok_iff.1 h
  obtain rfl : kept.getD [] = notes := Except.ok.inj hnotes
  cases kept with
  | none => exact absurd rfl hne
  | some notes =>
    cases hbucket : Backend.hasBucket s Slot.search.bucket with
    | true =>
      rw [report_loadRecord hbucket] at hkept
      exact ⟨rfl, hkept⟩
    | false =>
      -- Without its bucket the slot is empty, whether or not the bucket can be made.
      rw [report_loadRecord_of_not_hasBucket hbucket, Report.result_andThen] at hkept
      obtain ⟨_, -, hnone⟩ := bind_eq_ok_iff.1 hkept
      cases hnone

/-- **An ordinal names the note at its place** among those that the store says, and nothing else is
asked or done. -/
theorem report_note_of_record (hbucket : Backend.hasBucket s Slot.search.bucket = true)
    (hrecord : Slot.search.record s = .ok (some notes)) (hordinal : ordinal? title = some n)
    (hleast : 1 ≤ n) (hmost : n ≤ notes.length) (config : Config) (within : Option String)
    (world : Nat → Surroundings) (tick : Nat) :
    (note config title within).report world tick s = ⟨.ok notes[n - 1], s, [], tick + 1⟩ := by
  have hlast : lastSearch.report world tick s = ⟨.ok notes, s, [], tick + 1⟩ := by
    unfold lastSearch
    rw [report_bind, report_loadRecord hbucket, hrecord]
    rfl
  have hplace : notes[n - 1]? = some notes[n - 1] := List.getElem?_eq_getElem (by omega)
  have hfound : (noteByOrdinal title).report world tick s
      = ⟨.ok (some notes[n - 1]), s, [], tick + 1⟩ := by
    unfold noteByOrdinal
    rw [hordinal]
    simp only [report_bind, hlast, Report.andThen, report_pure, hplace]
    rfl
  unfold note
  rw [report_bind, hfound]
  rfl

/-- An ordinal names the note at its place among the kept ones, as it was written. -/
theorem report_note_of_ordinal (h : Slot.search.Holds notes s)
    (hordinal : ordinal? title = some n) (hleast : 1 ≤ n) (hmost : n ≤ notes.length)
    (config : Config) (within : Option String) (world : Nat → Surroundings) (tick : Nat) :
    (note config title within).report world tick s
      = ⟨.ok notes[n - 1].asWritten, s, [], tick + 1⟩ := by
  have hrecord : Slot.search.record s = .ok (some (notes.map Note.asWritten)) := h.record
  have hmost' : n ≤ (notes.map Note.asWritten).length := by rwa [List.length_map]
  rw [report_note_of_record h.hasBucket hrecord hordinal hleast hmost', List.getElem_map]

end Places

/-- **Ordinals keep meaning the last search.**  From a search that found these notes until the next
one that goes well, whatever happens in between, the numeral of a place names the note that was
found there, for every client and within every notebook.  It is given with its timestamps as they
were written, which is as they were unless one lies in a stray leap second.  No service is called,
and nothing is written. -/
theorem ordinal_names_found {steps : List Step} {tick : Nat} {s : σ}
    {before since : List (Moment σ)} {m : Moment σ} {notes : List Note}
    (hhistory : history world steps tick s = before ++ m :: since)
    (hfinds : m.Finds world notes) (hsince : ∀ m' ∈ since, ∀ found, ¬ m'.Finds world found)
    (n : UInt64) (hleast : 1 ≤ n.toNat) (hmost : n.toNat ≤ notes.length)
    (client : Client) (within : Option String) (world' : Nat → Surroundings) (tick' : Nat) :
    (client.perform (.note (String.ofList (Text.decimal n.toNat)) within)).report world' tick'
        (storeAfter world steps tick s)
      = ⟨.ok notes[n.toNat - 1].asWritten, storeAfter world steps tick s, [], tick' + 1⟩ := by
  obtain ⟨_, steps', -, -, hsteps', hfinal⟩ := exists_of_history_eq_append hhistory
  have hholds : Slot.search.Holds notes (storeAfter world steps tick s) := by
    rw [hfinal]
    exact holds_search_storeAfter hfinds.holds fun m' hm' => hsince m' (hsteps' ▸ hm')
  exact report_note_of_ordinal hholds (ordinal?_decimal hleast) hleast hmost client.config within
    world' tick'

namespace Sample

def apples : Note := { title := "Apples", guid := "n-1" }

def pears : Note := { title := "Pears", guid := "n-2", md := "two of them" }

/-- Surroundings in which only a search for fruit goes well. -/
def orchard (_ : Nat) : Surroundings where
  remote
    | .findNotes filter _ _ =>
      if filter.words = "fruit" then .ok [apples, pears] else .error (.remote "offline")
    | .updateNote _ => .ok ()
    | _ => .error (.remote "offline")
  editor := .ok
  fault := .none
  now := .epoch

def gatherer : Client := ⟨{}, {}, .identity⟩

/-- Two notes are found in an empty store. -/
def gathered : Moment Buckets :=
  ⟨.operation gatherer (.findNotes { words := "fruit" } 0 20), 0, ⟨[]⟩⟩

/-- Then the second note gets another title, another search fails, and the store is opened again. -/
def season : List Step :=
  [.operation gatherer (.changeTitle "2" "Quinces"),
    .operation gatherer (.findNotes { words := "nuts" } 0 20), .opening]

theorem not_finds_of_season {tick : Nat} {s : Buckets} {m : Moment Buckets}
    (hm : m ∈ history orchard season tick s) (found : List Note) : ¬ m.Finds orchard found := by
  intro h
  simp only [season, history, List.mem_cons, List.not_mem_nil, or_false] at hm
  rcases hm with rfl | rfl | rfl
  · cases h
  · cases h with
    | intro hresult => cases hresult
  · cases h

end Sample

/-- The second note is still named as it was found, by its place, when it has another title.  A
search that failed and an opening have come in between. -/
theorem ordinal_names_pears :
    let final := storeAfter Sample.orchard (Sample.gathered.step :: Sample.season) 0
      Sample.gathered.store
    (Sample.gatherer.perform (.note (String.ofList (Text.decimal 2)) (some "Cellar"))).report
        (fun _ => Sample.calm) 0 final
      = ⟨.ok Sample.pears, final, [], 1⟩ := by
  have hfinds : Sample.gathered.Finds Sample.orchard [Sample.apples, Sample.pears] :=
    .intro (by rfl)
  have hhistory : history Sample.orchard (Sample.gathered.step :: Sample.season) 0
      Sample.gathered.store = [] ++ Sample.gathered
        :: history Sample.orchard Sample.season (Sample.gathered.report Sample.orchard).tick
          (Sample.gathered.report Sample.orchard).store := rfl
  exact ordinal_names_found hhistory hfinds
    (fun _ hm found => Sample.not_finds_of_season hm found) 2 (by decide) (by decide)
    Sample.gatherer (some "Cellar") (fun _ => Sample.calm) 0

namespace Sample

def figs : Note := { title := "Figs", guid := "n-3", created := some strayLeap }

/-- Surroundings in which a search finds a note that was created in a stray leap second. -/
def autumn (_ : Nat) : Surroundings :=
  { calm with
    remote
      | .findNotes _ _ _ => .ok [figs]
      | _ => .error (.remote "offline") }

/-- This note is found in an empty store. -/
def windfall : Moment Buckets :=
  ⟨.operation gatherer (.findNotes { words := "fruit" } 0 20), 0, ⟨[]⟩⟩

end Sample

/-- **An ordinal need not name the very note that was found.**  A note that was created in a stray
leap second is named as one that was created in the second after. -/
theorem ordinal_names_figs_later :
    let final := (Sample.windfall.report Sample.autumn).store
    Sample.windfall.Finds Sample.autumn [Sample.figs]
      ∧ (Sample.gatherer.perform (.note (String.ofList (Text.decimal 1)) none)).report
          (fun _ => Sample.calm) 0 final
        = ⟨.ok Sample.figs.asWritten, final, [], 1⟩
      ∧ Sample.figs.asWritten ≠ Sample.figs := by
  have hfinds : Sample.windfall.Finds Sample.autumn [Sample.figs] := .intro (by rfl)
  have hfirst : ordinal? (String.ofList (Text.decimal 1)) = some 1 :=
    ordinal?_decimal (n := 1) (by decide)
  exact ⟨hfinds, report_note_of_ordinal hfinds.holds hfirst (by decide) (by decide) _ none _ 0,
    by decide⟩

end Notekeeper
