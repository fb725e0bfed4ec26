import Mathlib.Control.Monad.Basic
import Notekeeper.Proofs.Command.Calling
import Notekeeper.Proofs.Notebook.Refreshing

/-!
# How a notebook is changed

The notebook to change is looked for twice.  First it is the first one of the list with a name.
Then, when the remote service has taken the change, it is the first one of the cached list with this
name and the identifier that was found.  Both times it is the same entry, also where names and
identifiers repeat, and no other entry changes, nor does the age of the list.

A change begins with a listing, and the three ways to go on are those of `Change.Comes`: there is no
list, no notebook of the list has the name, or the first one that has it is patched and sent.  In
the first two nothing is sent and the operation ends with the listing.  In the third the notebook is
sent once, and what follows is one of three courses (`Notebook/Refreshing`): refused, not written,
written.  For this to be told by entries and not by searches, `FirstNamed` names the entry by its
index, and patching the first notebook of a name is setting this index.

The list that was cached tells its time as it is written.  The entry is taken from a list that was
read from the store, so that caching it again with one entry replaced changes nothing about its time
or its limit; that is why the last part of `Settled` can promise that the notebook is found under
its new name for as long as the old list would have been of use.  It is found there unless an entry
ahead of it has this name, which would then be the first one.

* `FirstNamed` : the entry that a name stands for.
* `Notebook.Patches` : a notebook with a patch.
* `Change.Settled` : what becomes of a notebook that is sent.
* `Change.comes` : what comes of every change.
-/

namespace Notekeeper

open Command

/-! ## 1. Entries of a list

Names and identifiers may repeat in a list, so that an entry is told by its index. -/

/-- **Whether an entry is the first one of a list with a name**, and which one it is.  Others behind
it may have the name as well. -/
structure FirstNamed (nbs : List Notebook) (name : String) (i : Nat) (nb : Notebook) : Prop where
  place : nbs[i]? = some nb
  named : nb.name = name
  ahead : ∀ nb' ∈ nbs.take i, nb'.name ≠ name

namespace FirstNamed

variable {nbs : List Notebook} {name : String} {i : Nat} {nb : Notebook}

/-- The entry that a name stands for is the one that is found by it. -/
theorem find?_eq (h : FirstNamed nbs name i nb) : nbs.find? (·.name = name) = some nb := by
  obtain ⟨hi, hnb⟩ := List.getElem?_eq_some_iff.1 h.place
  have hahead : (nbs.take i).find? (·.name = name) = none :=
    List.find?_eq_none.2 fun nb' hnb' => by simpa using h.ahead nb' hnb'
  have hfrom : nbs.drop i = nb :: nbs.drop (i + 1) := hnb ▸ List.drop_eq_getElem_cons hi
  calc nbs.find? (·.name = name)
      = (nbs.take i ++ nbs.drop i).find? (·.name = name) := by rw [List.take_append_drop]
    _ = (nbs.drop i).find? (·.name = name) := by
      rw [List.find?_append, hahead, Option.none_or]
    _ = some nb := by
      rw [hfrom]
      exact List.find?_cons_of_pos (decide_eq_true h.named)

/-- A notebook that is found by its name is the entry that the name stands for. -/
theorem exists_of_find? (h : nbs.find? (·.name = name) = some nb) :
    ∃ i, FirstNamed nbs name i nb := by
  obtain ⟨hnamed, before, after, rfl, hbefore⟩ := List.find?_eq_some_iff_append.1 h
  refine ⟨before.length, ?_, of_decide_eq_true hnamed, fun nb' hnb' => ?_⟩
  · simp
  · rw [List.take_left] at hnb'
    simpa using hbefore nb' hnb'

/-- **Patching the first notebook of a name patches this entry** and no other, so that what is said
of names can be said of places. -/
theorem patchFirst_eq (h : FirstNamed nbs name i nb) (patch : NotebookPatch) :
    NotebookCache.patchFirst name patch nbs = nbs.set i (nb.patch patch) := by
  induction nbs generalizing i with
  | nil => cases h.place
  | cons first rest ih =>
    cases i with
    | zero =>
      obtain rfl : first = nb := Option.some.inj h.place
      rw [NotebookCache.patchFirst, if_pos h.named, List.set_cons_zero]
    | succ i =>
      have hfirst : first.name ≠ name := h.ahead first List.mem_cons_self
      have hrest : FirstNamed rest name i nb :=
        ⟨h.place, h.named, fun nb' hnb' => h.ahead nb' (List.mem_cons_of_mem first hnb')⟩
      rw [NotebookCache.patchFirst, if_neg hfirst, List.set_cons_succ, ih hrest]

/-- An entry in the place of another one has a name to itself where no entry ahead of it has it. -/
theorem set (hi : i < nbs.length) (hahead : ∀ nb' ∈ nbs.take i, nb'.name ≠ nb.name) :
    FirstNamed (nbs.set i nb) nb.name i nb where
  place := List.getElem?_set_self hi
  named := rfl
  ahead := by rwa [List.take_set_of_le (Nat.le_refl i)]

end FirstNamed

/-- **Whether a notebook is another one with a patch**: the fields that the patch has and that are
not empty stand in place of the old ones. -/
structure Notebook.Patches (patch : NotebookPatch) (old new : Notebook) : Prop where
  guid : new.guid = old.guid
  name : new.name = (patch.name.filter (· ≠ "")).getD old.name
  stack : new.stack = (patch.stack.filter (· ≠ "")).getD old.stack

theorem Notebook.patched_eq (old : String) (new : Option String) :
    patched old new = (new.filter (· ≠ "")).getD old := by
  cases new with
  | none => rfl
  | some text => by_cases h : text = "" <;> simp [patched, h, Option.filter_some]

theorem Notebook.patches_patch (patch : NotebookPatch) (old : Notebook) :
    Patches patch old (old.patch patch) :=
  ⟨rfl, patched_eq _ _, patched_eq _ _⟩

/-- A cached list with a notebook in the place of one of its entries. -/
def NotebookCache.replaced (cache : NotebookCache) (i : Nat) (nb : Notebook) : NotebookCache :=
  { cache with notebooks := cache.notebooks.set i nb }

/-! ## 2. Calls and lists

What matters of the events of a change are the notebooks that it sends. -/

namespace Command

/-- The change of a notebook that an event shows to be sent, and the answer. -/
def Event.update? : Event → Option (Notebook × Except Error Unit)
  | .called (.updateNotebook nb) answer => some (nb, answer)
  | _ => none

/-- The changes of notebooks that a report shows to be sent. -/
def Report.updates {σ α : Type} (r : Report σ α) : List (Notebook × Except Error Unit) :=
  r.events.filterMap Event.update?

variable {σ : Type} [Backend σ] [LawfulBackend σ]

/-- A listing sends no change. -/
theorem updates_notebooks (config : Config) (forceSync : Bool) (world : Nat → Surroundings)
    (tick : Nat) (s : σ) : ((notebooks config forceSync).report world tick s).updates = [] := by
  have hseeks : SeeksNotebooks (Effect.Hidden Event.update?) := .of_hidden fun _ => rfl
  exact (keepsTo_notebooks hseeks config forceSync).filterMap_events_eq_nil world tick s

omit [LawfulBackend σ] in
/-- While a cached list is of use it is what is listed, and nothing is asked. -/
theorem report_notebooks_of_record {s : σ} {cache : NotebookCache}
    (hbucket : Backend.hasBucket s Slot.notebooks.bucket = true)
    (hrecord : Slot.notebooks.record s = .ok (some cache)) (hne : cache.notebooks ≠ [])
    (config : Config) {world : Nat → Surroundings} {tick : Nat}
    (hfresh : cache.isOutdatedAt (world (tick + 1)).now.time = false) :
    (notebooks config false).report world tick s
      = ⟨.ok cache.notebooks, s, [.told (world (tick + 1)).now.time], tick + 2⟩ := by
  have husable : (isUsable false cache).report world (tick + 1) s
      = ⟨.ok true, s, [.told (world (tick + 1)).now.time], tick + 2⟩ := by
    have hnonempty : cache.notebooks.isEmpty = false := List.isEmpty_eq_false_iff.2 hne
    change Report.mk (.ok (!cache.isOutdatedAt (world (tick + 1)).now.time
      && !cache.notebooks.isEmpty)) s _ _ = _
    rw [hfresh, hnonempty]
    rfl
  rw [notebooks_eq, report_bind, notebookCache, report_loadRecord hbucket, hrecord]
  unfold listFrom
  simp only [Report.andThen, Option.getD_some]
  rw [report_bind, husable]
  rfl

end Command

namespace Command.SendingCourse

variable {σ : Type} [Backend σ] {world : Nat → Surroundings} {tick : Nat} {new : Notebook}
  {changed : NotebookCache} {start : σ} {r : Report σ Notebook}

/-- A notebook is sent once, whatever comes of it. -/
theorem updates_eq (h : SendingCourse world tick new changed start r) :
    r.updates = [(new, (world tick).remote (.updateNotebook new))] := by
  cases h with
  | refused hanswer =>
    rw [hanswer]
    rfl
  | unwritten hanswer _ =>
    rw [hanswer]
    rfl
  | written hanswer _ hwrites _ =>
    rw [hanswer, hwrites, Report.updates, Report.events, List.filterMap_cons]
    simp only [Effect.event?, Effect.filterMap_event?_wrote]
    rfl

theorem of_refused (h : SendingCourse world tick new changed start r) {e : Error}
    (hrefused : (world tick).remote (.updateNotebook new) = .error e) :
    r.result = .error e ∧ r.store = start := by
  cases h with
  | refused hanswer =>
    cases hanswer.symm.trans hrefused
    exact ⟨rfl, rfl⟩
  | unwritten hanswer _ => cases hanswer.symm.trans hrefused
  | written hanswer _ _ _ => cases hanswer.symm.trans hrefused

theorem of_unwritten (h : SendingCourse world tick new changed start r)
    (haccepted : (world tick).remote (.updateNotebook new) = .ok ())
    (hfault : (world (tick + 2)).fault ≠ .none) :
    r.result.isOk = false ∧ r.store = start := by
  cases h with
  | refused hanswer => cases hanswer.symm.trans haccepted
  | unwritten _ _ => exact ⟨rfl, rfl⟩
  | written _ hwritable _ _ => exact absurd hwritable hfault

theorem of_written (h : SendingCourse world tick new changed start r)
    (haccepted : (world tick).remote (.updateNotebook new) = .ok ())
    (hfault : (world (tick + 2)).fault = .none) :
    r.result = .ok new ∧ Slot.notebooks.Sets (Record.encode changed) start r.store := by
  cases h with
  | refused hanswer => cases hanswer.symm.trans haccepted
  | unwritten _ hunwritten => exact absurd hfault hunwritten
  | written _ _ _ hsets => exact ⟨rfl, hsets⟩

end Command.SendingCourse

/-! ## 3. Changes

A change is given with everything that its report depends on but the world, and the parts of the
report are named: the listing, the answer, and what is in the way of writing. -/

variable {σ : Type} [Backend σ]

/-- **A change of a notebook**: a client is asked for it, at a tick and on a store. -/
structure Change (σ : Type) where
  client : Client
  name : String
  patch : NotebookPatch
  tick : Nat
  store : σ

namespace Change

variable (world : Nat → Surroundings) (c : Change σ)

/-- The report of a change. -/
def report : Report σ Notebook :=
  (c.client.perform (.updateNotebook c.name c.patch)).report world c.tick c.store

/-- The report of the listing with which a change begins. -/
def listing : Report σ (List Notebook) :=
  (notebooks c.client.config false).report world c.tick c.store

/-- What the remote service says to a notebook that is sent. -/
def answer (new : Notebook) : Except Error Unit :=
  (world (c.listing world).tick).remote (.updateNotebook new)

/-- What is in the way of caching the changed list, two ticks after the notebook was sent. -/
def fault : WriteFault := (world ((c.listing world).tick + 2)).fault

/-- **What becomes of a notebook that is sent** in place of an entry of the cached list: it is
refused, it cannot be written, or it is written and found from then on. -/
structure Settled (cache : NotebookCache) (i : Nat) (new : Notebook) : Prop where
  /-- The listing comes first. -/
  begins : (c.listing world).journal <+: (c.report world).journal
  /-- The notebook is sent once. -/
  updates : (c.report world).updates = [(new, c.answer world new)]
  /-- If the remote service refuses it, the cached list stays. -/
  refused (e : Error) (h : c.answer world new = .error e) :
    (c.report world).result = .error e ∧ (c.report world).store = (c.listing world).store
  /-- So it does if it cannot be written. -/
  unwritten (h : c.answer world new = .ok ()) (hfault : c.fault world ≠ .none) :
    (c.report world).result.isOk = false ∧ (c.report world).store = (c.listing world).store
  /-- Otherwise it is given back, and it takes the place of the entry in the cached list. -/
  written (h : c.answer world new = .ok ()) (hfault : c.fault world = .none) :
    (c.report world).result = .ok new
      ∧ Slot.notebooks.Sets (Record.encode (cache.replaced i new)) (c.listing world).store
        (c.report world).store
  /-- While this list is cached and of use, the notebook is found by its name without a call, unless
  an entry ahead of it has this name. -/
  found (hahead : ∀ nb ∈ cache.notebooks.take i, nb.name ≠ new.name) (s : σ)
      (hkept : Slot.notebooks.Holds (cache.replaced i new) s) (finder : Client)
      (later : Nat → Surroundings) (tick : Nat)
      (hfresh : cache.isOutdatedAt (later (tick + 1)).now.time = false) :
    (finder.perform (.findNotebook new.name)).report later tick s
      = ⟨.ok new, s, [.told (later (tick + 1)).now.time], tick + 2⟩

/-- **What comes of a change of a notebook**, by the listing with which it begins. -/
inductive Comes : Prop
  /-- There is no list. -/
  | unlisted {e : Error} (hlisting : (c.listing world).result = .error e)
      (hreport : c.report world
        = ⟨.error e, (c.listing world).store, (c.listing world).journal, (c.listing world).tick⟩)
      (hupdates : (c.report world).updates = [])
  /-- No notebook of the list has this name. -/
  | unnamed {cache : NotebookCache}
      (hcached : Slot.notebooks.record (c.listing world).store = .ok (some cache))
      (hlisting : (c.listing world).result = .ok cache.notebooks)
      (hnone : ∀ nb ∈ cache.notebooks, nb.name ≠ c.name)
      (hreport : c.report world = ⟨.error .noNotebookFound, (c.listing world).store,
        (c.listing world).journal, (c.listing world).tick⟩)
      (hupdates : (c.report world).updates = [])
  /-- The first notebook of this name is patched and sent. -/
  | sent {cache : NotebookCache} {i : Nat} {old new : Notebook}
      (hcached : Slot.notebooks.record (c.listing world).store = .ok (some cache))
      (hlisting : (c.listing world).result = .ok cache.notebooks)
      (hfirst : FirstNamed cache.notebooks c.name i old) (hnew : old.Patches c.patch new)
      (hsettled : c.Settled world cache i new)

/-- A change is a listing, the choice of a notebook from it, and what is done once that is found. -/
theorem report_eq : c.report world
    = (Report.mk ((c.listing world).result.bind (pickNotebook c.name)) (c.listing world).store
        (c.listing world).journal (c.listing world).tick).andThen
      fun nb tick s => (sendPatched c.name (nb.patch c.patch)).report world tick s := by
  change (updateNotebook c.client.config c.name c.patch).report world c.tick c.store = _
  rw [updateNotebook_eq, report_bind, report_findNotebook]
  rfl

variable {world c}

/-- A notebook that has taken the place of an entry is found by its name while the list is cached
and of use.  The list was read from a store, so that its time is written as it is. -/
theorem found_of_holds {cache : NotebookCache} {i : Nat} {old new : Notebook}
    (hwritten : cache.asWritten = cache) (hplace : cache.notebooks[i]? = some old)
    (hahead : ∀ nb ∈ cache.notebooks.take i, nb.name ≠ new.name) {s : σ}
    (hkept : Slot.notebooks.Holds (cache.replaced i new) s) (finder : Client)
    {later : Nat → Surroundings} {tick : Nat}
    (hfresh : cache.isOutdatedAt (later (tick + 1)).now.time = false) :
    (finder.perform (.findNotebook new.name)).report later tick s
      = ⟨.ok new, s, [.told (later (tick + 1)).now.time], tick + 2⟩ := by
  obtain ⟨hi, -⟩ := List.getElem?_eq_some_iff.1 hplace
  have hfirst : FirstNamed (cache.replaced i new).notebooks new.name i new := .set hi hahead
  have hne : (cache.replaced i new).notebooks ≠ [] := List.ne_nil_of_mem
    (List.mem_of_getElem? hfirst.place)
  have htime : cache.timestamp.asWritten = cache.timestamp :=
    congrArg NotebookCache.timestamp hwritten
  have hrecord : Slot.notebooks.record s = .ok (some (cache.replaced i new)) := by
    have hkept' : Slot.notebooks.record s = .ok (some (cache.replaced i new).asWritten) :=
      hkept.record
    simpa only [NotebookCache.asWritten, NotebookCache.replaced, htime] using hkept'
  have hlist : (notebooks finder.config false).report later tick s = _ :=
    report_notebooks_of_record hkept.hasBucket hrecord hne finder.config hfresh
  change (findNotebook finder.config new.name).report later tick s = _
  rw [report_findNotebook, hlist]
  simp only [Except.bind, pickNotebook, hfirst.find?_eq]

variable [LawfulBackend σ]

/-- **A notebook that is sent** is settled with the course that sending it takes. -/
theorem settled_of_firstNamed {cache : NotebookCache} {i : Nat} {old : Notebook}
    (hbucket : Backend.hasBucket (c.listing world).store Slot.notebooks.bucket = true)
    (hcached : Slot.notebooks.record (c.listing world).store = .ok (some cache))
    (hlisting : (c.listing world).result = .ok cache.notebooks)
    (hfirst : FirstNamed cache.notebooks c.name i old) :
    c.Settled world cache i (old.patch c.patch) := by
  have hpatched : cache.patched c.name c.patch = cache.replaced i (old.patch c.patch) := by
    rw [NotebookCache.patched, NotebookCache.replaced, hfirst.patchFirst_eq]
  have hpick : (c.listing world).result.bind (pickNotebook c.name) = .ok old := by
    rw [hlisting]
    simp only [Except.bind, pickNotebook, hfirst.find?_eq]
  have hreport := c.report_eq world
  rw [Report.andThen_of_ok hpick] at hreport
  have hupdates : (c.listing world).updates = [] := updates_notebooks _ false world _ _
  have hcourse := sendingCourse_report hfirst.find?_eq hbucket hcached c.patch world
    (c.listing world).tick
  rw [hpatched] at hcourse
  refine ⟨?_, ?_, ?_, ?_, ?_, fun hahead s hkept finder later tick hfresh => ?_⟩
  · rw [hreport]
    exact List.prefix_append _ _
  · rw [hreport, Report.updates, Report.events_after, List.filterMap_append]
    change (c.listing world).updates ++ Report.updates _ = _
    rw [hupdates, hcourse.updates_eq]
    rfl
  · intro e hrefused
    rw [hreport]
    exact hcourse.of_refused hrefused
  · intro haccepted hfault
    rw [hreport]
    exact hcourse.of_unwritten haccepted hfault
  · intro haccepted hfault
    rw [hreport]
    exact hcourse.of_written haccepted hfault
  · exact found_of_holds (Slot.asWritten_of_record hcached) hfirst.place hahead hkept finder hfresh

/-- **How a notebook is changed.**  The first notebook of the list that has the name is patched and
sent, once, and nothing is sent if there is none.  The cached list changes only if the remote
service takes the notebook and the store can be written: then the notebook stands in its old place,
and all else about the list is as it was.  From then on it is found by its new name. -/
theorem comes (world : Nat → Surroundings) (c : Change σ) : c.Comes world := by
  have hreport := c.report_eq world
  have hupdates : (c.listing world).updates = [] := updates_notebooks _ false world _ _
  cases hlisting : (c.listing world).result with
  | error e =>
    rw [hlisting] at hreport
    refine .unlisted hlisting hreport ?_
    rw [hreport]
    exact hupdates
  | ok nbs =>
    obtain ⟨hbucket, cache, hcached, rfl⟩ := cached_of_listing hlisting
    cases hfind : cache.notebooks.find? (·.name = c.name) with
    | none =>
      have hnone : ∀ nb ∈ cache.notebooks, nb.name ≠ c.name :=
        fun nb hnb => by simpa using List.find?_eq_none.1 hfind nb hnb
      rw [hlisting] at hreport
      simp only [Except.bind, pickNotebook, hfind, Report.andThen] at hreport
      refine .unnamed hcached hlisting hnone hreport ?_
      rw [hreport]
      exact hupdates
    | some old =>
      obtain ⟨i, hfirst⟩ := FirstNamed.exists_of_find? hfind
      exact .sent hcached hlisting hfirst (old.patches_patch c.patch)
        (settled_of_firstNamed hbucket hcached hlisting hfirst)

end Change

namespace Sample

def basement : Notebook := { name := "Cellar", guid := "nb-1" }

def upper : Notebook := { name := "Attic", guid := "nb-1" }

def lower : Notebook := { name := "Attic", guid := "nb-1", stack := "House" }

/-- Surroundings in which two notebooks have one name and one identifier, and can be changed. -/
def household (_ : Nat) : Surroundings where
  remote
    | .allNotebooks => .ok [basement, upper, lower]
    | .updateNotebook _ => .ok ()
    | _ => .error (.remote "offline")
  editor := .ok
  fault := .none
  now := .epoch

/-- The notebook gets another name. -/
def loftChange : Change Buckets := ⟨⟨{}, {}, .identity⟩, "Attic", { name := some "Loft" }, 0, ⟨[]⟩⟩

end Sample

/-- The first of two notebooks alike is renamed, and the other one stays in the cached list.  The
list was fetched for this, and keeps the time at which it came. -/
theorem first_of_two_renamed :
    let named : Notebook := { Sample.upper with name := "Loft" }
    Sample.loftChange.Comes Sample.household
      ∧ (Sample.loftChange.report Sample.household).result = .ok named
      ∧ Slot.notebooks.record (Sample.loftChange.report Sample.household).store
        = .ok (some (NotebookCache.mk [Sample.basement, named, Sample.lower] .epoch
          (.ofHours 24))) :=
  ⟨Change.comes Sample.household Sample.loftChange, by decide +kernel, by decide +kernel⟩

end Notekeeper
