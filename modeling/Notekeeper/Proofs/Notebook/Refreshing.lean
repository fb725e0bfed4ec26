import Notekeeper.Proofs.Command.Footprint
import Notekeeper.Proofs.Command.ReadBack

/-!
# What commands make of the cached notebook list

Commands that need the notebook list may fetch it, and then the answer takes the place of the
cached list.  Only changing a notebook does more: it patches the cached list.  These two are all
that ever happens to it, and this module says so of each operation.

A command refreshes the list if the slot holds afterwards what it held before, or a list that the
journal shows to be fetched: asked for, stamped with the time that the clock told, and cached with
the limit of the client's own configuration (`Command.Fetched`).  That is closed under `>>=`, as
the later of two fetched lists is the one that stays.  A listing refreshes the list because its
courses do (`Command/Listing`), a command that does not list spares the slot, and all operations
but one are made of these.

The change of a notebook is told by itself.  It lists, picks the first notebook with the name, sends
it with its patch, and then looks in the cached list for the entry with the identifier and name that
it had found.  As the listing left the very list there that the notebook was picked from, the entry
that is found now is the one that was picked before, also where names and identifiers repeat
(`replaceFirst?_patch`), and so the list is cached with this one entry patched and its age kept.  If
the service refuses the notebook, or the list cannot be written, the list stays.

* `Command.Refreshes` : commands that do no more to the cached list than to fetch it.
* `Client.refreshes_perform` : every operation but the change of a notebook is one.
* `Command.sendingCourse_report` : the courses that sending a notebook can take.
* `Command.held_updateNotebook` : what changing a notebook makes of the cached list.
-/

namespace Notekeeper

/-! ## 1. Patches

The list is searched by name when the notebook is looked for, and by name and identifier when it is
to be replaced. -/

namespace NotebookCache

/-- The list with the first notebook of this name patched. -/
def patchFirst (name : String) (patch : NotebookPatch) : List Notebook → List Notebook
  | [] => []
  | nb :: rest =>
    if nb.name = name then nb.patch patch :: rest else nb :: patchFirst name patch rest

/-- **The notebook that was found by its name is the one that is replaced.**  It is looked for by
its identifier as well, but no entry ahead of it has its name. -/
theorem replaceFirst?_patch {name : String} {nbs : List Notebook} {nb : Notebook}
    (h : nbs.find? (·.name = name) = some nb) (patch : NotebookPatch) :
    replaceFirst? nb.guid name (nb.patch patch) nbs = some (patchFirst name patch nbs) := by
  induction nbs with
  | nil => cases h
  | cons first rest ih =>
    by_cases hname : first.name = name
    · have hfirst : first = nb := by simpa [hname] using h
      subst hfirst
      simp [replaceFirst?, patchFirst, hname]
    · have hrest : rest.find? (·.name = name) = some nb := by simpa [hname] using h
      simp [replaceFirst?, patchFirst, hname, ih hrest]

/-- A cached list with the first notebook of this name patched.  Its age stays. -/
def patched (cache : NotebookCache) (name : String) (patch : NotebookPatch) : NotebookCache :=
  { cache with notebooks := patchFirst name patch cache.notebooks }

end NotebookCache

namespace Command

variable {σ : Type} [Backend σ] {α β : Type}

/-! ## 2. Commands that may fetch the list

To refresh is said of every world and every store, so that it can be put together step by step. -/

/-- Whether a journal shows that a list was fetched and cached, by a client with this
configuration. -/
def Fetched (config : Config) (journal : List Effect) (cache : NotebookCache) : Prop :=
  cache.limit = config.notebookCacheLimit ∧ fetching cache <:+: journal

theorem Fetched.mono {config : Config} {journal journal' : List Effect} {cache : NotebookCache}
    (h : Fetched config journal cache) (hj : journal <:+: journal') :
    Fetched config journal' cache :=
  ⟨h.1, h.2.trans hj⟩

/-- **Whether a command does no more to the cached list than to fetch it.**  What was fetched is in
the journal, so that it is known when, and with which limit. -/
def Refreshes (σ : Type) [Backend σ] (config : Config) (c : Command α) : Prop :=
  ∀ (world : Nat → Surroundings) (tick : Nat) (s : σ), ∃ fetched : Option NotebookCache,
    Slot.notebooks.held (c.report world tick s).store
      = (fetched.map Record.encode).or (Slot.notebooks.held s)
    ∧ ∀ cache ∈ fetched, Fetched config (c.report world tick s).journal cache

/-- Where no list was fetched, nothing is said of one. -/
theorem forall_mem_none {P : NotebookCache → Prop} :
    ∀ cache ∈ (none : Option NotebookCache), P cache := by
  intro cache hcache
  cases hcache

theorem Spares.refreshes [LawfulBackend σ] {c : Command α} (h : c.Spares σ .notebooks)
    (config : Config) : c.Refreshes σ config :=
  fun world tick s => ⟨none, h.held world tick s, forall_mem_none⟩

theorem Refreshes.bind {config : Config} {c : Command α} {f : α → Command β}
    (h : c.Refreshes σ config) (hf : ∀ a, (f a).Refreshes σ config) :
    (c >>= f).Refreshes σ config := by
  intro world tick s
  obtain ⟨first, hheld, hfirst⟩ := h world tick s
  rw [report_bind]
  cases hr : c.report world tick s with
  | mk result s₁ journal tick₁ =>
    rw [hr] at hheld hfirst
    cases result with
    | error e => exact ⟨first, hheld, hfirst⟩
    | ok a =>
      obtain ⟨second, hheld', hsecond⟩ := hf a world tick₁ s₁
      refine ⟨second.or first, ?_, fun cache hcache => ?_⟩
      · calc Slot.notebooks.held ((f a).report world tick₁ s₁).store
            = (second.map Record.encode).or
              ((first.map Record.encode).or (Slot.notebooks.held s)) := by rw [hheld', hheld]
          _ = ((second.or first).map Record.encode).or (Slot.notebooks.held s) := by
            rw [Option.map_or, Option.or_assoc]
      · rcases Option.or_eq_some_iff.1 hcache with hcache | ⟨-, hcache⟩
        · exact (hsecond cache hcache).mono (List.suffix_append _ _).isInfix
        · exact (hfirst cache hcache).mono (List.prefix_append _ _).isInfix

/-! ## 3. Listing the notebooks -/

/-- The cached list after effects that end in fetching a list. -/
theorem replay_fetching (before : List Effect) (cache : NotebookCache) (old : Option Bytes) :
    Transaction.replay Slot.notebooks.bucket Slot.notebooks.key
      ((before ++ fetching cache).filterMap Effect.op?) old = some (Record.encode cache) := by
  have hputs : (fetching cache).filterMap Effect.op?
      = Slot.notebooks.putting (Record.encode cache) := Effect.filterMap_op?_wrote _
  rw [List.filterMap_append, hputs, Transaction.replay, List.foldl_append]
  exact Slot.replay_putting .notebooks _ _

/-- **What a listing gives, and makes of the cached list.** -/
inductive Listed (config : Config) (forceSync : Bool) (s : σ) (r : Report σ (List Notebook)) :
    Prop
  /-- The cached list was of use. -/
  | cached {cache : NotebookCache} {time : Timestamp}
      (hbucket : Backend.hasBucket s Slot.notebooks.bucket = true)
      (hrecord : Slot.notebooks.record s = .ok (some cache)) (hforce : forceSync = false)
      (hfresh : cache.isOutdatedAt time = false) (hne : cache.notebooks ≠ [])
      (hresult : r.result = .ok cache.notebooks) (hjournal : r.journal = [.told time])
      (hheld : Slot.notebooks.held r.store = Slot.notebooks.held s)
  /-- The list was fetched. -/
  | fetched {before : List Effect} {cache : NotebookCache} (hquiet : Quiet .notebooks before)
      (hlimit : cache.limit = config.notebookCacheLimit)
      (hresult : r.result = .ok cache.notebooks) (hjournal : r.journal = before ++ fetching cache)
      (hheld : Slot.notebooks.held r.store = some (Record.encode cache))
  /-- There is no list. -/
  | failed {e : Error} (hresult : r.result = .error e)
      (hheld : Slot.notebooks.held r.store = Slot.notebooks.held s)

theorem listed_notebooks [LawfulBackend σ] (world : Nat → Surroundings) (config : Config)
    (forceSync : Bool) (tick : Nat) (s : σ) :
    Listed config forceSync s ((notebooks config forceSync).report world tick s) := by
  have hheld := get_report world (notebooks config forceSync) tick s Slot.notebooks.bucket
    Slot.notebooks.key
  have hcourse := listingCourse_report world config forceSync tick s
  generalize (notebooks config forceSync).report world tick s = r at hheld hcourse
  cases hcourse with
  | cached hbucket hrecord hforce hfresh hne =>
    exact .cached hbucket hrecord hforce hfresh hne rfl rfl rfl
  | fetched hquiet => exact .fetched hquiet rfl rfl rfl (hheld.trans (replay_fetching _ _ _))
  | failed hspared => exact .failed rfl (hheld.trans (replay_of_not_touches hspared _))

/-- **A list that is served is the cached one** from then on. -/
theorem cached_of_listing [LawfulBackend σ] {world : Nat → Surroundings} {config : Config}
    {forceSync : Bool} {tick : Nat} {s : σ} {nbs : List Notebook}
    (h : ((notebooks config forceSync).report world tick s).result = .ok nbs) :
    let listing := (notebooks config forceSync).report world tick s
    Backend.hasBucket listing.store Slot.notebooks.bucket = true
      ∧ ∃ cache : NotebookCache, Slot.notebooks.record listing.store = .ok (some cache)
        ∧ cache.notebooks = nbs := by
  intro listing
  cases listed_notebooks world config forceSync tick s with
  | @cached cache time hbucket hrecord hforce hfresh hne hresult hjournal hheld =>
    refine ⟨hasBucket_report world _ tick hbucket, cache, ?_, ?_⟩
    · rw [Slot.record_congr hheld, hrecord]
    · exact Except.ok.inj (hresult.symm.trans h)
  | @fetched before cache hquiet hlimit hresult hjournal hheld =>
    have hmade : .wrote (.createBucket Slot.notebooks.bucket) ∈ listing.journal := by
      rw [show listing.journal = before ++ fetching cache from hjournal]
      exact List.mem_append_right before (by simp [fetching, Slot.putting])
    exact ⟨hasBucket_of_mem_journal hmade, cache.asWritten, Slot.record_of_held_encode hheld,
      Except.ok.inj (hresult.symm.trans h)⟩
  | failed hresult hheld => cases hresult.symm.trans h

theorem refreshes_notebooks [LawfulBackend σ] (config : Config) (forceSync : Bool) :
    (notebooks config forceSync).Refreshes σ config := by
  intro world tick s
  cases listed_notebooks world config forceSync tick s with
  | cached _ _ _ _ _ _ _ hheld => exact ⟨none, hheld, forall_mem_none⟩
  | @fetched before cache hquiet hlimit hresult hjournal hheld =>
    refine ⟨some cache, hheld, fun cache' hc => ?_⟩
    cases hc
    refine ⟨hlimit, ?_⟩
    rw [hjournal]
    exact (List.suffix_append _ _).isInfix
  | failed _ hheld => exact ⟨none, hheld, forall_mem_none⟩

theorem refreshes_findNotebook [LawfulBackend σ] (config : Config) (name : String) :
    (findNotebook config name).Refreshes σ config := by
  refine .bind (refreshes_notebooks config false) fun found => ?_
  split
  · exact (spares_done _ _).refreshes config
  · exact (spares_done _ _).refreshes config

/-! ## 4. Finding notes -/

theorem refreshes_narrowing [LawfulBackend σ] (config : Config) (notebook : Option String) :
    (narrowing config notebook).Refreshes σ config := by
  unfold narrowing
  split
  · exact .bind (refreshes_findNotebook config _) fun nb => (spares_done _ _).refreshes config
  · exact (spares_done _ _).refreshes config

theorem refreshes_noteByTitle [LawfulBackend σ] (config : Config) (title : String)
    (notebook : Option String) : (noteByTitle config title notebook).Refreshes σ config := by
  rw [noteByTitle_eq]
  refine .bind (refreshes_narrowing config notebook) fun guid => ?_
  exact (spares_titledNote config title guid).refreshes config

theorem refreshes_note [LawfulBackend σ] (config : Config) (title : String)
    (notebook : Option String) : (note config title notebook).Refreshes σ config := by
  refine .bind ((spares_noteByOrdinal title).refreshes config) fun found => ?_
  split
  · exact (spares_done _ _).refreshes config
  · exact refreshes_noteByTitle config title notebook

theorem refreshes_moveNote [LawfulBackend σ] (config : Config) (title notebook : String) :
    (moveNote config title notebook).Refreshes σ config := by
  refine .bind (refreshes_note config title none) fun note => ?_
  refine .bind (refreshes_findNotebook config notebook) fun nb => ?_
  exact (Spares.bind (spares_asked _ _) fun _ => spares_done _ _).refreshes config

theorem refreshes_deleteNote [LawfulBackend σ] (config : Config) (title : String)
    (notebook : Option String) : (deleteNote config title notebook).Refreshes σ config := by
  refine .bind (refreshes_note config title notebook) fun note => ?_
  exact (Spares.bind (spares_asked _ _) fun _ => spares_done _ _).refreshes config

/-! ## 5. Changing a notebook

This is the one operation that writes a list which it has not just fetched. -/

/-- The notebook of a list that has this name, if there is one. -/
def pickNotebook (name : String) (nbs : List Notebook) : Except Error Notebook :=
  match nbs.find? (·.name = name) with
  | some nb => .ok nb
  | none => .error .noNotebookFound

/-- Finding a notebook does no more than listing them. -/
theorem report_findNotebook (world : Nat → Surroundings) (config : Config) (name : String)
    (tick : Nat) (s : σ) : (findNotebook config name).report world tick s
      = let listing := (notebooks config false).report world tick s
        { listing with result := listing.result.bind (pickNotebook name) } := by
  unfold findNotebook
  rw [report_bind]
  cases (notebooks config false).report world tick s with
  | mk result s' journal tick' =>
    cases result with
    | error e => rfl
    | ok nbs =>
      simp only [Report.andThen, Except.bind, pickNotebook]
      cases nbs.find? (·.name = name) with
      | none => simp [report_fail, Report.after]
      | some nb => simp [report_pure, Report.after]

theorem find?_of_pickNotebook {name : String} {nbs : List Notebook} {nb : Notebook}
    (h : pickNotebook name nbs = .ok nb) : nbs.find? (·.name = name) = some nb := by
  unfold pickNotebook at h
  split at h
  · next found hfound =>
    rw [hfound, Except.ok.inj h]
  · cases h

/-- **What finding a notebook makes of the cached list**: the list that the notebook was found in,
where it was found. -/
theorem held_findNotebook [LawfulBackend σ] (world : Nat → Surroundings) (config : Config)
    (name : String) (tick : Nat) {s : σ} {cached : Option NotebookCache}
    (hcached : Slot.notebooks.held s = cached.map Record.encode) :
    let r := (findNotebook config name).report world tick s
    ∃ fetched : Option NotebookCache,
      Slot.notebooks.held r.store = (fetched.or cached).map Record.encode
      ∧ (∀ cache ∈ fetched, Fetched config r.journal cache)
      ∧ ∀ nb, r.result = .ok nb → ∃ cache ∈ fetched.or cached,
        cache.notebooks.find? (·.name = name) = some nb
        ∧ Backend.hasBucket r.store Slot.notebooks.bucket = true := by
  simp only [report_findNotebook]
  obtain ⟨fetched, hheld, hfetched⟩ := refreshes_notebooks config false world tick s
  have hnow : Slot.notebooks.held ((notebooks config false).report world tick s).store
      = (fetched.or cached).map Record.encode := by
    rw [hheld, hcached, Option.map_or]
  refine ⟨fetched, hnow, hfetched, fun nb hnb => ?_⟩
  obtain ⟨nbs, hlisting, hpick⟩ := bind_eq_ok_iff.1 hnb
  obtain ⟨hbucket, cache, hrecord, rfl⟩ := cached_of_listing hlisting
  -- the list in the store may tell its time otherwise, but not its notebooks
  obtain ⟨found, hfound, rfl⟩ := Option.map_eq_some_iff.1 (Slot.eq_of_record hnow hrecord)
  exact ⟨found, hfound, find?_of_pickNotebook hpick, hbucket⟩

/-- What changing a notebook does once the notebook is found. -/
def sendPatched (name : String) (nb : Notebook) : Command Notebook := do
  asked (.updateNotebook nb)
  if let some cached ← notebookCache then
    if let some changed := NotebookCache.replaceFirst? nb.guid name nb cached.notebooks then
      storeNotebookCache { cached with notebooks := changed }
  pure nb

theorem updateNotebook_eq (config : Config) (name : String) (patch : NotebookPatch) :
    updateNotebook config name patch
      = findNotebook config name >>= fun nb => sendPatched name (nb.patch patch) := rfl

/-- **The courses that sending a notebook can take**, and what comes of the cached list. -/
inductive SendingCourse (world : Nat → Surroundings) (tick : Nat) (new : Notebook)
    (changed : NotebookCache) (start : σ) : Report σ Notebook → Prop
  /-- The remote service does not take it. -/
  | refused {tick' : Nat} {e : Error}
      (hanswer : (world tick).remote (.updateNotebook new) = .error e) :
    SendingCourse world tick new changed start
      ⟨.error e, start, [.called (.updateNotebook new) (.error e)], tick'⟩
  /-- The list cannot be written. -/
  | unwritten {tick' : Nat} {e : Error}
      (hanswer : (world tick).remote (.updateNotebook new) = .ok ())
      (hfault : (world (tick + 2)).fault ≠ .none) :
    SendingCourse world tick new changed start
      ⟨.error e, start, [.called (.updateNotebook new) (.ok ())], tick'⟩
  /-- The changed list is cached. -/
  | written {s : σ} {tick' : Nat} {writes : List Effect}
      (hanswer : (world tick).remote (.updateNotebook new) = .ok ())
      (hfault : (world (tick + 2)).fault = .none)
      (hwrites : writes = (Slot.notebooks.putting (Record.encode changed)).map .wrote)
      (hsets : Slot.notebooks.Sets (Record.encode changed) start s) :
    SendingCourse world tick new changed start
      ⟨.ok new, s, .called (.updateNotebook new) (.ok ()) :: writes, tick'⟩

/-- **Sending a notebook takes one of the courses** where the notebook is in the cached list, which
is where the listing before it left it. -/
theorem sendingCourse_report [LawfulBackend σ] {name : String} {nb : Notebook}
    {cache : NotebookCache} {s : σ} (hfound : cache.notebooks.find? (·.name = name) = some nb)
    (hbucket : Backend.hasBucket s Slot.notebooks.bucket = true)
    (hrecord : Slot.notebooks.record s = .ok (some cache)) (patch : NotebookPatch)
    (world : Nat → Surroundings) (tick : Nat) :
    SendingCourse world tick (nb.patch patch) (cache.patched name patch) s
      ((sendPatched name (nb.patch patch)).report world tick s) := by
  have hchanged : NotebookCache.replaceFirst? (nb.patch patch).guid name (nb.patch patch)
      cache.notebooks = some (NotebookCache.patchFirst name patch cache.notebooks) :=
    NotebookCache.replaceFirst?_patch hfound patch
  unfold sendPatched
  rw [report_bind, report_asked]
  cases hanswer : (world tick).remote (.updateNotebook (nb.patch patch)) with
  | error e => exact .refused hanswer
  | ok u =>
    simp only [Report.andThen, notebookCache]
    rw [report_bind, report_loadRecord hbucket, hrecord]
    simp only [Report.andThen, hchanged]
    rw [report_bind]
    -- The list that is cached now is the patched one.
    change SendingCourse world tick _ _ s (((((storeRecord .notebooks (cache.patched name
      patch)).report world (tick + 2) s).andThen _).after _).after _)
    have hputs := puts_storeRecord .notebooks (cache.patched name patch) s
    have hwritten := hputs.written world (tick + 2)
    have hunwritten := hputs.unwritten world (tick + 2)
    obtain ⟨s', hstore⟩ := report_storeRecord .notebooks (cache.patched name patch) world
      (tick + 2) s
    rw [hstore] at hwritten hunwritten ⊢
    by_cases hfault : (world (tick + 2)).fault = .none
    · obtain ⟨-, hsets⟩ := hwritten hfault
      rw [hfault, if_pos rfl]
      exact .written hanswer hfault rfl hsets
    · obtain ⟨hnot, rfl⟩ := hunwritten hfault
      rw [if_neg hfault]
      cases hreply : (world (tick + 2)).fault.reply with
      | error e => exact .unwritten hanswer hfault
      | ok u => exact absurd (WriteFault.reply_eq_ok.1 hreply) hfault

/-- **A notebook that is sent is patched in the cached list**, unless something goes wrong. -/
theorem held_sendPatched [LawfulBackend σ] {name : String} {nb : Notebook} {cache : NotebookCache}
    {s : σ} (hfound : cache.notebooks.find? (·.name = name) = some nb)
    (hbucket : Backend.hasBucket s Slot.notebooks.bucket = true)
    (hheld : Slot.notebooks.held s = some (Record.encode cache)) (patch : NotebookPatch)
    (world : Nat → Surroundings) (tick : Nat) :
    let r := (sendPatched name (nb.patch patch)).report world tick s
    Slot.notebooks.held r.store
      = some (Record.encode (if r.result.isOk then cache.patched name patch else cache)) := by
  have hrecord : Slot.notebooks.record s = .ok (some cache.asWritten) :=
    Slot.record_of_held_encode hheld
  have hfound' : cache.asWritten.notebooks.find? (·.name = name) = some nb := hfound
  have hcourse := sendingCourse_report hfound' hbucket hrecord patch world tick
  have hpatched : Record.encode (cache.asWritten.patched name patch)
      = Record.encode (cache.patched name patch) :=
    Record.encode_asWritten (cache.patched name patch)
  generalize (sendPatched name (nb.patch patch)).report world tick s = r at hcourse ⊢
  cases hcourse with
  | refused => exact hheld
  | unwritten => exact hheld
  | written _ _ _ hsets => exact hsets.held.trans (congrArg some hpatched)

/-- **What changing a notebook makes of the cached list**: the list that the notebook was found in
is patched, unless something goes wrong. -/
theorem held_updateNotebook [LawfulBackend σ] (world : Nat → Surroundings) (config : Config)
    (name : String) (patch : NotebookPatch) (tick : Nat) {s : σ} {cached : Option NotebookCache}
    (hcached : Slot.notebooks.held s = cached.map Record.encode) :
    let r := (updateNotebook config name patch).report world tick s
    ∃ fetched : Option NotebookCache,
      Slot.notebooks.held r.store = (fetched.or cached).map (fun cache =>
        Record.encode (if r.result.isOk then cache.patched name patch else cache))
      ∧ ∀ cache ∈ fetched, Fetched config r.journal cache := by
  obtain ⟨fetched, hheld, hfetched, hfound⟩ := held_findNotebook world config name tick hcached
  rw [updateNotebook_eq, report_bind]
  cases hr : (findNotebook config name).report world tick s with
  | mk result s₁ journal tick₁ =>
    rw [hr] at hheld hfetched hfound
    refine ⟨fetched, ?_⟩
    cases result with
    | error e => exact ⟨hheld, hfetched⟩
    | ok nb =>
      obtain ⟨cache, hcache, hnb, hbucket⟩ := hfound nb rfl
      rw [Option.mem_def.1 hcache] at hheld ⊢
      refine ⟨held_sendPatched hnb hbucket hheld patch world tick₁, fun cache' hc => ?_⟩
      exact (hfetched cache' hc).mono (List.prefix_append _ _).isInfix

end Command

/-! ## 6. Operations -/

variable {σ : Type} [Backend σ]

/-- **No operation but the change of a notebook does more to the cached list than to fetch it.** -/
theorem Client.refreshes_perform [LawfulBackend σ] (client : Client) {op : Operation}
    (h : ∀ name patch, op ≠ .updateNotebook name patch) :
    (client.perform op).Refreshes σ client.config := by
  by_cases hop : Slot.notebooks ∈ op.slots
  · cases op with
    | notebooks forceSync => exact Command.refreshes_notebooks _ forceSync
    | findNotebook name => exact Command.refreshes_findNotebook _ name
    | updateNotebook name patch => exact absurd rfl (h name patch)
    | note title notebook => exact Command.refreshes_note _ title notebook
    | moveNote title notebook => exact Command.refreshes_moveNote _ title notebook
    | deleteNote title notebook => exact Command.refreshes_deleteNote _ title notebook
    | _ => exact absurd hop (by simp [Operation.slots])
  · exact (client.spares_perform hop).refreshes client.config

end Notekeeper
