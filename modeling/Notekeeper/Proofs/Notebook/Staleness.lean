import Notekeeper.Proofs.History
import Notekeeper.Proofs.Notebook.Refreshing
import Notekeeper.Proofs.Time.Elapsed

/-!
# How stale a notebook list can be

Every list that is served is an answer of the remote service: one of this moment, or one that was
fetched before and cached.  A cached answer is no older than the limit it was cached with, and all
that has happened to it since is that changed notebooks were patched.

The invariant of a history is that the store caches no list, or one that stems from an answer
(`CachesAnswers`).  To stem from an answer means that there is a moment of the past at which the
answer was fetched, and that patching it at this moment and at all moments since gives the cached
list (`Stems`).  One moment carries this over: it may fetch another list, which stems from itself,
or it leaves the list, or it patches it, which the moments since account for
(`Moment.held_report`).  It holds of a store that cached nothing at the beginning of its history.

A listing at some moment of the history is then one of three.  It made the call, and what it gives
is the answer.  It gave the cached list; by the invariant this is an answer of the past with its
patches, and by the course of the listing it is not older than its limit, in the time that the clock
told just then.  Or there is no list, and the record is as it was.

The time of an answer was told by a clock, and therefore reads back from the record as it is
(`Fetches.asWritten`).  So the age is measured from the moment at which the answer came.

* `Moment.Fetches`, `Moment.patches` : what a moment does to the cached list.
* `Stems` : whether a cached list is what a history has made of an answer.
* `cachesAnswers_of_history` : a store caches answers only.
* `notebooks_served` : where a list that is served comes from.
-/

namespace Notekeeper

open Command

variable {σ : Type} [Backend σ]

/-! ## 1. The cached list after one moment

A moment may fetch the list and patch it, and then it is the fetched list that is patched. -/

namespace Moment

/-- Whether a list is fetched and cached at a moment. -/
def Fetches (world : Nat → Surroundings) (m : Moment σ) (cache : NotebookCache) : Prop :=
  ∃ client op, m.step = .operation client op
    ∧ Fetched client.config (m.report world).journal cache

/-- A list that is fetched has the time of a clock, and so it is written as it is. -/
theorem Fetches.asWritten {world : Nat → Surroundings} {m : Moment σ} {cache : NotebookCache}
    (h : m.Fetches world cache) : cache.asWritten = cache := by
  obtain ⟨client, op, -, -, hfetching⟩ := h
  have htold : .told cache.timestamp ∈ (m.report world).journal :=
    hfetching.subset (by simp [fetching])
  obtain ⟨tick, -, -, htime⟩ := met_of_mem_journal htold
  have hends : cache.timestamp.LeapEndsMinute := htime ▸ (world tick).now.leapEndsMinute
  rw [NotebookCache.asWritten, Timestamp.asWritten_eq_self_iff.2 hends]

/-- What a moment makes of a list: a change of a notebook that goes well patches it. -/
def patches (world : Nat → Surroundings) (m : Moment σ) (nbs : List Notebook) : List Notebook :=
  match m.step with
  | .operation _ (.updateNotebook name patch) =>
    if (m.report world).result.isOk then NotebookCache.patchFirst name patch nbs else nbs
  | _ => nbs

end Moment

/-- A cached list after moments that patch it, one after another. -/
def NotebookCache.patchedAt (world : Nat → Surroundings) (moments : List (Moment σ))
    (cache : NotebookCache) : NotebookCache :=
  { cache with
    notebooks := moments.foldl (fun nbs m => m.patches world nbs) cache.notebooks }

namespace NotebookCache

variable {world : Nat → Surroundings}

/-- A moment that does not change a notebook patches no list. -/
theorem patchedAt_of_ne {m : Moment σ}
    (h : ∀ client name patch, m.step ≠ .operation client (.updateNotebook name patch))
    (cache : NotebookCache) : cache.patchedAt world [m] = cache := by
  have hsame : m.patches world cache.notebooks = cache.notebooks := by
    unfold Moment.patches
    split
    · next client name patch hstep => exact absurd hstep (h client name patch)
    · rfl
  simp [patchedAt, hsame]

/-- The change of a notebook patches the list if it goes well. -/
theorem patchedAt_updateNotebook (client : Client) (name : String) (patch : NotebookPatch)
    (tick : Nat) (s : σ) (cache : NotebookCache) :
    cache.patchedAt world [⟨.operation client (.updateNotebook name patch), tick, s⟩]
      = if ((updateNotebook client.config name patch).report world tick s).result.isOk then
          cache.patched name patch else cache := by
  simp only [patchedAt, List.foldl_cons, List.foldl_nil, Moment.patches]
  change NotebookCache.mk (if ((updateNotebook client.config name patch).report world tick
    s).result.isOk then _ else _) _ _ = _
  split <;> rfl

theorem patchedAt_append (past : List (Moment σ)) (m : Moment σ) (cache : NotebookCache) :
    cache.patchedAt world (past ++ [m]) = (cache.patchedAt world past).patchedAt world [m] := by
  simp [patchedAt, List.foldl_append]

end NotebookCache

namespace Moment

variable [LawfulBackend σ] {world : Nat → Surroundings}

/-- A moment that does not change a notebook does no more to the cached list than to fetch it. -/
theorem held_report_of_ne (m : Moment σ)
    (h : ∀ client name patch, m.step ≠ .operation client (.updateNotebook name patch)) :
    ∃ fetched : Option NotebookCache,
      Slot.notebooks.held (m.report world).store
        = (fetched.map Record.encode).or (Slot.notebooks.held m.store)
      ∧ ∀ cache ∈ fetched, m.Fetches world cache := by
  obtain ⟨step, tick, s⟩ := m
  cases step with
  | opening =>
    have hspared : upgradeStore.Spares σ .notebooks :=
      spares_upgradeStore (by decide) (by decide)
    exact ⟨none, hspared.held world tick s, forall_mem_none⟩
  | operation client op =>
    have hop : ∀ name patch, op ≠ .updateNotebook name patch :=
      fun name patch he => h client name patch (congrArg (Step.operation client) he)
    obtain ⟨fetched, hheld, hfetched⟩ := client.refreshes_perform hop world tick s
    exact ⟨fetched, hheld, fun cache hc => ⟨client, op, rfl, hfetched cache hc⟩⟩

/-- **What a moment makes of the cached list**: it may fetch another one, and then patch it.  The
change of a notebook is the only step that can do both. -/
theorem held_report (m : Moment σ) {cached : Option NotebookCache}
    (hcached : Slot.notebooks.held m.store = cached.map Record.encode) :
    ∃ fetched : Option NotebookCache,
      Slot.notebooks.held (m.report world).store
        = (fetched.or cached).map (fun cache => Record.encode (cache.patchedAt world [m]))
      ∧ ∀ cache ∈ fetched, m.Fetches world cache := by
  by_cases hm : ∃ client name patch, m.step = .operation client (.updateNotebook name patch)
  · obtain ⟨step, tick, s⟩ := m
    obtain ⟨client, name, patch, rfl⟩ := hm
    obtain ⟨fetched, hheld, hfetched⟩ :=
      held_updateNotebook world client.config name patch tick hcached
    refine ⟨fetched, ?_, fun cache hc => ⟨client, _, rfl, hfetched cache hc⟩⟩
    simp only [NotebookCache.patchedAt_updateNotebook]
    exact hheld
  · have hne : ∀ client name patch, m.step ≠ .operation client (.updateNotebook name patch) :=
      fun client name patch he => hm ⟨client, name, patch, he⟩
    obtain ⟨fetched, hheld, hfetched⟩ := m.held_report_of_ne hne
    refine ⟨fetched, ?_, hfetched⟩
    simp only [NotebookCache.patchedAt_of_ne hne]
    rw [hheld, hcached]
    exact Option.map_or.symm

end Moment

/-! ## 2. The cached list after a history

A list is traced back to the moment at which it was fetched.  Between then and now it was only
patched, or another one would be cached. -/

/-- **Whether a cached list stems from an answer**: the answer was fetched at a moment of the past,
and it was patched by that moment and by those since. -/
inductive Stems (world : Nat → Surroundings) (past : List (Moment σ)) (cache : NotebookCache) : Prop
  | of {before since : List (Moment σ)} {m : Moment σ} {origin : NotebookCache}
      (hpast : past = before ++ m :: since) (hfetched : m.Fetches world origin)
      (hcache : cache = origin.patchedAt world (m :: since))

/-- A list that stems from an answer is written as it is: its time is still that of the answer. -/
theorem Stems.asWritten {world : Nat → Surroundings} {past : List (Moment σ)}
    {cache : NotebookCache} (h : Stems world past cache) : cache.asWritten = cache := by
  obtain @⟨before, since, m, origin, -, hfetched, rfl⟩ := h
  have htime : origin.timestamp.asWritten = origin.timestamp :=
    congrArg NotebookCache.timestamp hfetched.asWritten
  simp only [NotebookCache.asWritten, NotebookCache.patchedAt, htime]

/-- Whether a store caches no list but one that stems from an answer. -/
def CachesAnswers (world : Nat → Surroundings) (past : List (Moment σ)) (s : σ) : Prop :=
  ∃ cached : Option NotebookCache, Slot.notebooks.held s = cached.map Record.encode
    ∧ ∀ cache ∈ cached, Stems world past cache

section Histories

variable {world : Nat → Surroundings} {past : List (Moment σ)}

/-- A list that stems from an answer still does when a moment has patched it. -/
theorem Stems.snoc {cache : NotebookCache} (h : Stems world past cache) (m : Moment σ) :
    Stems world (past ++ [m]) (cache.patchedAt world [m]) := by
  obtain @⟨before, since, m₀, origin, hpast, hfetched, hcache⟩ := h
  have hlater : past ++ [m] = before ++ m₀ :: (since ++ [m]) := by
    rw [hpast, List.append_assoc, List.cons_append]
  refine .of hlater hfetched ?_
  rw [hcache, ← NotebookCache.patchedAt_append, List.cons_append]

variable [LawfulBackend σ]

theorem CachesAnswers.snoc {m : Moment σ} (h : CachesAnswers world past m.store) :
    CachesAnswers world (past ++ [m]) (m.report world).store := by
  obtain ⟨cached, hcached, hstems⟩ := h
  obtain ⟨fetched, hheld, hfetched⟩ := m.held_report hcached
  refine ⟨(fetched.or cached).map (·.patchedAt world [m]), ?_, fun cache hcache => ?_⟩
  · rw [hheld, Option.map_map]
    rfl
  · obtain ⟨old, hold, rfl⟩ := Option.map_eq_some_iff.1 hcache
    rcases Option.or_eq_some_iff.1 hold with hnew | ⟨-, hsame⟩
    · exact .of rfl (hfetched old hnew) rfl
    · exact (hstems old hsame).snoc m

/-- **A store caches answers only**, where it cached nothing before its history, at the end of it as
at every point before. -/
theorem cachesAnswers_of_history {s : σ} (hstart : Slot.notebooks.held s = none)
    (steps : List Step) (tick : Nat) :
    CachesAnswers world (history world steps tick s) (storeAfter world steps tick s) := by
  have hnothing : CachesAnswers world [] s :=
    ⟨none, hstart, forall_mem_none⟩
  exact history_induction (fun past m hpast => hpast.snoc) steps tick s [] hnothing

omit [LawfulBackend σ] in
/-- The record that a store caches stems from an answer. -/
theorem CachesAnswers.stems {s : σ} {cache : NotebookCache} (h : CachesAnswers world past s)
    (hrecord : Slot.notebooks.record s = .ok (some cache)) : Stems world past cache := by
  obtain ⟨cached, hcached, hstems⟩ := h
  obtain ⟨old, hold, hwritten⟩ := Option.map_eq_some_iff.1 (Slot.eq_of_record hcached hrecord)
  have hstem := hstems old hold
  rwa [← hwritten, show LawfulRecord.asWritten old = old from hstem.asWritten]

end Histories

/-! ## 3. Listings

What is served is told by the course of the listing, and where a cached list comes from by the
invariant of the history. -/

/-- **Where a list that is served comes from**, by a client's listing that begins at a tick with a
store, after a past. -/
inductive Served (world : Nat → Surroundings) (past : List (Moment σ)) (client : Client)
    (forceSync : Bool) (tick : Nat) (s : σ) (r : Report σ (List Notebook)) : Prop
  /-- It is the answer to the one call of the listing, and it is cached as it was told, with the
  time and the limit of this moment. -/
  | fetched {nbs : List Notebook} {time : Timestamp} (hresult : r.result = .ok nbs)
      (hevents : r.events = [.called .allNotebooks (.ok nbs)])
      (hnow : (Effect.told time).MetBetween world tick r.tick)
      (hheld : Slot.notebooks.held r.store
        = some (Record.encode (NotebookCache.mk nbs time client.config.notebookCacheLimit)))
  /-- It is an answer that was fetched before, patched since, and within its limit.  Nothing is
  called. -/
  | cached {before since : List (Moment σ)} {m : Moment σ} {origin : NotebookCache}
      {time : Timestamp} (hpast : past = before ++ m :: since) (hfetched : m.Fetches world origin)
      (hresult : r.result = .ok (origin.patchedAt world (m :: since)).notebooks)
      (hne : (origin.patchedAt world (m :: since)).notebooks ≠ []) (hevents : r.events = [])
      (hforce : forceSync = false) (hnow : (Effect.told time).MetBetween world tick r.tick)
      (hfresh : time.elapsed origin.timestamp ≤ origin.limit.inNanos)
      (hheld : Slot.notebooks.held r.store = Slot.notebooks.held s)
  /-- There is no list, and the cached one is as it was. -/
  | failed {e : Error} (hresult : r.result = .error e)
      (hheld : Slot.notebooks.held r.store = Slot.notebooks.held s)

section Listings

variable {world : Nat → Surroundings}

theorem events_fetching (before : List Effect) (cache : NotebookCache)
    (h : Quiet .notebooks before) : (before ++ fetching cache).filterMap Effect.event?
      = [.called .allNotebooks (.ok cache.notebooks)] := by
  have hbefore : before.filterMap Effect.event? = [] :=
    List.filterMap_eq_nil_iff.2 fun effect he => (h effect he).1
  rw [List.filterMap_append, hbefore]
  rfl

variable [LawfulBackend σ]

/-- **A listing from a store that caches answers only** serves an answer. -/
theorem CachesAnswers.served {past : List (Moment σ)} {s : σ} (h : CachesAnswers world past s)
    (client : Client) (forceSync : Bool) (tick : Nat) :
    Served world past client forceSync tick s
      ((notebooks client.config forceSync).report world tick s) := by
  have hmet {effect : Effect}
      (he : effect ∈ ((notebooks client.config forceSync).report world tick s).journal) :=
    met_of_mem_journal he
  cases listed_notebooks world client.config forceSync tick s with
  | @cached cache time hbucket hrecord hforce hfresh hne hresult hjournal hheld =>
    obtain @⟨before, since, m, origin, hpast, hfetched, rfl⟩ := h.stems hrecord
    have hnow : (Effect.told time).MetBetween world tick _ := hmet (by simp [hjournal])
    have helapsed : time.elapsed origin.timestamp ≤ origin.limit.inNanos :=
      Duration.exceededBetween_eq_false.1 hfresh
    refine .cached hpast hfetched hresult hne ?_ hforce hnow helapsed hheld
    rw [Report.events, hjournal]
    rfl
  | @fetched before cache hquiet hlimit hresult hjournal hheld =>
    have hnow : (Effect.told cache.timestamp).MetBetween world tick _ :=
      hmet (by simp [hjournal, fetching])
    refine .fetched hresult ?_ hnow ?_
    · rw [Report.events, hjournal]
      exact events_fetching before cache hquiet
    · rw [hheld, ← hlimit]
  | failed hresult hheld => exact .failed hresult hheld

/-- **Every list that is served is an answer**, of this moment or from before and within its limit,
whatever history the store has, if it cached nothing when that began.  The listing may be any of the
history's own. -/
theorem notebooks_served {steps : List Step} {tick tick' : Nat} {s s' : σ}
    {before since : List (Moment σ)} {client : Client} {forceSync : Bool}
    (hstart : Slot.notebooks.held s = none)
    (hhistory : history world steps tick s
      = before ++ ⟨.operation client (.notebooks forceSync), tick', s'⟩ :: since) :
    Served world before client forceSync tick' s'
      ((notebooks client.config forceSync).report world tick' s') := by
  obtain ⟨steps₁, _, hbefore, hstore, -⟩ := exists_of_history_eq_append hhistory
  have hanswers : CachesAnswers world before s' := by
    rw [hbefore, show s' = storeAfter world steps₁ tick s from hstore]
    exact cachesAnswers_of_history hstart steps₁ tick
  exact hanswers.served client forceSync tick'

end Listings

namespace Sample

/-- Surroundings in which there is one notebook, and everything goes well. -/
def serving (_ : Nat) : Surroundings where
  remote
    | .allNotebooks => .ok [{ name := "Inbox", guid := "b-1" }]
    | .updateNotebook _ => .ok ()
    | _ => .error (.remote "not served")
  editor text := .ok text
  fault := .none
  now := .epoch

def reader : Client := ⟨{}, {}, .identity⟩

/-- The list is fetched into an empty store. -/
def fetch : Moment Buckets := ⟨.operation reader (.notebooks true), 0, ⟨[]⟩⟩

/-- The notebook then gets another name. -/
def rename : Moment Buckets :=
  fetch.next serving (.operation reader (.updateNotebook "Inbox" { name := some "Work" }))

end Sample

/-- The list that was fetched is served with its notebook renamed, without another call. -/
theorem notebooks_served_renamed :
    let renamed := Sample.rename.report Sample.serving
    let r := (notebooks Sample.reader.config false).report Sample.serving renamed.tick renamed.store
    Served Sample.serving [Sample.fetch, Sample.rename] Sample.reader false renamed.tick
      renamed.store r
    ∧ r.result.toOption = some [{ name := "Work", guid := "b-1" }] := by
  have hstart : Slot.notebooks.held Sample.fetch.store = none := rfl
  have hhistory := Sample.fetch.history_next Sample.serving
    (.operation Sample.reader (.updateNotebook "Inbox" { name := some "Work" }))
    (.operation Sample.reader (.notebooks false))
  exact ⟨notebooks_served hstart hhistory, by decide +kernel⟩

end Notekeeper
