import Notekeeper.Command.Notebooks
import Notekeeper.Proofs.Command.Records

/-!
# The course of a notebook listing

The notebook list is the cached one, or it is fetched and cached.  Which of the two happens depends
on the record, on the clock and on the caller, and each may be missing or out of order.  So there
are three courses, and this module shows that there are no others.

* The cached list was of use: its bucket was there, the record was legible, the caller did not ask
  for a fresh list, the list was not empty and, at the time that the clock told, not outdated.
  Nothing is called and nothing is written.
* The list was fetched: the answer to one call was cached, together with the time and the limit of
  the client's own configuration, and the answer is the result.
* There is no list: the look for the record failed, the call did, or the answer could not be
  cached.  Whatever was done by then left the record alone.

The clock is looked at only where it can matter, which is why a look at it stands in some journals
and not in others.  To tell the courses apart without going through all of these orders, the
listing is first brought into the form `listFrom` (`notebooks_eq`): look for a record, find out
whether it is of use, and only then fetch.

* `Command.ListingCourse` : the courses that a listing can take.
* `Command.listingCourse_report` : every listing takes one of them.
* `Command.report_fetchNotebooks` : the fetched list is cached in full, or nothing is.
-/

namespace Notekeeper.Command

/-! ## 1. The parts of a listing -/

/-- Whether a cached list is of use. -/
def isUsable (forceSync : Bool) (cached : NotebookCache) : Command Bool :=
  if forceSync then pure false
  else do
    let time ← now
    pure (!cached.isOutdatedAt time && !cached.notebooks.isEmpty)

/-- Asks for the notebook list, and caches the answer. -/
def fetchNotebooks (config : Config) : Command (List Notebook) := do
  let notebooks ← asked .allNotebooks
  let time ← now
  storeNotebookCache { notebooks, timestamp := time, limit := config.notebookCacheLimit }
  pure notebooks

/-- What follows on whether a cached list is of use follows on either way to find out. -/
theorem isUsable_bind {α : Type} (forceSync : Bool) (cached : NotebookCache)
    (f : Bool → Command α) : isUsable forceSync cached >>= f
      = if forceSync then pure false >>= f
        else now >>= fun time =>
          pure (!cached.isOutdatedAt time && !cached.notebooks.isEmpty) >>= f := by
  unfold isUsable
  cases forceSync <;> rfl

/-- The cached list where it is of use, else the answer to a call. -/
def listFrom (config : Config) (forceSync : Bool) (cached : NotebookCache) :
    Command (List Notebook) := do
  let usable ← isUsable forceSync cached
  if usable then pure cached.notebooks else fetchNotebooks config

theorem notebooks_eq (config : Config) (forceSync : Bool) : notebooks config forceSync = (do
    let cached ← notebookCache
    listFrom config forceSync (cached.getD .empty)) := by
  unfold listFrom
  simp only [isUsable_bind]
  rfl

/-! ## 2. Courses -/

variable {σ : Type} [Backend σ]

/-- What fetching the list does: the call, a look at the clock, and the answer cached. -/
def fetching (cache : NotebookCache) : List Effect :=
  .called .allNotebooks (.ok cache.notebooks) :: .told cache.timestamp
    :: (Slot.notebooks.putting (Record.encode cache)).map .wrote

/-- Whether effects show nothing to others and leave a slot alone. -/
def Quiet (slot : Slot) (effects : List Effect) : Prop :=
  ∀ effect ∈ effects, effect.event? = none ∧ ∀ op ∈ effect.op?, op.touches slot = false

/-- What fetching the list reports: it is cached in full, or nothing is. -/
theorem report_fetchNotebooks [LawfulBackend σ] (world : Nat → Surroundings) (config : Config)
    (tick : Nat) (s : σ) :
    (∃ s' answer time, (fetchNotebooks config).report world tick s
      = ⟨.ok answer, s', fetching ⟨answer, time, config.notebookCacheLimit⟩, tick + 3⟩)
    ∨ ∃ s' e journal tick', journal.filterMap Effect.op? = []
      ∧ (fetchNotebooks config).report world tick s = ⟨.error e, s', journal, tick'⟩ := by
  unfold fetchNotebooks
  rw [report_bind, report_asked]
  cases hanswer : (world tick).remote .allNotebooks with
  | error e => exact .inr ⟨s, e, _, tick + 1, rfl, rfl⟩
  | ok answer =>
    simp only [Report.andThen, report_bind, report_now]
    obtain ⟨s', hstore⟩ := report_storeRecord .notebooks
      (NotebookCache.mk answer (world (tick + 1)).now.time config.notebookCacheLimit) world
      (tick + 2) s
    rw [storeNotebookCache, hstore]
    cases hreply : (world (tick + 2)).fault.reply with
    | ok u =>
      rw [if_pos (WriteFault.reply_eq_ok.1 hreply)]
      exact .inl ⟨s', answer, (world (tick + 1)).now.time, rfl⟩
    | error e =>
      rw [if_neg (WriteFault.ne_none_of_reply hreply)]
      exact .inr ⟨s', e, _, _, rfl, rfl⟩

/-- Finding out whether a cached list is of use may take a look at the clock, and no more. -/
theorem report_isUsable (world : Nat → Surroundings) (forceSync : Bool) (cached : NotebookCache)
    (tick : Nat) (s : σ) :
    (∃ time, forceSync = false ∧ cached.isOutdatedAt time = false ∧ cached.notebooks ≠ []
      ∧ (isUsable forceSync cached).report world tick s = ⟨.ok true, s, [.told time], tick + 1⟩)
    ∨ ∃ before tick', Quiet .notebooks before ∧ before.filterMap Effect.op? = []
      ∧ (isUsable forceSync cached).report world tick s = ⟨.ok false, s, before, tick'⟩ := by
  unfold isUsable
  cases forceSync with
  | true => exact .inr ⟨[], tick, by simp [Quiet], rfl, rfl⟩
  | false =>
    have hreport : (now >>= fun time =>
          pure (!cached.isOutdatedAt time && !cached.notebooks.isEmpty)).report world tick s
        = ⟨.ok (!cached.isOutdatedAt (world tick).now.time && !cached.notebooks.isEmpty), s,
            [.told (world tick).now.time], tick + 1⟩ := rfl
    rw [if_neg Bool.false_ne_true, hreport]
    cases huse : !cached.isOutdatedAt (world tick).now.time && !cached.notebooks.isEmpty with
    | true =>
      simp only [Bool.and_eq_true, Bool.not_eq_true', List.isEmpty_eq_false_iff] at huse
      exact .inl ⟨(world tick).now.time, rfl, huse.1, huse.2, rfl⟩
    | false =>
      refine .inr ⟨[.told (world tick).now.time], tick + 1, ?_, rfl, rfl⟩
      simp [Quiet, Effect.event?, Effect.op?]

/-- What a listing reports once it has looked for a cached list. -/
theorem report_listFrom [LawfulBackend σ] (world : Nat → Surroundings) (config : Config)
    (forceSync : Bool) (cached : NotebookCache) (tick : Nat) (s : σ) :
    (∃ time, forceSync = false ∧ cached.isOutdatedAt time = false ∧ cached.notebooks ≠ []
      ∧ (listFrom config forceSync cached).report world tick s
        = ⟨.ok cached.notebooks, s, [.told time], tick + 1⟩)
    ∨ (∃ s' before answer time tick', Quiet .notebooks before
      ∧ (listFrom config forceSync cached).report world tick s
        = ⟨.ok answer, s', before ++ fetching ⟨answer, time, config.notebookCacheLimit⟩, tick'⟩)
    ∨ ∃ s' e journal tick', journal.filterMap Effect.op? = []
      ∧ (listFrom config forceSync cached).report world tick s
        = ⟨.error e, s', journal, tick'⟩ := by
  unfold listFrom
  rw [report_bind]
  rcases report_isUsable world forceSync cached tick s with
    ⟨time, hforce, hfresh, hne, h⟩ | ⟨before, tick₁, hquiet, hop, h⟩
  · rw [h]
    exact .inl ⟨time, hforce, hfresh, hne, rfl⟩
  · rw [h]
    simp only [Report.andThen, Bool.false_eq_true, if_false]
    rcases report_fetchNotebooks world config tick₁ s with
      ⟨s', answer, time, h⟩ | ⟨s', e, journal, tick', hop', h⟩
    · rw [h]
      exact .inr (.inl ⟨s', before, answer, time, _, hquiet, rfl⟩)
    · rw [h]
      refine .inr (.inr ⟨s', e, before ++ journal, tick', ?_, rfl⟩)
      rw [List.filterMap_append, hop, hop', List.append_nil]

/-- **The courses that a listing can take** from a store.  A course tells the result and the
journal; what the cached list is afterwards can be read off from there. -/
inductive ListingCourse (config : Config) (forceSync : Bool) (start : σ) :
    Report σ (List Notebook) → Prop
  /-- The cached list was of use. -/
  | cached {tick : Nat} {cache : NotebookCache} {time : Timestamp}
      (hbucket : Backend.hasBucket start Slot.notebooks.bucket = true)
      (hrecord : Slot.notebooks.record start = .ok (some cache)) (hforce : forceSync = false)
      (hfresh : cache.isOutdatedAt time = false) (hne : cache.notebooks ≠ []) :
    ListingCourse config forceSync start ⟨.ok cache.notebooks, start, [.told time], tick⟩
  /-- The list was fetched. -/
  | fetched {s : σ} {tick : Nat} {before : List Effect} {answer : List Notebook}
      {time : Timestamp} (hquiet : Quiet .notebooks before) :
    ListingCourse config forceSync start
      ⟨.ok answer, s, before ++ fetching ⟨answer, time, config.notebookCacheLimit⟩, tick⟩
  /-- There is no list. -/
  | failed {s : σ} {tick : Nat} {journal : List Effect} {e : Error}
      (hspared : ∀ op ∈ journal.filterMap Effect.op?, op.touches .notebooks = false) :
    ListingCourse config forceSync start ⟨.error e, s, journal, tick⟩

/-- **Every listing takes one of the courses.** -/
theorem listingCourse_report [LawfulBackend σ] (world : Nat → Surroundings) (config : Config)
    (forceSync : Bool) (tick : Nat) (s : σ) :
    ListingCourse config forceSync s ((notebooks config forceSync).report world tick s) := by
  rw [notebooks_eq, report_bind, notebookCache]
  cases hbucket : Backend.hasBucket s Slot.notebooks.bucket with
  | true =>
    rw [report_loadRecord hbucket]
    cases hrecord : (Slot.notebooks.record s : Except Error (Option NotebookCache)) with
    | error e => exact .failed (by simp)
    | ok found =>
      simp only [Report.andThen]
      rcases report_listFrom world config forceSync (found.getD .empty) (tick + 1) s with
        ⟨time, hforce, hfresh, hne, h⟩ | ⟨s', before, answer, time, tick', hquiet, h⟩
        | ⟨s', e, journal, tick', hop, h⟩
      · rw [h]
        cases found with
        | none => exact absurd rfl hne
        | some cache => exact .cached hbucket hrecord hforce hfresh hne
      · rw [h]
        exact .fetched hquiet
      · rw [h]
        refine .failed ?_
        rw [List.nil_append, hop]
        simp
  | false =>
    rw [report_loadRecord_of_not_hasBucket hbucket, report_updated_of_justWrites
      (Transaction.justWrites_createBucket Slot.notebooks.bucket)]
    cases hreply : (world (tick + 1)).fault.reply with
    | error e =>
      rw [if_neg (WriteFault.ne_none_of_reply hreply)]
      refine .failed fun op hop => ?_
      cases hop
    | ok u =>
      rw [if_pos (WriteFault.reply_eq_ok.1 hreply)]
      have hmade : Quiet .notebooks [.wrote (.createBucket Slot.notebooks.bucket)] := by
        simp [Quiet, Effect.event?, Effect.op?, StoreOp.touches]
      generalize ((Transaction.perform (.createBucket Slot.notebooks.bucket)).update
        (world (tick + 1)).fault s).2 = s₁
      change ListingCourse config forceSync s
        (((listFrom config forceSync .empty).report world (tick + 2) s₁).after
          [.wrote (.createBucket Slot.notebooks.bucket)])
      rcases report_listFrom world config forceSync .empty (tick + 2) s₁ with
        ⟨time, -, -, hne, -⟩ | ⟨s', before, answer, time, tick', hquiet, h⟩
        | ⟨s', e, journal, tick', hop, h⟩
      · exact absurd rfl hne
      · have hall : Quiet .notebooks
            ([.wrote (.createBucket Slot.notebooks.bucket)] ++ before) :=
          fun effect he => (List.mem_append.1 he).elim (hmade effect) (hquiet effect)
        rw [h, Report.after, ← List.append_assoc]
        exact .fetched hall
      · rw [h]
        refine .failed fun op hmem => ?_
        rw [List.filterMap_append, hop, List.append_nil] at hmem
        cases List.mem_singleton.1 hmem
        rfl

end Notekeeper.Command
