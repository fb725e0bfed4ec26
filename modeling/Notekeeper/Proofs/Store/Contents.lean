import Mathlib.Data.List.Nodup
import Notekeeper.Proofs.Store.Transaction

/-!
# Two kinds of store that are one

However a store lays out its data, it holds buckets and entries, and operations tell and change
nothing but these.  So nested maps and two tables that start empty cannot be told apart by any
transactions, and hold the same in the end.  What makes them the same are two facts about their
layouts: no key is listed twice, and no row of the tables stands without its bucket.

What a store holds is a pair of functions, `Contents`, which forgets the layout.  The reply of an
operation and what is held after it can be told by `Contents` alone (`Backend.perform_contents`),
for every store that obeys the laws of one.  A transaction is a tree of operations whose branches
are chosen by the replies.  By induction over the tree, what it replies, what it ends in and what is
held after it are told by `Contents` too (`Transaction.run_outcome`); and so two stores that hold
the same go through it alike (`Transaction.agree`), of whatever kinds they are.  By induction over
the requests this carries over to any number of them.

Equal contents do not yet say that the two stores list the same buckets and entries, because a
layout could repeat a key or list a row of no bucket, where a look by key would not show it.
Sections 4 and 5 exclude that: every operation keeps both kinds well-formed, the empty ones are, and
in a well-formed store what is listed is what is found by key.

* `Contents` : what a store holds, and what operations make of it.
* `Transaction.inTurn_run` : the operations of a transaction are done in turn, each on what the ones
  before it left.
* `Transaction.agree` : stores that hold the same reply the same, and hold the same afterwards.
* `UpdatesWhole` : updates that take effect as a whole or not at all.
* `kinds_of_store_agree` : nested maps and two tables, started empty.
-/

namespace Notekeeper

/-! ## 1. What a store holds

The contents of a store are two functions, so that two stores hold the same if these are equal. -/

/-- **What a store holds**, however it lays it out: which buckets there are, and what is under each
key of a bucket. -/
@[ext]
structure Contents where
  hasBucket : String → Bool
  entry : String → Bytes → Option Bytes

namespace Contents

/-- What an operation replies, told by what the store holds. -/
def reply (c : Contents) : (op : StoreOp) → Except Error op.Reply
  | .hasBucket b => .ok (c.hasBucket b)
  | .get b k => .ok (c.entry b k)
  | .createBucket _ | .delete _ _ => .ok ()
  | .put b _ _ => if c.hasBucket b then .ok () else .error (Backend.noBucket b)

/-- What a store holds with something else, or nothing, under one key. -/
def withEntry (c : Contents) (b : String) (k : Bytes) (v : Option Bytes) : Contents :=
  { c with entry := fun b' k' => if b = b' ∧ k = k' then v else c.entry b' k' }

/-- What a store holds after an operation. -/
def after (c : Contents) : StoreOp → Contents
  | .hasBucket _ | .get _ _ => c
  | .createBucket b => { c with hasBucket := fun b' => b == b' || c.hasBucket b' }
  | .put b k v => if c.hasBucket b then c.withEntry b k (some v) else c
  | .delete b k => c.withEntry b k none

/-- **Whether operations were done in turn**, from what a store held at first to what it holds in
the end: each got the reply that is due after the ones before it. -/
inductive InTurn : Contents → List (Σ op : StoreOp, Except Error op.Reply) → Contents → Prop
  | nil (c : Contents) : InTurn c [] c
  | cons (c : Contents) (op : StoreOp) {replies : List (Σ op : StoreOp, Except Error op.Reply)}
      {c' : Contents} (h : InTurn (c.after op) replies c') :
      InTurn c (⟨op, c.reply op⟩ :: replies) c'

end Contents

namespace Backend

variable {σ : Type} [Backend σ]

/-- What a store holds. -/
def contents (s : σ) : Contents := ⟨hasBucket s, get s⟩

/-- **An operation replies what is due, and leaves what is due**, by the contents of the store
alone.  The layout does not come into it. -/
theorem perform_contents [LawfulBackend σ] (op : StoreOp) (s : σ) :
    (perform .none op s).1 = (contents s).reply op
      ∧ contents (perform .none op s).2 = (contents s).after op := by
  cases op with
  | hasBucket b => exact ⟨rfl, rfl⟩
  | get b k => exact ⟨rfl, rfl⟩
  | createBucket b =>
    refine ⟨rfl, Contents.ext ?_ ?_⟩
    · funext b'
      exact LawfulBackend.hasBucket_createBucket s b b'
    · funext b' k'
      exact LawfulBackend.get_createBucket s b b' k'
  | put b k v =>
    have hsome := LawfulBackend.isSome_put s b k v
    cases hput : put s b k v with
    | none =>
      rw [hput] at hsome
      have hbucket : (contents s).hasBucket b = false := hsome.symm
      simp [perform, hput, Contents.reply, Contents.after, hbucket]
    | some s' =>
      rw [hput] at hsome
      have hbucket : (contents s).hasBucket b = true := hsome.symm
      rw [perform_put hput]
      refine ⟨by simp [Contents.reply, hbucket], ?_⟩
      rw [Contents.after, if_pos hbucket]
      refine Contents.ext ?_ ?_
      · funext b'
        exact LawfulBackend.hasBucket_put hput b'
      · funext b' k'
        exact LawfulBackend.get_put hput b' k'
  | delete b k =>
    refine ⟨rfl, Contents.ext ?_ ?_⟩
    · funext b'
      exact LawfulBackend.hasBucket_delete s b b' k
    · funext b' k'
      exact LawfulBackend.get_delete s b b' k k'

end Backend

/-! ## 2. Transactions on stores that hold the same -/

namespace Transaction

variable {σ τ : Type} [Backend σ] [Backend τ] {α : Type}

/-- **The operations of a transaction are done in turn.**  So a look at the store sees what the
transaction wrote before. -/
theorem inTurn_run [LawfulBackend σ] (tx : Transaction α) (s : σ) :
    Contents.InTurn (Backend.contents s) (tx.trace .none s)
      (Backend.contents (tx.run .none s).2) := by
  induction tx generalizing s with
  | done result => exact .nil _
  | step op next ih =>
    obtain ⟨hreply, hafter⟩ := Backend.perform_contents op s
    have hrest := ih (Backend.perform .none op s).1 (Backend.perform .none op s).2
    rw [hafter] at hrest
    have hturn := Contents.InTurn.cons (Backend.contents s) op hrest
    rw [← hreply] at hturn
    exact hturn

/-- **What a transaction comes to** on a store, told by what the store holds: its result, and what
the store holds after its operations. -/
def outcome : Transaction α → Contents → Except Error α × Contents
  | done result, c => (result, c)
  | step op next, c => (next (c.reply op)).outcome (c.after op)

/-- A transaction that runs comes to just that. -/
theorem run_outcome [LawfulBackend σ] (tx : Transaction α) (s : σ) :
    (tx.run .none s).1 = (tx.outcome (Backend.contents s)).1
      ∧ Backend.contents (tx.run .none s).2 = (tx.outcome (Backend.contents s)).2 := by
  induction tx generalizing s with
  | done result => exact ⟨rfl, rfl⟩
  | step op next ih =>
    obtain ⟨hreply, hafter⟩ := Backend.perform_contents op s
    have hrest := ih (Backend.perform .none op s).1 (Backend.perform .none op s).2
    rw [hafter, hreply] at hrest
    simp only [run, outcome, hreply]
    exact hrest

/-- Stores that hold the same reply the same to every operation of a transaction. -/
theorem trace_congr [LawfulBackend σ] [LawfulBackend τ] (tx : Transaction α) {s : σ} {t : τ}
    (h : Backend.contents s = Backend.contents t) : tx.trace .none s = tx.trace .none t := by
  induction tx generalizing s t with
  | done result => rfl
  | step op next ih =>
    obtain ⟨hreply, hafter⟩ := Backend.perform_contents op s
    obtain ⟨hreply', hafter'⟩ := Backend.perform_contents op t
    have hsame : (Backend.perform .none op s).1 = (Backend.perform .none op t).1 := by
      rw [hreply, hreply', h]
    have hheld : Backend.contents (Backend.perform .none op s).2
        = Backend.contents (Backend.perform .none op t).2 := by
      rw [hafter, hafter', h]
    have hrest := ih (Backend.perform .none op s).1 hheld
    rw [hsame] at hrest
    simp only [trace, hsame, hrest]

/-- **A transaction cannot tell stores apart that hold the same**: it gets the same replies from
them, ends in the same result and leaves them holding the same. -/
theorem agree [LawfulBackend σ] [LawfulBackend τ] (tx : Transaction α) {s : σ} {t : τ}
    (h : Backend.contents s = Backend.contents t) :
    tx.trace .none s = tx.trace .none t ∧ (tx.run .none s).1 = (tx.run .none t).1
      ∧ Backend.contents (tx.run .none s).2 = Backend.contents (tx.run .none t).2 := by
  obtain ⟨hresult, hleft⟩ := tx.run_outcome s
  obtain ⟨hresult', hleft'⟩ := tx.run_outcome t
  rw [← h] at hresult' hleft'
  exact ⟨tx.trace_congr h, hresult.trans hresult'.symm, hleft.trans hleft'.symm⟩

/-- What every operation keeps, a transaction keeps. -/
theorem run_keeps {P : σ → Prop} (hop : ∀ op s, P s → P (Backend.perform .none op s).2)
    (tx : Transaction α) {s : σ} (h : P s) : P (tx.run .none s).2 := by
  induction tx generalizing s with
  | done result => exact h
  | step op next ih => exact ih _ (hop op s h)

/-- An update ends as the transaction does, and keeps what it left if it ends well. -/
theorem update_eq (tx : Transaction α) (s : σ) :
    tx.update .none s = ((tx.run .none s).1,
      if (tx.run .none s).1.isOk then (tx.run .none s).2 else s) := by
  rw [update, if_neg (by decide)]
  cases hrun : tx.run .none s with
  | mk result s' => cases result <;> rfl

end Transaction

/-! ## 3. Requests

Requests are served one after another, and each begins with what the one before it left. -/

/-- **A transaction asked of a store**, to look at it or to change it. -/
inductive Request (α : Type)
  | view (tx : Transaction α)
  | update (tx : Transaction α)

/-- What came of a request: the reply to each operation that was done, and the result. -/
structure Response (α : Type) where
  replies : List (Σ op : StoreOp, Except Error op.Reply)
  result : Except Error α

namespace Request

variable {σ τ : Type} [Backend σ] [Backend τ] {α : Type}

/-- What comes of a request. -/
def served (s : σ) : Request α → Response α
  | view tx => ⟨tx.trace .none s, tx.view s⟩
  | update tx => ⟨tx.trace .none s, (tx.update .none s).1⟩

/-- The store after a request. -/
def left (s : σ) : Request α → σ
  | view _ => s
  | update tx => (tx.update .none s).2

/-- What comes of requests, one after another. -/
def servedAll : List (Request α) → σ → List (Response α)
  | [], _ => []
  | r :: rs, s => r.served s :: servedAll rs (r.left s)

/-- The store after requests. -/
def leftAll (rs : List (Request α)) (s : σ) : σ := rs.foldl left s

/-- **Stores that hold the same serve a request the same**, and hold the same afterwards, of
whatever kinds they are. -/
theorem agree [LawfulBackend σ] [LawfulBackend τ] (r : Request α) {s : σ} {t : τ}
    (h : Backend.contents s = Backend.contents t) :
    r.served s = r.served t ∧ Backend.contents (r.left s) = Backend.contents (r.left t) := by
  cases r with
  | view tx =>
    obtain ⟨htrace, hresult, -⟩ := tx.agree h
    refine ⟨?_, h⟩
    simp only [served, Transaction.view, htrace, hresult]
  | update tx =>
    obtain ⟨htrace, hresult, hleft⟩ := tx.agree h
    simp only [served, left, Transaction.update_eq, htrace, hresult, true_and]
    split
    · exact hleft
    · exact h

theorem agree_all [LawfulBackend σ] [LawfulBackend τ] (rs : List (Request α)) {s : σ} {t : τ}
    (h : Backend.contents s = Backend.contents t) :
    servedAll rs s = servedAll rs t
      ∧ Backend.contents (leftAll rs s) = Backend.contents (leftAll rs t) := by
  induction rs generalizing s t with
  | nil => exact ⟨rfl, h⟩
  | cons r rs ih =>
    obtain ⟨hserved, hleft⟩ := r.agree h
    obtain ⟨hserved', hleft'⟩ := ih hleft
    refine ⟨?_, hleft'⟩
    rw [servedAll, servedAll, hserved, hserved']

/-- What every operation keeps, requests keep. -/
theorem leftAll_keeps {P : σ → Prop} (hop : ∀ op s, P s → P (Backend.perform .none op s).2)
    (rs : List (Request α)) {s : σ} (h : P s) : P (leftAll rs s) := by
  induction rs generalizing s with
  | nil => exact h
  | cons r rs ih =>
    refine ih ?_
    cases r with
    | view tx => exact h
    | update tx =>
      simp only [left, Transaction.update_eq]
      split
      · exact Transaction.run_keeps hop tx h
      · exact h

end Request

/-! ## 4. Nested maps without repetitions -/

namespace Entries

variable {κ ν : Type} [DecidableEq κ]

theorem mem_set {k : κ} {v : ν} {es : List (κ × ν)} {e : κ × ν} (h : e ∈ set k v es) :
    e = (k, v) ∨ e ∈ es := by
  induction es with
  | nil => exact .inl (List.mem_singleton.1 h)
  | cons e' es ih =>
    obtain ⟨k', v'⟩ := e'
    rw [set] at h
    split at h
    · rcases List.mem_cons.1 h with h | h
      · exact .inl h
      · exact .inr (List.mem_cons_of_mem _ h)
    · rcases List.mem_cons.1 h with rfl | h
      · exact .inr List.mem_cons_self
      · rcases ih h with h | h
        · exact .inl h
        · exact .inr (List.mem_cons_of_mem _ h)

theorem nodup_set {es : List (κ × ν)} (h : (es.map (·.1)).Nodup) (k : κ) (v : ν) :
    ((set k v es).map (·.1)).Nodup := by
  induction es with
  | nil => exact List.nodup_singleton k
  | cons e es ih =>
    obtain ⟨k', v'⟩ := e
    obtain ⟨hout, hnodup⟩ := List.nodup_cons.1 h
    rw [set]
    split
    · next hk => exact hk ▸ h
    · next hk =>
      refine List.nodup_cons.2 ⟨?_, ih hnodup⟩
      intro hin
      obtain ⟨e, he, hfst⟩ := List.mem_map.1 hin
      rcases mem_set he with rfl | he
      · exact hk hfst.symm
      · exact hout (List.mem_map.2 ⟨e, he, hfst⟩)

theorem nodup_erase {es : List (κ × ν)} (h : (es.map (·.1)).Nodup) (k : κ) :
    ((erase k es).map (·.1)).Nodup :=
  h.sublist (List.filter_sublist.map _)

theorem isSome_get? {k : κ} {es : List (κ × ν)} :
    (get? k es).isSome ↔ k ∈ es.map (·.1) := by
  induction es with
  | nil => simp [get?]
  | cons e es ih =>
    obtain ⟨k', v'⟩ := e
    by_cases hk : k' = k
    · simp [get?, hk]
    · have hk' : ¬ k = k' := fun h => hk h.symm
      simpa [get?, hk, hk'] using ih

/-- Where no key is listed twice, what is found under a key is what is listed. -/
theorem get?_eq_some_iff {es : List (κ × ν)} (h : (es.map (·.1)).Nodup) {k : κ} {v : ν} :
    get? k es = some v ↔ (k, v) ∈ es := by
  induction es with
  | nil => simp [get?]
  | cons e es ih =>
    obtain ⟨k', v'⟩ := e
    obtain ⟨hout, hnodup⟩ := List.nodup_cons.1 h
    by_cases hk : k' = k
    · subst hk
      have hlater : (k', v) ∉ es := fun hin => hout (List.mem_map.2 ⟨_, hin, rfl⟩)
      simp [get?, hlater, eq_comm]
    · have hk' : ¬ k = k' := fun he => hk he.symm
      simp [get?, hk, hk', ih hnodup]

end Entries

namespace Buckets

/-- **Nested maps without repetitions**: no bucket is listed twice, nor a key within a bucket.
Every operation keeps it so. -/
structure Wf (m : Buckets) : Prop where
  buckets : (m.buckets.map (·.1)).Nodup
  keys : ∀ b ∈ m.buckets, (b.2.map (·.1)).Nodup

theorem Wf.withEntries {m : Buckets} (h : m.Wf) (b : String) {es : List (Bytes × Bytes)}
    (hes : (es.map (·.1)).Nodup) : (m.withEntries b es).Wf where
  buckets := Entries.nodup_set h.buckets b es
  keys b' hb' := by
    rcases Entries.mem_set hb' with rfl | hb'
    · exact hes
    · exact h.keys b' hb'

theorem Wf.entries? {m : Buckets} (h : m.Wf) {b : String} {es : List (Bytes × Bytes)}
    (he : m.entries? b = some es) : (es.map (·.1)).Nodup :=
  h.keys (b, es) ((Entries.get?_eq_some_iff h.buckets).1 he)

theorem Wf.perform (op : StoreOp) (m : Buckets) (h : m.Wf) :
    (Backend.perform .none op m).2.Wf := by
  cases op with
  | hasBucket b => exact h
  | get b k => exact h
  | createBucket b =>
    change (Backend.createBucket m b).Wf
    simp only [Backend.createBucket]
    split
    · exact h
    · exact h.withEntries b List.nodup_nil
  | put b k v =>
    cases hput : Backend.put m b k v with
    | none => simpa [Backend.perform, hput] using h
    | some m' =>
      rw [Backend.perform_put hput]
      obtain ⟨es, he, rfl⟩ := Option.map_eq_some_iff.1 hput
      exact h.withEntries b (Entries.nodup_set (h.entries? he) k v)
  | delete b k =>
    change (Backend.delete m b k).Wf
    simp only [Backend.delete]
    split
    · next es he => exact h.withEntries b (Entries.nodup_erase (h.entries? he) k)
    · exact h

end Buckets

/-! ## 5. Tables without repetitions -/

namespace Tables

/-- **Tables without repetitions**: no bucket is listed twice and no key has two rows, and no row
stands without its bucket. -/
structure Wf (t : Tables) : Prop where
  buckets : t.buckets.Nodup
  keys : (t.rows.map fun r => (r.bucket, r.key)).Nodup
  bucket_mem : ∀ r ∈ t.rows, r.bucket ∈ t.buckets

theorem Wf.without {t : Tables} (h : t.Wf) (b : String) (k : Bytes) :
    Wf { t with rows := without t.rows b k } where
  buckets := h.buckets
  keys := h.keys.sublist (List.filter_sublist.map _)
  bucket_mem r hr := h.bucket_mem r (List.mem_filter.1 hr).1

/-- A row for a key that has none goes with the others. -/
theorem Wf.add {t : Tables} (h : t.Wf) {b : String} (hb : b ∈ t.buckets) {k : Bytes}
    (hfree : ∀ r ∈ t.rows, ¬ isFor b k r = true) (v : Bytes) :
    Wf { t with rows := t.rows ++ [⟨b, k, v⟩] } where
  buckets := h.buckets
  keys := by
    rw [List.map_append]
    refine List.nodup_append.2 ⟨h.keys, List.nodup_singleton _, ?_⟩
    intro p hp q hq hpq
    obtain ⟨r, hr, rfl⟩ := List.mem_map.1 hp
    cases List.mem_singleton.1 hq
    obtain ⟨hbucket, hkey⟩ := Prod.mk.inj hpq
    exact hfree r hr (isFor_iff.2 ⟨hbucket, hkey⟩)
  bucket_mem r hr := by
    rcases List.mem_append.1 hr with hr | hr
    · exact h.bucket_mem r hr
    · rw [List.mem_singleton.1 hr]
      exact hb

theorem Wf.perform (op : StoreOp) (t : Tables) (h : t.Wf) :
    (Backend.perform .none op t).2.Wf := by
  cases op with
  | hasBucket b => exact h
  | get b k => exact h
  | createBucket b =>
    change (Backend.createBucket t b).Wf
    simp only [Backend.createBucket]
    split
    · exact h
    · next hb =>
      have hnew : b ∉ t.buckets := by simpa using hb
      refine ⟨?_, h.keys, fun r hr => List.mem_append_left _ (h.bucket_mem r hr)⟩
      refine List.nodup_append.2 ⟨h.buckets, List.nodup_singleton b, ?_⟩
      intro b' hb' b'' hb'' he
      rw [List.mem_singleton.1 hb''] at he
      exact hnew (he ▸ hb')
  | put b k v =>
    cases hput : Backend.put t b k v with
    | none => simpa [Backend.perform, hput] using h
    | some t' =>
      rw [Backend.perform_put hput]
      simp only [Backend.put] at hput
      split at hput
      · next hb =>
        cases hput
        have hin : b ∈ t.buckets := by simpa using hb
        refine (h.without b k).add hin ?_ v
        intro r hr hfor
        have hnot := (List.mem_filter.1 hr).2
        rw [hfor] at hnot
        cases hnot
      · cases hput
  | delete b k => exact h.without b k

/-- Where no key has two rows, what is found under a key is in its row. -/
theorem Wf.get_eq_some_iff {t : Tables} (h : t.Wf) {b : String} {k v : Bytes} :
    Backend.get t b k = some v ↔ ⟨b, k, v⟩ ∈ t.rows := by
  constructor
  · intro hget
    obtain ⟨r, hfind, rfl⟩ := Option.map_eq_some_iff.1 hget
    obtain ⟨rfl, rfl⟩ := isFor_iff.1 (List.find?_some hfind)
    exact List.mem_of_find?_eq_some hfind
  · intro hmem
    have hfor : isFor b k ⟨b, k, v⟩ = true := isFor_iff.2 ⟨rfl, rfl⟩
    have hsome : (t.rows.find? (isFor b k)).isSome := List.find?_isSome.2 ⟨_, hmem, hfor⟩
    obtain ⟨r, hfind⟩ := Option.isSome_iff_exists.1 hsome
    obtain ⟨hbucket, hkey⟩ := isFor_iff.1 (List.find?_some hfind)
    -- The row that is found has the key of the one that is listed, so it is that one.
    have hsame : r = ⟨b, k, v⟩ :=
      List.inj_on_of_nodup_map h.keys (List.mem_of_find?_eq_some hfind) hmem
        (Prod.ext hbucket hkey)
    have hget : Backend.get t b k = (t.rows.find? (isFor b k)).map (·.value) := rfl
    rw [hget, hfind, hsame]
    rfl

end Tables

/-! ## 6. Nested maps and tables -/

/-- **Whether nested maps and tables hold the same buckets and entries**, each of them once. -/
structure SameData (m : Buckets) (t : Tables) : Prop where
  bucket (b : String) : b ∈ m.buckets.map (·.1) ↔ b ∈ t.buckets
  entry (b : String) (k v : Bytes) :
    (∃ es, (b, es) ∈ m.buckets ∧ (k, v) ∈ es) ↔ ⟨b, k, v⟩ ∈ t.rows
  buckets_wf : m.Wf
  tables_wf : t.Wf

theorem Buckets.Wf.get_eq_some_iff {m : Buckets} (h : m.Wf) {b : String} {k v : Bytes} :
    Backend.get m b k = some v ↔ ∃ es, (b, es) ∈ m.buckets ∧ (k, v) ∈ es := by
  have hget : Backend.get m b k = (m.entries? b).bind (Entries.get? k) := rfl
  rw [hget, Option.bind_eq_some_iff]
  constructor
  · rintro ⟨es, he, hk⟩
    exact ⟨es, (Entries.get?_eq_some_iff h.buckets).1 he,
      (Entries.get?_eq_some_iff (h.entries? he)).1 hk⟩
  · rintro ⟨es, he, hk⟩
    exact ⟨es, (Entries.get?_eq_some_iff h.buckets).2 he,
      (Entries.get?_eq_some_iff (h.keys _ he)).2 hk⟩

theorem SameData.of_contents {m : Buckets} {t : Tables} (hm : m.Wf) (ht : t.Wf)
    (h : Backend.contents m = Backend.contents t) : SameData m t where
  bucket b := by
    have hb : Backend.hasBucket m b = Backend.hasBucket t b :=
      congrFun (congrArg Contents.hasBucket h) b
    have hm' : Backend.hasBucket m b = (Entries.get? b m.buckets).isSome := rfl
    have ht' : Backend.hasBucket t b = t.buckets.contains b := rfl
    rw [← Entries.isSome_get?, ← hm', hb, ht', List.contains_iff_mem]
  entry b k v := by
    have hk : Backend.get m b k = Backend.get t b k :=
      congrFun (congrFun (congrArg Contents.entry h) b) k
    rw [← hm.get_eq_some_iff, hk, ht.get_eq_some_iff]
  buckets_wf := hm
  tables_wf := ht

/-- **Whether updates take effect as a whole**: one ends as its operations do, each replied to in
turn; if that is an error it leaves the store exactly as it was, and if it ends well it leaves what
its operations made of it. -/
structure UpdatesWhole (σ : Type) [Backend σ] (α : Type) : Prop where
  result (tx : Transaction α) (s : σ) :
    (tx.update .none s).1 = (tx.outcome (Backend.contents s)).1
  error (tx : Transaction α) (s : σ) (e : Error) (h : (tx.update .none s).1 = .error e) :
    (tx.update .none s).2 = s
  ok (tx : Transaction α) (s : σ) (a : α) (h : (tx.update .none s).1 = .ok a) :
    Contents.InTurn (Backend.contents s) (tx.trace .none s)
      (Backend.contents (tx.update .none s).2)

theorem updatesWhole (σ : Type) [Backend σ] [LawfulBackend σ] (α : Type) :
    UpdatesWhole σ α where
  result tx s := by
    rw [Transaction.update_eq]
    exact (tx.run_outcome s).1
  error tx s e h := Transaction.update_of_error h
  ok tx s a h := by
    have hturn := tx.inTurn_run s
    rw [Transaction.update_eq] at h ⊢
    have hok : (tx.run .none s).1.isOk = true := by
      rw [show (tx.run .none s).1 = .ok a from h]
      rfl
    rw [if_pos hok]
    exact hturn

/-- **Nested maps and two tables are one store.**  Started empty they serve all requests the same,
whatever these go on to do after an error, and hold the same buckets and entries in the end; and
updates of either take effect as a whole. -/
theorem kinds_of_store_agree {α : Type} (requests : List (Request α)) :
    Request.servedAll requests (Backend.empty : Buckets)
        = Request.servedAll requests (Backend.empty : Tables)
      ∧ SameData (Request.leftAll requests Backend.empty) (Request.leftAll requests Backend.empty)
      ∧ UpdatesWhole Buckets α ∧ UpdatesWhole Tables α := by
  have hempty : Backend.contents (Backend.empty : Buckets)
      = Backend.contents (Backend.empty : Tables) := rfl
  have hm : (Backend.empty : Buckets).Wf :=
    ⟨List.nodup_nil, fun b hb => absurd hb List.not_mem_nil⟩
  have ht : (Backend.empty : Tables).Wf :=
    ⟨List.nodup_nil, List.nodup_nil, fun r hr => absurd hr List.not_mem_nil⟩
  obtain ⟨hserved, hleft⟩ := Request.agree_all requests hempty
  refine ⟨hserved, ?_, updatesWhole Buckets α, updatesWhole Tables α⟩
  exact .of_contents (Request.leftAll_keeps Buckets.Wf.perform requests hm)
    (Request.leftAll_keeps Tables.Wf.perform requests ht) hleft

end Notekeeper
