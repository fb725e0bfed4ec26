import Mathlib.Data.Bool.Basic
import Mathlib.Data.List.Infix
import Notekeeper.Proofs.Notebook.Refreshing
import Notekeeper.Proofs.Sharing.Crowd

/-!
# Two notebooks changed at once

A change of a notebook takes five turns: it looks for the notebook in the cached list, reads the
clock, sends the changed notebook, reads the list back and writes it with the changed notebook.  The
last two are transactions of their own, so a list that another client writes between them is lost.

The main result tells for every order of the turns of two changes whether both of them are in the
cached list at last.  It is proved turn by turn.  What holds after some turns (`OnTrack`) says of
each change how far it has come, and of the list in the store whether each of the two notebooks is
there as it was or as it is to be.  The second part cannot be told from the list alone once a change
is about to write: what it writes was read earlier, and may be older than what the other change
has written since.  So a change at its fourth turn carries along of which kind its list is
(`Prepared`), in terms of who was first: `Before turns i n j m` says that caller `i` took its turn
number `n` before caller `j` took its turn number `m`.  Such a fact is settled as soon as either of
the two turns was taken, and later turns cannot change it; that is what lets it go through an
induction over the turns.

A turn may also lead a change astray: it fails, or it has found another notebook of the same name.
Then it does not end well, which the main result excludes, so that there is no need to follow what
it does (`Command.Misses`).  Fetching the list anew is excluded for the same reason, since it could
bring in anything.

* `Patching.Stage`, `Patching.Strays` : how far a change has come, or that it went astray.
* `Patching.Stage.advance` : the turns of one change.
* `Listed`, `Prepared`, `OnTrack` : what holds while both changes go well.
* `OnTrack.step` : every turn keeps it.
* `both_patched_iff` : when the cached list ends up with both changed notebooks.
* `patch_lost_from_shelf` : an order of turns in which it does not.
-/

namespace Notekeeper

open Command

/-! ## 1. Who goes first -/

namespace Crowd

variable {ι : Type} [DecidableEq ι]

/-- **Whether a caller takes a turn before another one**, each turn told by its number: at some
time `i` has taken `n` turns, and `j` fewer than `m`. -/
def Before (turns : List (Turn ι)) (i : ι) (n : Nat) (j : ι) (m : Nat) : Prop :=
  ∃ past, past <+: turns ∧ n ≤ taken i past ∧ taken j past < m

variable {turns : List (Turn ι)} {t : Turn ι} {i j : ι} {n m : Nat}

theorem before_of_taken (hi : n ≤ taken i turns) (hj : taken j turns < m) :
    Before turns i n j m :=
  ⟨turns, List.prefix_refl turns, hi, hj⟩

theorem taken_le_taken {past : List (Turn ι)} (h : past <+: turns) (i : ι) :
    taken i past ≤ taken i turns :=
  h.sublist.countP_le

theorem Before.le_taken (h : Before turns i n j m) : n ≤ taken i turns := by
  obtain ⟨past, hpast, hi, -⟩ := h
  exact Nat.le_trans hi (taken_le_taken hpast i)

theorem before_concat_iff : Before (turns ++ [t]) i n j m ↔ Before turns i n j m
    ∨ n ≤ taken i (turns ++ [t]) ∧ taken j (turns ++ [t]) < m := by
  constructor
  · rintro ⟨past, hpast, hi, hj⟩
    rcases List.prefix_concat_iff.1 hpast with rfl | hpast
    · exact .inr ⟨hi, hj⟩
    · exact .inl ⟨past, hpast, hi, hj⟩
  · rintro (⟨past, hpast, hi, hj⟩ | ⟨hi, hj⟩)
    · exact ⟨past, hpast.trans (List.prefix_append _ _), hi, hj⟩
    · exact before_of_taken hi hj

/-- Who is first is settled when either of the two turns is taken. -/
theorem before_concat_of_settled (h : n ≤ taken i turns ∨ m ≤ taken j turns) :
    Before (turns ++ [t]) i n j m ↔ Before turns i n j m := by
  rw [before_concat_iff]
  constructor
  · rintro (hbefore | ⟨-, hj⟩)
    · exact hbefore
    · have hle : taken j turns ≤ taken j (turns ++ [t]) :=
        taken_le_taken (List.prefix_append _ _) j
      exact before_of_taken (h.resolve_right (by omega)) (by omega)
  · exact .inl

instance (turns : List (Turn ι)) (i : ι) (n : Nat) (j : ι) (m : Nat) :
    Decidable (Before turns i n j m) :=
  decidable_of_iff (∃ past ∈ turns.inits, n ≤ taken i past ∧ taken j past < m)
    (by simp [Before, List.mem_inits])

theorem not_before_of_taken (h : taken i turns < n) : ¬ Before turns i n j m :=
  fun hbefore => absurd hbefore.le_taken (Nat.not_le.2 h)

end Crowd

/-! ## 2. Commands that do not end in a certain way

A command tree tells by its leaves which answers it may end with.  One that has no leaf with a
certain answer keeps to that whatever it meets, and need not be looked at any further. -/

namespace Command

variable {α β : Type}

/-- **Whether a command cannot end with a certain answer**, unless it fetches the notebook list. -/
def Misses (b : β) : Command β → Prop
  | done result => result ≠ .ok b
  | view _ next => ∀ reply, (next reply).Misses b
  | update _ next => ∀ reply, (next reply).Misses b
  | ask call next => call = .allNotebooks ∨ ∀ answer, (next answer).Misses b
  | edit _ next => ∀ result, (next result).Misses b
  | clock next => ∀ time, (next time).Misses b

theorem misses_bind {b : β} (c : Command α) {f : α → Command β} (hf : ∀ a, (f a).Misses b) :
    (c >>= f).Misses b := by
  change (c.bind f).Misses b
  induction c with
  | done result =>
    cases result with
    | ok a => exact hf a
    | error e => exact nofun
  | view tx next ih => exact ih
  | update tx next ih => exact ih
  | ask call next ih => exact .inr ih
  | edit text next ih => exact ih
  | clock next ih => exact ih

theorem Misses.advance {σ : Type} [Backend σ] {b : β} {c : Command β} (h : c.Misses b)
    (hasks : c.asks? ≠ some .allNotebooks) (w : Surroundings) (s : σ) :
    (c.advance w s).1.Misses b := by
  cases c with
  | done result => exact h
  | view tx next => exact h _
  | update tx next => exact h _
  | ask call next => exact h.resolve_left (fun hcall => hasks (congrArg some hcall)) _
  | edit text next => exact h _
  | clock next => exact h _

/-! ## 3. The five turns of a change

After each of its turns a change is one of these commands, or it has failed or found another
notebook.  Each of them is told by the step before: what it still knows is in its arguments. -/

/-- What a change does once it has the cached list. -/
def choosing (config : Config) (name : String) (patch : NotebookPatch) (cache : NotebookCache) :
    Command Notebook := do
  let nbs ← listFrom config false cache
  let nb ← done (pickNotebook name nbs)
  sendPatched name (nb.patch patch)

/-- What a change does once the changed notebook is sent. -/
def readingBack (name : String) (nb : Notebook) : Command Notebook := do
  if let some cached ← notebookCache then
    if let some changed := NotebookCache.replaceFirst? nb.guid name nb cached.notebooks then
      storeNotebookCache { cached with notebooks := changed }
  pure nb

/-- What a change does at last. -/
def writing (nb : Notebook) (cache : NotebookCache) : Command Notebook := do
  storeNotebookCache cache
  pure nb

/-- Sending another notebook does not end with this one. -/
theorem misses_sendPatched {name : String} {nb nb' : Notebook} (h : nb' ≠ nb) :
    (sendPatched name nb').Misses nb := by
  have hpure : (pure nb' : Command Notebook).Misses nb := fun he => h (Except.ok.inj he)
  refine misses_bind _ fun _ => misses_bind _ fun cached => ?_
  cases cached with
  | none => exact hpure
  | some cache =>
    simp only
    split
    · exact misses_bind _ fun _ => hpure
    · exact hpure

variable {σ : Type} [Backend σ] {s : σ} {cache : NotebookCache}

/-- **The cached list is read** without a trace, in one turn, since the bucket is there. -/
theorem advance_notebookCache_bind {f : Option NotebookCache → Command α}
    (hbucket : Backend.hasBucket s Slot.notebooks.bucket = true)
    (hrecord : Slot.notebooks.record s = .ok (some cache)) (w : Surroundings) :
    (notebookCache >>= f).advance w s = (f (some cache), s) := by
  rw [notebookCache, advance_loadRecord_bind, hbucket, if_pos rfl, hrecord]

theorem advance_updateNotebook (config : Config) (name : String) (patch : NotebookPatch)
    (hbucket : Backend.hasBucket s Slot.notebooks.bucket = true)
    (hrecord : Slot.notebooks.record s = .ok (some cache)) (w : Surroundings) :
    (updateNotebook config name patch).advance w s = (choosing config name patch cache, s) := by
  have hfind : findNotebook config name
      = notebookCache >>= fun cached => listFrom config false (cached.getD .empty) >>= fun nbs =>
        done (pickNotebook name nbs) := by
    unfold findNotebook
    rw [notebooks_eq, bind_assoc]
    refine congrArg (notebookCache >>= ·) (funext fun cached => ?_)
    refine congrArg (listFrom config false _ >>= ·) (funext fun nbs => ?_)
    unfold pickNotebook
    cases nbs.find? (·.name = name) <;> rfl
  rw [updateNotebook_eq, hfind, bind_assoc, advance_notebookCache_bind hbucket hrecord, bind_assoc]
  rfl

theorem advance_now_bind (f : Timestamp → Command α) (w : Surroundings) (s : σ) :
    (now >>= f).advance w s = (f w.now.time, s) := rfl

theorem pure_bind_eq (a : α) (f : α → Command β) : pure a >>= f = f a := rfl

/-- **The clock tells whether the list is of use.**  If it is, a notebook is found in it and sent:
the one that is looked for here, or another one. -/
theorem advance_choosing (config : Config) (name : String) (patch : NotebookPatch)
    (cache : NotebookCache) (nb : Notebook) (w : Surroundings) (s : σ) :
    ∃ left, (choosing config name patch cache).advance w s = (left, s)
      ∧ (left = sendPatched name nb ∨ left.Misses nb) := by
  unfold choosing listFrom
  rw [bind_assoc, isUsable_bind, if_neg Bool.false_ne_true, advance_now_bind, pure_bind_eq]
  refine ⟨_, rfl, ?_⟩
  generalize (!cache.isOutdatedAt w.now.time && !cache.notebooks.isEmpty) = usable
  cases usable with
  | false => exact .inr (.inl rfl)
  | true =>
    simp only [if_true, pure_bind_eq]
    cases pickNotebook name cache.notebooks with
    | error e => exact .inr nofun
    | ok found =>
      by_cases hfound : found.patch patch = nb
      · exact .inl (congrArg (sendPatched name) hfound)
      · exact .inr (misses_sendPatched hfound)

theorem advance_sendPatched (name : String) (nb : Notebook) (w : Surroundings) (s : σ) :
    ∃ left, (sendPatched name nb).advance w s = (left, s)
      ∧ (left = readingBack name nb ∨ left.Misses nb) := by
  have hsend : (sendPatched name nb).advance w s
      = ((done (w.remote (.updateNotebook nb)) >>= fun _ => readingBack name nb), s) := rfl
  rw [hsend]
  cases w.remote (.updateNotebook nb) with
  | error e => exact ⟨_, rfl, .inr nofun⟩
  | ok _ => exact ⟨_, rfl, .inl rfl⟩

/-- **The list is read back**, and is to be written with the changed notebook in it.  From here on
the change holds on to this list. -/
theorem advance_readingBack {name : String} {nb : Notebook} {changed : List Notebook}
    (hbucket : Backend.hasBucket s Slot.notebooks.bucket = true)
    (hrecord : Slot.notebooks.record s = .ok (some cache))
    (hchanged : NotebookCache.replaceFirst? nb.guid name nb cache.notebooks = some changed)
    (w : Surroundings) :
    (readingBack name nb).advance w s = (writing nb { cache with notebooks := changed }, s) := by
  unfold readingBack
  rw [advance_notebookCache_bind hbucket hrecord]
  simp only [hchanged]
  rfl

/-- **The list is written**, or the change fails without a trace in the store. -/
theorem advance_writing [LawfulBackend σ] (nb : Notebook) (cache : NotebookCache)
    (w : Surroundings) (s : σ) :
    (∃ s', (writing nb cache).advance w s = (done (.ok nb), s')
        ∧ Slot.notebooks.Sets (Record.encode cache) s s')
      ∨ ∃ e, (writing nb cache).advance w s = (done (.error e), s) := by
  have hwriting : writing nb cache
      = updated (Slot.notebooks.store cache) >>= fun _ => pure nb := rfl
  rw [hwriting, advance_bind rfl, advance_updated]
  cases w.fault with
  | locked => exact .inr ⟨_, rfl⟩
  | refused => exact .inr ⟨_, rfl⟩
  | none =>
    obtain ⟨s', hupdate, hsets⟩ := Slot.notebooks.exists_update_store cache s
    rw [hupdate]
    exact .inl ⟨s', rfl, hsets⟩

end Command

/-! ## 4. One change -/

namespace NotebookCache

/-- A notebook that is listed can be replaced. -/
theorem exists_replaceFirst? {nb : Notebook} {nbs : List Notebook} (h : nb ∈ nbs)
    (new : Notebook) : ∃ changed, replaceFirst? nb.guid nb.name new nbs = some changed := by
  induction nbs with
  | nil => cases h
  | cons first rest ih =>
    by_cases hfirst : first.guid = nb.guid ∧ first.name = nb.name
    · exact ⟨_, if_pos hfirst⟩
    · have hrest : nb ∈ rest := by
        rcases List.mem_cons.1 h with rfl | hrest
        · exact absurd ⟨rfl, rfl⟩ hfirst
        · exact hrest
      obtain ⟨changed, hchanged⟩ := ih hrest
      refine ⟨first :: changed, ?_⟩
      rw [replaceFirst?, if_neg hfirst, hchanged]
      rfl

/-- **A replacement is listed then**, and so is whatever has another identifier, if it was.  What
has the same identifier may be gone. -/
theorem mem_of_replaceFirst? {guid name : String} {new : Notebook} {nbs changed : List Notebook}
    (h : replaceFirst? guid name new nbs = some changed) :
    new ∈ changed ∧ ∀ nb, nb.guid ≠ guid → nb.guid ≠ new.guid → (nb ∈ changed ↔ nb ∈ nbs) := by
  induction nbs generalizing changed with
  | nil => cases h
  | cons first rest ih =>
    by_cases hfirst : first.guid = guid ∧ first.name = name
    · rw [replaceFirst?, if_pos hfirst] at h
      obtain rfl := Option.some.inj h
      refine ⟨List.mem_cons_self, fun nb hguid hnew => ?_⟩
      have hne : nb ≠ new := fun he => hnew (congrArg Notebook.guid he)
      have hne' : nb ≠ first := fun he => hguid (he ▸ hfirst.1)
      simp [hne, hne']
    · rw [replaceFirst?, if_neg hfirst] at h
      obtain ⟨left, hleft, rfl⟩ := Option.map_eq_some_iff.1 h
      obtain ⟨hmem, hothers⟩ := ih hleft
      refine ⟨List.mem_cons_of_mem _ hmem, fun nb hguid hnew => ?_⟩
      simp [hothers nb hguid hnew]

end NotebookCache

/-- **A change of a notebook** that is in the cached list. -/
structure Patching where
  client : Client
  name : String
  patch : NotebookPatch
  /-- The notebook as it is before. -/
  entry : Notebook

namespace Patching

/-- The notebook as it is to be. -/
def result (p : Patching) : Notebook := p.entry.patch p.patch

/-- The change as a step. -/
@[reducible] def step (p : Patching) : Step := .operation p.client (.updateNotebook p.name p.patch)

/-- The notebook that a reply gives as changed. -/
def changed? : Reply → Option Notebook
  | ⟨.operation _ (.updateNotebook _ _), .ok nb⟩ => some nb
  | _ => none

/-- **Whether the change of a caller goes astray**: it does not end with the notebook as it is to
be. -/
inductive Strays (p : Patching) : Caller → Prop
  | underway {rest : Command Notebook} (h : rest.Misses p.result) : Strays p ⟨[], [⟨p.step, rest⟩]⟩
  | ended {result : Except Error Notebook} (h : result ≠ .ok p.result) :
    Strays p ⟨[⟨p.step, result⟩], []⟩

/-- **How far a change has come** in some turns.  The list that it is about to write is of a certain
kind. -/
inductive Stage (p : Patching) (Writes : NotebookCache → Prop) : Nat → Caller → Prop
  | fresh : Stage p Writes 0 (.making [p.step])
  | choosing {cache : NotebookCache} :
    Stage p Writes 1 ⟨[], [⟨p.step, Command.choosing p.client.config p.name p.patch cache⟩]⟩
  | sending : Stage p Writes 2 ⟨[], [⟨p.step, sendPatched p.name p.result⟩]⟩
  | readingBack : Stage p Writes 3 ⟨[], [⟨p.step, Command.readingBack p.name p.result⟩]⟩
  | writing {cache : NotebookCache} (h : Writes cache) :
    Stage p Writes 4 ⟨[], [⟨p.step, Command.writing p.result cache⟩]⟩
  | ended {n : Nat} (h : 5 ≤ n) : Stage p Writes n ⟨[⟨p.step, .ok p.result⟩], []⟩

variable {p : Patching} {Writes : NotebookCache → Prop} {c : Caller} {n : Nat}

theorem Stage.mono {Writes' : NotebookCache → Prop} (h : p.Stage Writes n c)
    (himp : n = 4 → ∀ cache, Writes cache → Writes' cache) : p.Stage Writes' n c := by
  cases h with
  | fresh => exact .fresh
  | choosing => exact .choosing
  | sending => exact .sending
  | readingBack => exact .readingBack
  | writing hwrites => exact .writing (himp rfl _ hwrites)
  | ended hn => exact .ended hn

/-- A change that has ended well took all its turns. -/
theorem Stage.five_le (h : p.Stage Writes n c) (hc : c.answered ≠ []) : 5 ≤ n := by
  cases h with
  | fresh | choosing | sending | readingBack | writing _ => exact absurd rfl hc
  | ended hn => exact hn

/-- A change that goes astray does not end well. -/
theorem Strays.answered_ne (h : p.Strays c) : c.answered.map changed? ≠ [some p.result] := by
  cases h with
  | underway _ => exact nofun
  | @ended result hne =>
    intro he
    cases result with
    | error e => cases he
    | ok nb => exact hne (congrArg Except.ok (Option.some.inj (List.cons.inj he).1))

variable {σ : Type} [Backend σ] {s : σ}

/-- A command that goes astray leaves a caller whose change does. -/
theorem strays_reaching {rest : Command Notebook} (h : rest.Misses p.result) :
    p.Strays (Caller.reaching [] ⟨p.step, rest⟩ []) := by
  cases rest with
  | done result => exact .ended h
  | view _ _ | update _ _ | ask _ _ | edit _ _ | clock _ => exact .underway h

theorem Strays.advance (h : p.Strays c) (hasks : c.asks? ≠ some .allNotebooks)
    (w : Surroundings) (s : σ) : p.Strays (c.advance w s).1 := by
  cases h with
  | underway hrest => exact strays_reaching (hrest.advance hasks w s)
  | ended hne => exact .ended hne

/-- **What a turn makes of a change** that goes well so far, and of the store: it goes astray, or
does what is due by the number of its turns. -/
inductive Turned (p : Patching) (Writes : NotebookCache → Prop) (cache : NotebookCache) (s : σ) :
    Nat → Caller × σ → Prop
  | strays {n : Nat} {c : Caller} {s' : σ} (h : p.Strays c) : Turned p Writes cache s n (c, s')
  /-- Nothing is read back or written. -/
  | looks {n : Nat} {c : Caller} (hn : n < 3 ∨ 5 ≤ n) (h : p.Stage Writes (n + 1) c) :
    Turned p Writes cache s n (c, s)
  | readsBack {changed : List Notebook} (h : NotebookCache.replaceFirst? p.entry.guid p.entry.name
      p.result cache.notebooks = some changed) :
    Turned p Writes cache s 3
      (⟨[], [⟨p.step, Command.writing p.result { cache with notebooks := changed }⟩]⟩, s)
  | writes {cache' : NotebookCache} {s' : σ} (h : Writes cache')
      (hs : Slot.notebooks.Sets (Record.encode cache') s s') :
    Turned p Writes cache s 4 (⟨[⟨p.step, .ok p.result⟩], []⟩, s')

/-- **The turns of a change**, one after the other: which turn is due is told by how many it has
taken. -/
theorem Stage.advance [LawfulBackend σ] {cache : NotebookCache} (h : p.Stage Writes n c)
    (hname : p.entry.name = p.name) (hbucket : Backend.hasBucket s Slot.notebooks.bucket = true)
    (hrecord : Slot.notebooks.record s = .ok (some cache))
    (hentry : n = 3 → p.entry ∈ cache.notebooks) (w : Surroundings) :
    p.Turned Writes cache s n (c.advance w s) := by
  cases h with
  | fresh =>
    have hlook := advance_updateNotebook p.client.config p.name p.patch hbucket hrecord w
    rw [Caller.making, List.map_singleton, Call.start, Caller.advance_single hlook]
    exact .looks (.inl (by omega)) .choosing
  | @choosing seen =>
    obtain ⟨left, hturn, hleft⟩ := advance_choosing p.client.config p.name p.patch seen p.result w s
    rw [Caller.advance_single hturn]
    rcases hleft with rfl | hmisses
    · exact .looks (.inl (by omega)) .sending
    · exact .strays (strays_reaching hmisses)
  | sending =>
    obtain ⟨left, hturn, hleft⟩ := advance_sendPatched p.name p.result w s
    rw [Caller.advance_single hturn]
    rcases hleft with rfl | hmisses
    · exact .looks (.inl (by omega)) .readingBack
    · exact .strays (strays_reaching hmisses)
  | readingBack =>
    obtain ⟨changed, hchanged⟩ :=
      NotebookCache.exists_replaceFirst? (hentry rfl) p.result
    rw [Caller.advance_single (advance_readingBack hbucket hrecord (hname ▸ hchanged) w)]
    exact .readsBack hchanged
  | @writing cache' hwrites =>
    rcases advance_writing p.result cache' w s with ⟨s', hwrite, hsets⟩ | ⟨e, hwrite⟩
    · rw [Caller.advance_single hwrite]
      exact .writes hwrites hsets
    · rw [Caller.advance_single hwrite]
      exact .strays (.ended fun hok => by cases hok)
  | ended hn => exact .looks (.inr hn) (.ended (by omega))

end Patching

/-! ## 5. Two changes

The two changes are told apart by a `Bool`, so that the other one than `i` is `!i` and everything
that is said of one holds of both.  Their notebooks have different identifiers.  Replacing the one
therefore keeps whether the other is listed, as it was or as it is to be. -/

section Two

open Crowd Patching

variable (p : Bool → Patching) (initial : List Notebook)

/-- **What becomes of one change in the cached list**, after some turns of both.  A change reads the
list back in its fourth turn and writes it in its fifth. -/
structure Listed (turns : List (Turn Bool)) (i : Bool) (nbs : List Notebook) : Prop where
  /-- Until the change is written, its notebook is listed as it was. -/
  unwritten (h : taken i turns < 5) :
    (p i).entry ∈ nbs ∧ ((p i).result ∈ nbs ↔ (p i).result ∈ initial)
  /-- Then it is listed as changed, ... -/
  written (h : 5 ≤ taken i turns) (h' : taken (!i) turns < 5) : (p i).result ∈ nbs
  /-- ... unless the other change writes a list that it read before. -/
  overwritten (h : 5 ≤ taken i turns) (h' : 5 ≤ taken (!i) turns) : (p i).result ∈ nbs ↔
    (Before turns i 5 (!i) 5 → Before turns i 5 (!i) 4 ∨ (p i).result ∈ initial)

/-- **What a change is about to write**: its own notebook changed, and the other one as it was when
the list was read back. -/
structure Prepared (turns : List (Turn Bool)) (i : Bool) (cache : NotebookCache) : Prop where
  own : (p i).result ∈ cache.notebooks
  other : (p !i).result ∈ cache.notebooks ↔
    Before turns (!i) 5 i 4 ∨ (p !i).result ∈ initial
  unwritten (h : taken (!i) turns < 5) : (p !i).entry ∈ cache.notebooks

variable {σ : Type} [Backend σ]

/-- **What holds while both changes go well.** -/
structure OnTrack (turns : List (Turn Bool)) (c : Crowd σ Bool) : Prop where
  hasBucket : Backend.hasBucket c.store Slot.notebooks.bucket = true
  stage (i : Bool) : (p i).Stage (Prepared p initial turns i) (taken i turns) (c.callers i)
  cached : ∃ cache : NotebookCache, Slot.notebooks.record c.store = .ok (some cache)
    ∧ ∀ i, Listed p initial turns i cache.notebooks

/-- Whether one of the changes went astray. -/
def SomeStrays (c : Crowd σ Bool) : Prop := ∃ i, (p i).Strays (c.callers i)

variable {p initial} {turns : List (Turn Bool)} {t : Turn Bool} {i : Bool}

theorem Crowd.taken_concat_self_of_eq {n : Nat} (h : taken t.who turns = n) :
    taken t.who (turns ++ [t]) = n + 1 := by
  rw [taken_concat_self, h]

theorem Crowd.taken_concat_not (turns : List (Turn Bool)) (t : Turn Bool) :
    taken (!t.who) (turns ++ [t]) = taken (!t.who) turns :=
  taken_concat_of_ne turns (Bool.not_ne_self _)

/-- A turn that writes nothing leaves the cached list as it is. -/
theorem Listed.concat {nbs : List Notebook} (h : Listed p initial turns i nbs)
    (hquiet : taken t.who (turns ++ [t]) < 5 ∨ 5 ≤ taken t.who turns) :
    Listed p initial (turns ++ [t]) i nbs := by
  have hwritten (j : Bool) : 5 ≤ taken j (turns ++ [t]) ↔ 5 ≤ taken j turns := by
    by_cases hj : j = t.who
    · subst hj
      rw [taken_concat_self] at hquiet ⊢
      omega
    · rw [taken_concat_of_ne turns hj]
  refine ⟨fun hi => ?_, fun hi hj => ?_, fun hi hj => ?_⟩
  · exact h.unwritten (by have := hwritten i; omega)
  · exact h.written ((hwritten i).1 hi) (by have := hwritten (!i); omega)
  · have hi' := (hwritten i).1 hi
    rw [before_concat_of_settled (.inl hi'), before_concat_of_settled (.inl hi')]
    exact h.overwritten hi' ((hwritten _).1 hj)

/-- What a change is about to write does not hang on later turns. -/
theorem Prepared.concat {cache : NotebookCache} (h : Prepared p initial turns i cache)
    (hi : 4 ≤ taken i turns) : Prepared p initial (turns ++ [t]) i cache where
  own := h.own
  other := by
    rw [before_concat_of_settled (.inr hi)]
    exact h.other
  unwritten hj := h.unwritten (by
    have := taken_le_taken (List.prefix_append turns [t]) (!i)
    omega)

/-- **What a change reads back** it is about to write, with its own notebook changed. -/
theorem Listed.prepared {nbs changed : List Notebook} {timestamp : Timestamp} {limit : Duration}
    (h : Listed p initial turns (!t.who) nbs)
    (hguid : (p !t.who).entry.guid ≠ (p t.who).entry.guid) (htaken : taken t.who turns = 3)
    (hchanged : NotebookCache.replaceFirst? (p t.who).entry.guid (p t.who).entry.name
      (p t.who).result nbs = some changed) :
    Prepared p initial (turns ++ [t]) t.who ⟨changed, timestamp, limit⟩ := by
  obtain ⟨hown, hothers⟩ := NotebookCache.mem_of_replaceFirst? hchanged
  have hresult := hothers (p !t.who).result hguid hguid
  refine ⟨hown, hresult.trans ?_, fun hj => ?_⟩
  · by_cases hj : taken (!t.who) turns < 5
    · have hlate : ¬ Before (turns ++ [t]) (!t.who) 5 t.who 4 :=
        not_before_of_taken (by rwa [taken_concat_not])
      rw [(h.unwritten hj).2, or_iff_right hlate]
    · have hearly : Before (turns ++ [t]) (!t.who) 5 t.who 4 :=
        before_concat_iff.2 (.inl (before_of_taken (by omega) (by omega)))
      have hmem := h.written (by omega) (by rw [Bool.not_not]; omega)
      exact ⟨fun _ => .inl hearly, fun _ => hmem⟩
  · rw [taken_concat_not] at hj
    exact (hothers _ hguid hguid).2 (h.unwritten hj).1

/-- **What a change writes** is listed then. -/
theorem Prepared.listed {cache : NotebookCache} (h : Prepared p initial turns t.who cache)
    (htaken : taken t.who turns = 4) (i : Bool) :
    Listed p initial (turns ++ [t]) i cache.notebooks := by
  have hself := taken_concat_self_of_eq htaken
  have hother := taken_concat_not turns t
  revert i
  rw [Bool.forall_bool' t.who]
  constructor
  · refine ⟨fun hi => ?_, fun _ _ => h.own, fun _ hj => ?_⟩
    · omega
    · have hlate : ¬ Before (turns ++ [t]) t.who 5 (!t.who) 5 := by
        rw [before_concat_iff]
        rintro (hbefore | ⟨-, hlt⟩)
        · exact not_before_of_taken (by omega) hbefore
        · omega
      exact ⟨fun _ hbefore => absurd hbefore hlate, fun _ => h.own⟩
  · refine ⟨fun hi => ?_, fun _ hj => ?_, fun hi _ => ?_⟩
    · rw [hother] at hi
      refine ⟨h.unwritten hi, ?_⟩
      rw [h.other, or_iff_right (not_before_of_taken hi)]
    · rw [Bool.not_not] at hj
      omega
    · rw [hother] at hi
      rw [Bool.not_not, before_concat_of_settled (.inl hi), before_concat_of_settled (.inl hi),
        h.other]
      have hearly : Before turns (!t.who) 5 t.who 5 := before_of_taken hi (by omega)
      exact ⟨fun hmem _ => hmem, fun himp => himp hearly⟩

variable {c : Crowd σ Bool}

/-- The turn of the one change leaves the other one where it is. -/
theorem OnTrack.stage_other (h : OnTrack p initial turns c) :
    (p !t.who).Stage (Prepared p initial (turns ++ [t]) !t.who) (taken (!t.who) (turns ++ [t]))
      ((c.step t).callers !t.who) := by
  rw [c.step_callers_of_ne (Bool.not_ne_self _), taken_concat_not]
  exact (h.stage _).mono fun hfour cache hcache => hcache.concat (by omega)

variable [LawfulBackend σ]

/-- **Every turn keeps both changes on track**, or leads one of them astray.  A change that went
astray cannot end well any more. -/
theorem OnTrack.step (h : OnTrack p initial turns c) (hname : ∀ i, (p i).entry.name = (p i).name)
    (hguid : (p !t.who).entry.guid ≠ (p t.who).entry.guid) :
    SomeStrays p (c.step t) ∨ OnTrack p initial (turns ++ [t]) (c.step t) := by
  obtain ⟨cache, hrecord, hlisted⟩ := h.cached
  have hother := h.stage_other (t := t)
  have hturn := (h.stage t.who).advance (hname _) h.hasBucket hrecord
    (fun hthree => ((hlisted t.who).unwritten (by omega)).1) t.meets
  have hself : (c.step t).callers t.who = ((c.callers t.who).advance t.meets c.store).1 :=
    c.step_callers_self t
  have hstore : (c.step t).store = ((c.callers t.who).advance t.meets c.store).2 := c.step_store t
  generalize (c.callers t.who).advance t.meets c.store = r at hturn hself hstore
  generalize htaken : taken t.who turns = n at hturn
  have htaken' := taken_concat_self_of_eq htaken
  cases hturn with
  | strays hstrays =>
    refine .inl ⟨t.who, ?_⟩
    rw [hself]
    exact hstrays
  | looks hn hstage =>
    have hquiet : taken t.who (turns ++ [t]) < 5 ∨ 5 ≤ taken t.who turns := by omega
    refine .inr ⟨?_, (Bool.forall_bool' t.who).2 ⟨?_, hother⟩, ?_⟩
    · rw [hstore]
      exact h.hasBucket
    · rw [hself, htaken']
      exact hstage.mono fun hfour => by omega
    · rw [hstore]
      exact ⟨cache, hrecord, fun i => (hlisted i).concat hquiet⟩
  | readsBack hchanged =>
    refine .inr ⟨?_, (Bool.forall_bool' t.who).2 ⟨?_, hother⟩, ?_⟩
    · rw [hstore]
      exact h.hasBucket
    · rw [hself, htaken']
      exact .writing ((hlisted _).prepared hguid htaken hchanged)
    · rw [hstore]
      exact ⟨cache, hrecord, fun i => (hlisted i).concat (.inl (by omega))⟩
  | writes hprepared hsets =>
    refine .inr ⟨?_, (Bool.forall_bool' t.who).2 ⟨?_, hother⟩, ?_⟩
    · rw [hstore]
      exact hsets.holds.hasBucket
    · rw [hself, htaken']
      exact .ended (Nat.le_refl 5)
    · rw [hstore]
      exact ⟨_, hsets.holds.record, hprepared.listed htaken⟩

omit [LawfulBackend σ] in
/-- A change that went astray stays so, unless a list is fetched. -/
theorem SomeStrays.step (h : SomeStrays p c)
    (hasks : (c.callers t.who).asks? ≠ some .allNotebooks) : SomeStrays p (c.step t) := by
  obtain ⟨i, hi⟩ := h
  refine ⟨i, ?_⟩
  by_cases hwho : i = t.who
  · subst hwho
    rw [c.step_callers_self]
    exact hi.advance hasks t.meets c.store
  · rw [c.step_callers_of_ne hwho]
    exact hi

/-- Both changes stay on track, or one of them goes astray, while no list is fetched. -/
theorem OnTrack.after (h : OnTrack p initial [] c) (hname : ∀ i, (p i).entry.name = (p i).name)
    (hguid : ∀ i, (p !i).entry.guid ≠ (p i).entry.guid)
    (hkept : .allNotebooks ∉ c.asked turns) :
    SomeStrays p (c.after turns) ∨ OnTrack p initial turns (c.after turns) := by
  induction turns using List.reverseRecOn with
  | nil => exact .inr h
  | append_singleton past t ih =>
    rw [asked_append, List.mem_append, not_or] at hkept
    rw [after_concat]
    rcases ih hkept.1 with hstrays | htrack
    · refine .inl (hstrays.step fun hasks => hkept.2 ?_)
      rw [Crowd.asked, hasks]
      exact List.mem_cons_self
    · exact htrack.step hname (hguid _)

/-- **When both changed notebooks are listed in the end.**  Two notebooks with different identifiers
are in the cached list, each of them is changed once, both changes go well, and no list is fetched.
Then both are listed as changed just when the first one to write the list does so before the other
one reads it back, or had nothing to change about it. -/
theorem both_patched_iff {cache : NotebookCache}
    (hcallers : ∀ i, c.callers i = .making [(p i).step])
    (hbucket : Backend.hasBucket c.store Slot.notebooks.bucket = true)
    (hrecord : Slot.notebooks.record c.store = .ok (some cache))
    (hentry : ∀ i, (p i).entry ∈ cache.notebooks ∧ (p i).entry.name = (p i).name)
    (hguid : (p true).entry.guid ≠ (p false).entry.guid)
    (hwell : ∀ i, ((c.after turns).callers i).answered.map changed? = [some (p i).result])
    (hkept : .allNotebooks ∉ c.asked turns) :
    ∃ cache' : NotebookCache, Slot.notebooks.record (c.after turns).store = .ok (some cache')
      ∧ ((∀ i, (p i).result ∈ cache'.notebooks) ↔ ∀ i, Before turns i 5 (!i) 5 →
        Before turns i 5 (!i) 4 ∨ (p i).result ∈ cache.notebooks) := by
  have hguids : ∀ i, (p !i).entry.guid ≠ (p i).entry.guid :=
    Bool.forall_bool.2 ⟨hguid, hguid.symm⟩
  have hstart : OnTrack p cache.notebooks [] c := by
    refine ⟨hbucket, fun i => ?_, cache, hrecord, fun i => ?_⟩
    · rw [hcallers i]
      exact .fresh
    · refine ⟨fun _ => ⟨(hentry i).1, Iff.rfl⟩, fun hi => ?_, fun hi => ?_⟩
      · rw [taken_nil] at hi
        omega
      · rw [taken_nil] at hi
        omega
  rcases hstart.after (fun i => (hentry i).2) hguids hkept with ⟨i, hstrays⟩ | htrack
  · exact absurd (hwell i) hstrays.answered_ne
  · obtain ⟨cache', hrecord', hlisted⟩ := htrack.cached
    have hfive (i : Bool) : 5 ≤ taken i turns := (htrack.stage i).five_le fun hnone => by
      have hi := hwell i
      rw [hnone] at hi
      cases hi
    exact ⟨cache', hrecord', forall_congr' fun i => (hlisted i).overwritten (hfive i) (hfive !i)⟩

end Two

namespace Sample

/-- Surroundings in which changes of notebooks are accepted. -/
def library : Surroundings where
  remote
    | .updateNotebook _ => .ok ()
    | _ => .error (.remote "offline")
  editor := .ok
  fault := .none
  now := .epoch

/-- Two notebooks, listed a moment ago. -/
def shelf : NotebookCache where
  notebooks := [{ name := "Work", guid := "nb-1" }, { name := "Home", guid := "nb-2" }]
  timestamp := .epoch
  limit := NotebookCache.defaultLimit

/-- One client gives the first notebook another name, the other one stacks the second. -/
def shelving : Bool → Patching
  | false => ⟨⟨{}, {}, .identity⟩, "Work", { name := some "Job" }, ⟨"Work", "nb-1", ""⟩⟩
  | true => ⟨⟨{}, {}, .identity⟩, "Home", { stack := some "Private" }, ⟨"Home", "nb-2", ""⟩⟩

def librarians : Crowd Buckets Bool where
  callers i := .making [(shelving i).step]
  store := ((Slot.notebooks.store shelf).update .none ⟨[]⟩).2

/-- The second change begins and ends between the last two turns of the first. -/
def lostTurns : List (Turn Bool) :=
  (List.replicate 4 false ++ List.replicate 5 true ++ [false]).map (⟨·, library⟩)

end Sample

/-- Both changes go well, but the list ends up without the second one. -/
theorem patch_lost_from_shelf : ∃ cache' : NotebookCache,
    Slot.notebooks.record (Sample.librarians.after Sample.lostTurns).store = .ok (some cache')
      ∧ ¬ ∀ i, (Sample.shelving i).result ∈ cache'.notebooks := by
  have hstored : Slot.notebooks.Holds Sample.shelf Sample.librarians.store := by
    obtain ⟨s', hupdate, hsets⟩ :=
      Slot.notebooks.exists_update_store Sample.shelf (⟨[]⟩ : Buckets)
    change Slot.notebooks.Holds Sample.shelf
      ((Slot.notebooks.store Sample.shelf).update .none (⟨[]⟩ : Buckets)).2
    rw [hupdate]
    exact hsets.holds
  have hwell : ∀ i, ((Sample.librarians.after Sample.lostTurns).callers i).answered.map
      Patching.changed? = [some (Sample.shelving i).result] := by decide +kernel
  obtain ⟨cache', hrecord, hiff⟩ := both_patched_iff (p := Sample.shelving) (fun _ => rfl)
    hstored.hasBucket hstored.record (by decide) (by decide) hwell (by decide +kernel)
  refine ⟨cache', hrecord, fun hall => ?_⟩
  have hlost := hiff.1 hall true
  revert hlost
  decide

end Notekeeper
