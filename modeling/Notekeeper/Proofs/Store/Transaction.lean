import Notekeeper.Proofs.Record
import Notekeeper.Proofs.Store.Backend
import Notekeeper.Store.Slot

/-!
# What a transaction writes

A transaction is run for its result, but what it leaves behind is told by its writes alone: the
entry under a key is the one that was written last, and the one from before where nothing was
written.

So the writes of a transaction are collected in turn as it is run (`Transaction.writes`), and an
update keeps all of them or none, as it ends well or not (`Transaction.kept`).  An entry afterwards
is the entry from before with the kept writes played over it (`Transaction.replay`).  This is what
the rest of the theory works with: what a command writes can be read off its journal, and the store
need not be looked at again.

A slot is one key that holds records of one kind, or nothing.  What it says hangs on its bytes
alone.  Transactions that leave a slot alone are closed under sequence (`Transaction.Spares`), and
whole updates of a slot come in three kinds: they put a record there, empty the slot, or do more
than that by reading first.  The first two just write: whether they go well depends on the store and
not on what is in it (`Transaction.JustWrites`).

* `Transaction.get_update` : an entry after an update, from the writes that the update keeps.
* `Transaction.Spares` : transactions that leave a slot alone.
* `Slot.record_of_held_encode` : a slot that holds the bytes of a record says this record.
* `Slot.Sets`, `Slot.Holds` : a store before and after a record is put into a slot.
* `Transaction.justWrites_setBytes` : putting bytes into a slot writes them, or nothing at all.
-/

namespace Notekeeper

/-! ## 1. One operation and one entry

An operation names one entry at most.  All others stay, and that one too if the store refuses the
operation. -/

namespace StoreOp

/-- What an operation makes of the entry under a key, when it goes well. -/
def onEntry (bucket : String) (key : Bytes) : StoreOp → Option Bytes → Option Bytes
  | put b k v, old => if b = bucket ∧ k = key then some v else old
  | delete b k, old => if b = bucket ∧ k = key then none else old
  | hasBucket _, old | get _ _, old | createBucket _, old => old

/-- Whether an operation is about the entry in a slot, and may change it. -/
def touches (slot : Slot) : StoreOp → Bool
  | put b k _ | delete b k => b == slot.bucket && k == slot.key
  | hasBucket _ | get _ _ | createBucket _ => false

theorem onEntry_of_not_touches {slot : Slot} {op : StoreOp} (h : op.touches slot = false)
    (old : Option Bytes) : op.onEntry slot.bucket slot.key old = old := by
  cases op <;> simp_all [touches, onEntry]

end StoreOp

namespace Backend

variable {σ : Type} [Backend σ] [LawfulBackend σ]

/-- **An operation changes the one entry that it names**, and only when it goes well.  Every other
entry is as it was in any case. -/
theorem get_perform (fault : WriteFault) (op : StoreOp) (s : σ) (b : String) (k : Bytes) :
    get (perform fault op s).2 b k
      = if op.isWrite && (perform fault op s).1.isOk then op.onEntry b k (get s b k)
        else get s b k := by
  unfold perform
  split
  · simp [Except.isOk, Except.toBool]
  · cases op with
    | hasBucket b' => rfl
    | get b' k' => rfl
    | createBucket b' =>
      simp [StoreOp.isWrite, StoreOp.onEntry, LawfulBackend.get_createBucket, Except.isOk,
        Except.toBool]
    | put b' k' v =>
      cases h : put s b' k' v with
      | none => simp [h, Except.isOk, Except.toBool]
      | some s' =>
        simp [h, StoreOp.isWrite, StoreOp.onEntry, LawfulBackend.get_put h, Except.isOk,
          Except.toBool]
    | delete b' k' =>
      simp [StoreOp.isWrite, StoreOp.onEntry, LawfulBackend.get_delete, Except.isOk,
        Except.toBool]

omit [LawfulBackend σ] in
theorem perform_put {s s' : σ} {b : String} {k v : Bytes} (h : put s b k v = some s') :
    perform .none (.put b k v) s = (.ok (), s') := by
  simp [perform, h]

/-- A value can be put into a bucket that was just made. -/
theorem exists_put_createBucket (s : σ) (b : String) (k v : Bytes) :
    ∃ s', put (createBucket s b) b k v = some s' := by
  apply Option.isSome_iff_exists.1
  rw [LawfulBackend.isSome_put, LawfulBackend.hasBucket_createBucket, beq_self_eq_true,
    Bool.true_or]

/-- No operation takes a bucket away. -/
theorem hasBucket_perform (fault : WriteFault) (op : StoreOp) {s : σ} {b : String}
    (h : hasBucket s b = true) : hasBucket (perform fault op s).2 b = true := by
  unfold perform
  split
  · exact h
  · cases op with
    | hasBucket b' => exact h
    | get b' k' => exact h
    | createBucket b' => simp [LawfulBackend.hasBucket_createBucket, h]
    | put b' k' v =>
      cases hp : put s b' k' v with
      | none => simpa [hp] using h
      | some s' => simpa [hp, LawfulBackend.hasBucket_put hp] using h
    | delete b' k' => simpa [LawfulBackend.hasBucket_delete] using h

end Backend

/-! ## 2. The writes of a transaction -/

namespace Transaction

variable {σ : Type} [Backend σ] {α β : Type}

/-- The operations of a transaction that change the store as it is run, in turn. -/
def writes (fault : WriteFault) : Transaction α → σ → List StoreOp
  | done _, _ => []
  | step op next, s =>
    match Backend.perform fault op s with
    | (reply, s') =>
      if op.isWrite && reply.isOk then op :: (next reply).writes fault s'
      else (next reply).writes fault s'

/-- **The writes that an update keeps**: all of them if it ends well, else none. -/
def kept (fault : WriteFault) (tx : Transaction α) (s : σ) : List StoreOp :=
  if (tx.update fault s).1.isOk then tx.writes fault s else []

/-- What a list of writes makes of the entry under a key. -/
def replay (b : String) (k : Bytes) (ops : List StoreOp) (old : Option Bytes) : Option Bytes :=
  ops.foldl (fun entry op => op.onEntry b k entry) old

/-- Nothing is written where writes are refused. -/
theorem writes_refused (tx : Transaction α) (s : σ) : tx.writes .refused s = [] := by
  induction tx generalizing s with
  | done result => rfl
  | step op next ih =>
    have hop : (op.isWrite && (Backend.perform .refused op s).1.isOk) = false := by
      cases op <;> simp [Backend.perform, StoreOp.isWrite, Except.isOk, Except.toBool]
    simp only [writes, hop, Bool.false_eq_true, if_false]
    exact ih _ _

/-- An update that keeps a write met nothing in its way. -/
theorem fault_of_mem_kept {fault : WriteFault} {tx : Transaction α} {s : σ} {op : StoreOp}
    (h : op ∈ tx.kept fault s) : fault = .none := by
  cases fault with
  | none => rfl
  | locked => cases h
  | refused => simp [kept, writes_refused] at h

theorem get_run [LawfulBackend σ] (fault : WriteFault) (tx : Transaction α) (s : σ) (b : String)
    (k : Bytes) : Backend.get (tx.run fault s).2 b k
      = replay b k (tx.writes fault s) (Backend.get s b k) := by
  induction tx generalizing s with
  | done result => rfl
  | step op next ih =>
    have hop := Backend.get_perform fault op s b k
    simp only [run, writes]
    rw [ih, hop]
    split <;> rfl

/-- **The entry under a key after an update** is what the kept writes make of it, one after another;
an update that fails keeps none. -/
theorem get_update [LawfulBackend σ] (fault : WriteFault) (tx : Transaction α) (s : σ)
    (b : String) (k : Bytes) : Backend.get (tx.update fault s).2 b k
      = replay b k (tx.kept fault s) (Backend.get s b k) := by
  have hrun := get_run fault tx s b k
  unfold kept update
  split
  · rfl
  · cases h : tx.run fault s with
    | mk result s' =>
      rw [h] at hrun
      cases result with
      | ok a => exact hrun
      | error e => rfl

theorem hasBucket_run [LawfulBackend σ] (fault : WriteFault) (tx : Transaction α) {s : σ}
    {b : String} (h : Backend.hasBucket s b = true) :
    Backend.hasBucket (tx.run fault s).2 b = true := by
  induction tx generalizing s with
  | done result => exact h
  | step op next ih => exact ih _ (Backend.hasBucket_perform fault op h)

theorem hasBucket_update [LawfulBackend σ] (fault : WriteFault) (tx : Transaction α) {s : σ}
    {b : String} (h : Backend.hasBucket s b = true) :
    Backend.hasBucket (tx.update fault s).2 b = true := by
  have hrun := hasBucket_run fault tx h
  unfold update
  split
  · exact h
  · cases hr : tx.run fault s with
    | mk result s' =>
      rw [hr] at hrun
      cases result with
      | ok a => exact hrun
      | error e => exact h

/-- A bucket that was made is there afterwards. -/
theorem hasBucket_of_mem_writes [LawfulBackend σ] {fault : WriteFault} {tx : Transaction α}
    {s : σ} {b : String} (h : .createBucket b ∈ tx.writes fault s) :
    Backend.hasBucket (tx.run fault s).2 b = true := by
  induction tx generalizing s with
  | done result => cases h
  | step op next ih =>
    simp only [writes] at h
    split at h
    · next hok =>
      rcases List.mem_cons.1 h with rfl | h
      · have hnew : Backend.hasBucket (Backend.createBucket s b) b = true := by
          rw [LawfulBackend.hasBucket_createBucket, beq_self_eq_true, Bool.true_or]
        have hmade : Backend.hasBucket (Backend.perform fault (.createBucket b) s).2 b = true := by
          cases fault with
          | none => exact hnew
          | locked => exact hnew
          | refused =>
            simp [Backend.perform, StoreOp.isWrite, Except.isOk, Except.toBool] at hok
        exact hasBucket_run fault (next _) hmade
      · exact ih _ h
    · exact ih _ h

theorem hasBucket_of_mem_kept [LawfulBackend σ] {fault : WriteFault} {tx : Transaction α}
    {s : σ} {b : String} (h : .createBucket b ∈ tx.kept fault s) :
    Backend.hasBucket (tx.update fault s).2 b = true := by
  unfold kept at h
  split at h
  · next hok =>
    have hrun := hasBucket_of_mem_writes h
    unfold update at hok ⊢
    split
    · next hlocked => simp [hlocked, Except.isOk, Except.toBool] at hok
    · cases hr : tx.run fault s with
      | mk result s' =>
        rw [hr] at hrun
        cases result with
        | ok a => exact hrun
        | error e => simp_all [Except.isOk, Except.toBool]
  · cases h

/-- An update of a transaction that goes well. -/
theorem update_of_run {tx : Transaction α} {s s' : σ} {a : α}
    (h : tx.run .none s = (.ok a, s')) : tx.update .none s = (.ok a, s') := by
  rw [update, if_neg nofun, h]

/-- An update of a transaction that fails, for the store can be reached. -/
theorem update_of_run_error {fault : WriteFault} {tx : Transaction α} {s s' : σ} {e : Error}
    (hfault : fault ≠ .locked) (h : tx.run fault s = (.error e, s')) :
    tx.update fault s = (.error e, s) := by
  rw [update, if_neg hfault, h]

/-- An update that fails leaves the store as it was. -/
theorem update_of_error {fault : WriteFault} {tx : Transaction α} {s : σ} {e : Error}
    (h : (tx.update fault s).1 = .error e) : (tx.update fault s).2 = s := by
  unfold update at h ⊢
  split
  · rfl
  · next hfault =>
    rw [if_neg hfault] at h
    cases hrun : tx.run fault s with
    | mk result s' =>
      rw [hrun] at h
      cases result with
      | error e' => rfl
      | ok a => cases h

/-! ## 3. Transactions one after another -/

/-- What comes after two transactions comes after the second one. -/
theorem bind_assoc {γ : Type} (tx : Transaction α) (f : α → Transaction β)
    (g : β → Transaction γ) : (tx >>= f) >>= g = tx >>= fun a => f a >>= g := by
  change (tx.bind f).bind g = tx.bind fun a => (f a).bind g
  induction tx with
  | done result => cases result <;> rfl
  | step op next ih => exact congrArg (step op) (funext ih)

theorem run_bind (fault : WriteFault) (tx : Transaction α) (f : α → Transaction β) (s : σ) :
    (tx >>= f).run fault s = match tx.run fault s with
      | (.ok a, s') => (f a).run fault s'
      | (.error e, s') => (.error e, s') := by
  change (tx.bind f).run fault s = _
  induction tx generalizing s with
  | done result => cases result <;> rfl
  | step op next ih => exact ih _ _

theorem writes_bind (fault : WriteFault) (tx : Transaction α) (f : α → Transaction β) (s : σ) :
    (tx >>= f).writes fault s = tx.writes fault s ++ match tx.run fault s with
      | (.ok a, s') => (f a).writes fault s'
      | (.error _, _) => [] := by
  change (tx.bind f).writes fault s = _
  induction tx generalizing s with
  | done result => cases result <;> rfl
  | step op next ih =>
    simp only [bind, writes, run, ih]
    split <;> rfl

/-! ## 4. Transactions that leave a slot alone -/

/-- **Whether a transaction leaves a slot alone**, on every store and whatever goes wrong. -/
def Spares (σ : Type) [Backend σ] (slot : Slot) (tx : Transaction α) : Prop :=
  ∀ (fault : WriteFault) (s : σ), ∀ op ∈ tx.writes fault s, op.touches slot = false

theorem spares_done (slot : Slot) (result : Except Error α) :
    (done result).Spares σ slot := by
  intro fault s op h
  cases h

theorem spares_perform {slot : Slot} {op : StoreOp} (h : op.touches slot = false) :
    (perform op).Spares σ slot := by
  intro fault s op' hop'
  simp only [perform, writes] at hop'
  split at hop' <;> simp_all

theorem Spares.bind {slot : Slot} {tx : Transaction α} {f : α → Transaction β}
    (h : tx.Spares σ slot) (hf : ∀ a, (f a).Spares σ slot) : (tx >>= f).Spares σ slot := by
  intro fault s op hop
  rw [writes_bind, List.mem_append] at hop
  rcases hop with hop | hop
  · exact h fault s op hop
  · cases hr : tx.run fault s with
    | mk result s' =>
      rw [hr] at hop
      cases result with
      | ok a => exact hf a fault s' op hop
      | error e => cases hop

theorem Spares.kept {slot : Slot} {tx : Transaction α} (h : tx.Spares σ slot)
    (fault : WriteFault) (s : σ) : ∀ op ∈ tx.kept fault s, op.touches slot = false := by
  intro op hop
  unfold Transaction.kept at hop
  split at hop
  · exact h fault s op hop
  · cases hop

end Transaction

/-! ## 5. Slots and their records

A slot says something in every store: that there is no record, which record there is, or that its
bytes are none. -/

namespace Slot

variable {σ : Type} [Backend σ]

/-- The bytes that a store holds in a slot. -/
def held (slot : Slot) (s : σ) : Option Bytes := Backend.get s slot.bucket slot.key

/-- Two slots with one place are the same slot. -/
theorem eq_of_place {slot slot' : Slot} (hb : slot.bucket = slot'.bucket)
    (hk : slot.key = slot'.key) : slot = slot' := by
  revert hb hk
  cases slot <;> cases slot' <;> decide

theorem touches_put {slot slot' : Slot} (bs : Bytes) :
    (StoreOp.put slot'.bucket slot'.key bs).touches slot = decide (slot' = slot) := by
  by_cases h : slot' = slot
  · simp [StoreOp.touches, h]
  · have hne : ¬ (slot'.bucket = slot.bucket ∧ slot'.key = slot.key) :=
      fun hp => h (eq_of_place hp.1 hp.2)
    simpa [StoreOp.touches, h] using hne

theorem touches_delete {slot : Slot} (slot' : Slot) :
    (StoreOp.delete slot'.bucket slot'.key).touches slot = decide (slot' = slot) :=
  touches_put []

variable {α : Type} [Record α]

/-- **What a slot says**: no record, a record, or that its bytes cannot be read. -/
def record (slot : Slot) (s : σ) : Except Error (Option α) :=
  match slot.held s with
  | none => .ok none
  | some bs => (slot.decode bs).map some

/-- What a slot says depends on its bytes alone. -/
theorem record_congr {slot : Slot} {s s' : σ} (h : slot.held s' = slot.held s) :
    (slot.record s' : Except Error (Option α)) = slot.record s := by
  rw [record, record, h]

theorem run_load (slot : Slot) (fault : WriteFault) (s : σ) :
    (slot.load : Transaction (Option α)).run fault s = (slot.record s, s) := by
  unfold load record
  rw [Transaction.run_bind]
  have hbytes : slot.bytes.run fault s = (.ok (slot.held s), s) := by
    simp [bytes, Transaction.perform, Transaction.run, Backend.perform, StoreOp.isWrite, held]
  rw [hbytes]
  cases slot.held s with
  | none => rfl
  | some bs =>
    simp only
    cases (slot.decode bs : Except Error α) <;> rfl

theorem record_of_held_none {slot : Slot} {s : σ} (h : slot.held s = none) :
    slot.record s = (.ok none : Except Error (Option α)) := by
  rw [record, h]

/-- **A slot that holds the bytes of a record says this record**, as it was written.  Whatever else
the store holds has no part in it. -/
theorem record_of_held_encode [LawfulRecord α] {slot : Slot} {s : σ} {a : α}
    (h : slot.held s = some (Record.encode a)) :
    slot.record s = .ok (some (LawfulRecord.asWritten a)) := by
  rw [record, h]
  simp only [decode, Record.decode?_encode]
  rfl

/-- A record that a slot says is written as it is. -/
theorem asWritten_of_record [LawfulRecord α] {slot : Slot} {s : σ} {a : α}
    (h : slot.record s = .ok (some a)) : LawfulRecord.asWritten a = a := by
  unfold record at h
  split at h
  · cases h
  · next bs _ =>
    unfold decode at h
    split at h
    · next b hdecode =>
      cases h
      exact Record.asWritten_of_decode? hdecode
    · cases h

/-- A record that a slot says is the one whose bytes it holds, where it holds a record's bytes. -/
theorem eq_of_record [LawfulRecord α] {slot : Slot} {s : σ} {held : Option α} {a : α}
    (hheld : slot.held s = held.map Record.encode) (h : slot.record s = .ok (some a)) :
    held.map LawfulRecord.asWritten = some a := by
  cases held with
  | none =>
    have hempty : slot.record s = (.ok none : Except Error (Option α)) :=
      record_of_held_none hheld
    exact absurd (h.symm.trans hempty) nofun
  | some b =>
    have hfull : slot.record s = .ok (some (LawfulRecord.asWritten b)) :=
      record_of_held_encode hheld
    exact Except.ok.inj (hfull.symm.trans h)

theorem spares_load (slot slot' : Slot) :
    (slot'.load : Transaction (Option α)).Spares σ slot := by
  refine .bind (Transaction.spares_perform rfl) fun found => ?_
  cases found with
  | none => exact Transaction.spares_done slot _
  | some bs => exact .bind (Transaction.spares_done slot _) fun a => Transaction.spares_done slot _

theorem spares_setBytes {slot slot' : Slot} (h : slot' ≠ slot) (bs : Bytes) :
    (slot'.setBytes bs).Spares σ slot := by
  refine .bind (Transaction.spares_perform rfl) fun _ => Transaction.spares_perform ?_
  rw [touches_put]
  exact decide_eq_false h

/-! ## 6. Updates of one slot -/

/-- **Whether a store is another one with bytes put into a slot**, and the same otherwise. -/
structure Sets (slot : Slot) (bs : Bytes) (s s' : σ) : Prop where
  get (b : String) (k : Bytes) : Backend.get s' b k
    = if slot.bucket = b ∧ slot.key = k then some bs else Backend.get s b k
  hasBucket (b : String) : Backend.hasBucket s' b = (slot.bucket == b || Backend.hasBucket s b)

theorem Sets.held {slot : Slot} {bs : Bytes} {s s' : σ} (h : slot.Sets bs s s') :
    slot.held s' = some bs := by
  rw [Slot.held, h.get, if_pos ⟨rfl, rfl⟩]

theorem Sets.held_of_ne {slot slot' : Slot} {bs : Bytes} {s s' : σ} (h : slot.Sets bs s s')
    (hne : slot' ≠ slot) : slot'.held s' = slot'.held s := by
  rw [Slot.held, h.get, if_neg fun hp => hne (eq_of_place hp.1 hp.2).symm]
  rfl

/-- **Whether a slot holds a record**: its bucket is there, and the record's bytes are in it. -/
structure Holds (slot : Slot) (a : α) (s : σ) : Prop where
  hasBucket : Backend.hasBucket s slot.bucket = true
  held : slot.held s = some (Record.encode a)

theorem Sets.holds {slot : Slot} {a : α} {s s' : σ}
    (h : slot.Sets (Record.encode a) s s') : slot.Holds a s' where
  hasBucket := by rw [h.hasBucket, beq_self_eq_true, Bool.true_or]
  held := h.held

theorem Holds.record [LawfulRecord α] {slot : Slot} {a : α} {s : σ}
    (h : slot.Holds a s) : slot.record s = .ok (some (LawfulRecord.asWritten a)) :=
  record_of_held_encode h.held

/-- Where nothing is in the way, bytes are put into a slot and nothing else happens. -/
theorem run_setBytes [LawfulBackend σ] (slot : Slot) (bs : Bytes) (s : σ) :
    ∃ s', (slot.setBytes bs).run .none s = (.ok (), s') ∧ slot.Sets bs s s' := by
  obtain ⟨s', hs'⟩ := Backend.exists_put_createBucket s slot.bucket slot.key bs
  refine ⟨s', ?_, fun b k => ?_, fun b => ?_⟩
  · have hput := Backend.perform_put hs'
    have hcreate : Backend.perform .none (.createBucket slot.bucket) s
        = (.ok (), Backend.createBucket s slot.bucket) := rfl
    unfold setBytes
    rw [Transaction.run_bind]
    simp only [Transaction.perform, Transaction.run, hcreate, hput]
  · rw [LawfulBackend.get_put hs', LawfulBackend.get_createBucket]
  · rw [LawfulBackend.hasBucket_put hs', LawfulBackend.hasBucket_createBucket]

/-- Where nothing is in the way, a record is stored and nothing else happens. -/
theorem exists_update_store [LawfulBackend σ] (slot : Slot) (a : α) (s : σ) :
    ∃ s', (slot.store a).update .none s = (.ok (), s') ∧ slot.Sets (Record.encode a) s s' := by
  obtain ⟨s', hrun, hsets⟩ := slot.run_setBytes (Record.encode a) s
  exact ⟨s', Transaction.update_of_run hrun, hsets⟩

/-- A new bucket leaves the bytes of a slot as they are. -/
theorem held_createBucket [LawfulBackend σ] (slot : Slot) (s : σ) (b : String) :
    slot.held (Backend.createBucket s b) = slot.held s :=
  LawfulBackend.get_createBucket s b slot.bucket slot.key

/-- Where writes are refused, bytes are not put into a slot. -/
theorem run_setBytes_refused (slot : Slot) (bs : Bytes) (s : σ) :
    (slot.setBytes bs).run .refused s = (.error WriteFault.refusedError, s) := rfl

/-- The writes that put bytes into a slot. -/
def putting (slot : Slot) (bs : Bytes) : List StoreOp :=
  [.createBucket slot.bucket, .put slot.bucket slot.key bs]

/-- The writes that empty a slot. -/
def emptying (slot : Slot) : List StoreOp :=
  [.createBucket slot.bucket, .delete slot.bucket slot.key]

theorem replay_putting (slot : Slot) (bs : Bytes) (old : Option Bytes) :
    Transaction.replay slot.bucket slot.key (slot.putting bs) old = some bs := by
  simp [Transaction.replay, putting, StoreOp.onEntry]

theorem replay_emptying (slot : Slot) (old : Option Bytes) :
    Transaction.replay slot.bucket slot.key slot.emptying old = none := by
  simp [Transaction.replay, emptying, StoreOp.onEntry]

end Slot

/-- What a result holds tells all of it. -/
theorem eq_ok_of_toOption {α : Type} {result : Except Error α} {a : α}
    (h : result.toOption = some a) : result = .ok a := by
  cases result with
  | error e => cases h
  | ok a' => exact congrArg Except.ok (Option.some.inj h)

namespace WriteFault

/-- What an update replies that does nothing but write. -/
def reply : WriteFault → Except Error Unit
  | none => .ok ()
  | locked => .error lockedError
  | refused => .error refusedError

/-- A reply without an error means that nothing is in the way of a write. -/
theorem reply_eq_ok {fault : WriteFault} {u : Unit} : fault.reply = .ok u ↔ fault = .none := by
  cases fault <;> simp [reply]

theorem ne_none_of_reply {fault : WriteFault} {e : Error} (h : fault.reply = .error e) :
    fault ≠ .none := by
  rintro rfl
  cases h

/-- What an update replies that only writes once it knows its result. -/
def replyTo {α : Type} : WriteFault → Except Error α → Except Error α
  | none, found => found
  | locked, _ => .error lockedError
  | refused, .ok _ => .error refusedError
  | refused, .error e => .error e

theorem replyTo_eq_ok {α : Type} {fault : WriteFault} {found : Except Error α} {a : α} :
    fault.replyTo found = .ok a ↔ fault = .none ∧ found = .ok a := by
  cases fault with
  | none => simp [replyTo]
  | locked => simp [replyTo]
  | refused => cases found <;> simp [replyTo]

/-- An update that only writes once it knows its result fails with an error of the store, or with
what it found. -/
theorem of_replyTo_eq_error {α : Type} {fault : WriteFault} {found : Except Error α} {e : Error}
    (h : fault.replyTo found = .error e) : fault.reply = .error e ∨ found = .error e := by
  cases fault with
  | none => exact .inr h
  | locked => exact .inl (congrArg Except.error (Except.error.inj h))
  | refused =>
    cases found with
    | ok a => exact .inl (congrArg Except.error (Except.error.inj h))
    | error e' => exact .inr h

theorem replyTo_map {α β : Type} (fault : WriteFault) (found : Except Error α) (f : α → β) :
    fault.replyTo (found.map f) = (fault.replyTo found).map f := by
  cases fault <;> cases found <;> rfl

end WriteFault

namespace Transaction

variable {σ : Type} [Backend σ]

/-- **Whether a transaction does certain writes and nothing else**: it goes well unless the store
cannot be written, and then leaves no trace. -/
def JustWrites (σ : Type) [Backend σ] (tx : Transaction Unit) (ops : List StoreOp) : Prop :=
  ∀ (fault : WriteFault) (s : σ), (tx.update fault s).1 = fault.reply
    ∧ tx.kept fault s = if fault = .none then ops else []

theorem justWrites_createBucket (b : String) :
    JustWrites σ (perform (.createBucket b)) [.createBucket b] := by
  intro fault s
  cases fault <;> exact ⟨rfl, rfl⟩

theorem justWrites_emptying (slot : Slot) :
    JustWrites σ (do
      perform (.createBucket slot.bucket)
      perform (.delete slot.bucket slot.key)) slot.emptying := by
  intro fault s
  cases fault <;> exact ⟨rfl, rfl⟩

theorem justWrites_setBytes [LawfulBackend σ] (slot : Slot) (bs : Bytes) :
    JustWrites σ (slot.setBytes bs) (slot.putting bs) := by
  intro fault s
  cases fault with
  | locked => exact ⟨rfl, rfl⟩
  | refused => exact ⟨rfl, rfl⟩
  | none =>
    obtain ⟨s', hs'⟩ := Backend.exists_put_createBucket s slot.bucket slot.key bs
    have hcreate : Backend.perform .none (.createBucket slot.bucket) s
        = (.ok (), Backend.createBucket s slot.bucket) := rfl
    have hput := Backend.perform_put hs'
    have hrun : (slot.setBytes bs).run .none s = (.ok (), s') := by
      unfold Slot.setBytes
      rw [run_bind]
      simp only [perform, run, hcreate, hput]
    have hwrites : (slot.setBytes bs).writes .none s = slot.putting bs := by
      unfold Slot.setBytes
      rw [writes_bind]
      simp only [perform, run, writes, hcreate, hput]
      rfl
    simp [kept, update, hrun, hwrites, WriteFault.reply, Except.isOk, Except.toBool]

end Transaction
end Notekeeper
