import Notekeeper.Proofs.Store.Transaction

/-!
# Transactions that go wrong half way

A store may refuse a transaction at any point: when it begins, at any of its operations, or when
its changes are to be kept.  Each transaction here is strict: the error of an operation ends it.
So a strict update takes place as a whole, or it fails and the store stays as it was.

Mishaps are told by number, so that any choice of failing operations is one value, and the same
choice can be met by different transactions.  A transaction is run along them by recursion on its
tree, with the number of the operation that is due.  If it is strict, the first operation that meets
a mishap ends the run in an error; if none does, the run is the plain one.  What was done before the
mishap is given up with the update, so that there is nothing in between.

The faults that a store shows to commands are two such choices: it is locked, and the update cannot
begin; or it refuses to be written, and every operation that writes meets a mishap.

* `Transaction.updateAmid` : an update during which anything may go wrong.
* `Transaction.updateAmid_of_strikes`, `Transaction.updateAmid_of_not_strikes` : a strict update
  fails without a trace if something goes wrong, and is the plain update otherwise.
* `Transaction.update_eq_updateAmid` : a fault of the store is a special case.
-/

namespace Notekeeper

/-! ## 1. Mishaps

The operations of an update are counted from zero, in the order in which they are done. -/

/-- **What goes wrong during an update**: the error, if any, of its beginning, of each of its
operations by their number, and of keeping its changes. -/
structure Mishaps where
  beginning : Option Error := none
  operation : Nat → StoreOp → Option Error := fun _ _ => none
  ending : Option Error := none

/-- What goes wrong under a fault of the store. -/
def WriteFault.mishaps : WriteFault → Mishaps
  | none => {}
  | locked => { beginning := some lockedError }
  | refused => { operation := fun _ op => if op.isWrite then some refusedError else Option.none }

namespace Transaction

variable {σ : Type} [Backend σ] {α β : Type}

/-- The result of a transaction amid mishaps, and the store as the transaction leaves it.  The
operation that is due has the number `n`; one that meets a mishap does nothing. -/
def runAmid (m : Mishaps) : Transaction α → (n : Nat) → σ → Except Error α × σ
  | done result, _, s => (result, s)
  | step op next, n, s =>
    match m.operation n op with
    | some e => (next (.error e)).runAmid m (n + 1) s
    | none =>
      match Backend.perform .none op s with
      | (reply, s') => (next reply).runAmid m (n + 1) s'

/-- **The result of an update amid mishaps, and the store after it.** -/
def updateAmid (m : Mishaps) (tx : Transaction α) (s : σ) : Except Error α × σ :=
  match m.beginning, tx.runAmid m 0 s, m.ending with
  | some e, _, _ => (.error e, s)
  | none, (.error e, _), _ => (.error e, s)
  | none, (.ok _, _), some e => (.error e, s)
  | none, (.ok a, s'), none => (.ok a, s')

/-- A fault of the store is a choice of mishaps. -/
theorem run_eq_runAmid {fault : WriteFault} (tx : Transaction α) (n : Nat) (s : σ) :
    tx.run fault s = tx.runAmid fault.mishaps n s := by
  induction tx generalizing n s with
  | done result => rfl
  | step op next ih =>
    simp only [run, runAmid]
    cases hop : fault.mishaps.operation n op with
    | none =>
      have hplain : Backend.perform fault op s = Backend.perform .none op s := by
        cases fault <;> cases op <;> first | rfl | cases hop
      rw [hplain]
      exact ih _ _ _
    | some e =>
      have hrefused : Backend.perform fault op s = (.error e, s) := by
        cases fault <;> cases op <;> cases hop <;> rfl
      rw [hrefused]
      exact ih _ _ _

theorem update_eq_updateAmid (fault : WriteFault) (tx : Transaction α) (s : σ) :
    tx.update fault s = tx.updateAmid fault.mishaps s := by
  unfold update updateAmid
  rw [← run_eq_runAmid]
  cases fault with
  | locked => rfl
  | none => cases tx.run .none s with | mk result s' => cases result <;> rfl
  | refused => cases tx.run .refused s with | mk result s' => cases result <;> rfl

/-! ## 2. Strict transactions

The transactions told of here pass the error of an operation on at once, and so they are strict. -/

/-- **Whether the error of any operation ends a transaction**, in an error. -/
inductive Strict : Transaction α → Prop
  | done (result : Except Error α) : Strict (done result)
  | step {op : StoreOp} {next : Except Error op.Reply → Transaction α}
      (hfail : ∀ e, ∃ e', next (.error e) = .done (.error e'))
      (hnext : ∀ reply, Strict (next (.ok reply))) : Strict (step op next)

theorem strict_perform (op : StoreOp) : (perform op).Strict :=
  .step (fun e => ⟨e, rfl⟩) fun reply => .done (.ok reply)

theorem Strict.bind {tx : Transaction α} {f : α → Transaction β} (h : tx.Strict)
    (hf : ∀ a, (f a).Strict) : (tx >>= f).Strict := by
  induction h with
  | done result =>
    cases result with
    | ok a => exact hf a
    | error e => exact .done (.error e)
  | @step op next hfail hnext ih =>
    refine .step (fun e => ?_) ih
    obtain ⟨e', he⟩ := hfail e
    refine ⟨e', ?_⟩
    rw [he]
    rfl

theorem strict_setBytes (slot : Slot) (bs : Bytes) : (slot.setBytes bs).Strict :=
  (strict_perform _).bind fun _ => strict_perform _

theorem strict_load {ρ : Type} [Record ρ] (slot : Slot) :
    (slot.load : Transaction (Option ρ)).Strict := by
  refine (strict_perform _).bind fun found => ?_
  cases found with
  | none => exact .done _
  | some bs => exact (Strict.done _).bind fun a => .done _

/-! ## 3. All or nothing -/

/-- Whether an operation of a transaction meets a mishap, when the one that is due has the number
`n`. -/
def Meets (m : Mishaps) : Transaction α → (n : Nat) → σ → Prop
  | done _, _, _ => False
  | step op next, n, s =>
    (m.operation n op).isSome
      ∨ (next (Backend.perform .none op s).1).Meets m (n + 1) (Backend.perform .none op s).2

/-- **Whether mishaps strike an update**: at its beginning, at one of its operations, or when its
changes are to be kept. -/
def Strikes (m : Mishaps) (tx : Transaction α) (s : σ) : Prop :=
  m.beginning.isSome ∨ tx.Meets m 0 s ∨ m.ending.isSome

theorem Strict.runAmid_of_meets {m : Mishaps} {tx : Transaction α} (h : tx.Strict) {n : Nat}
    {s : σ} (hm : tx.Meets m n s) : ∃ e, (tx.runAmid m n s).1 = .error e := by
  induction h generalizing n s with
  | done result => exact hm.elim
  | @step op next hfail hnext ih =>
    simp only [runAmid]
    cases hop : m.operation n op with
    | some e =>
      obtain ⟨e', he⟩ := hfail e
      simp only [he]
      exact ⟨e', rfl⟩
    | none =>
      rcases hm with hm | hm
      · rw [hop] at hm
        cases hm
      · cases hp : Backend.perform .none op s with
        | mk reply s' =>
          rw [hp] at hm
          cases reply with
          | ok a => exact ih a hm
          | error e =>
            obtain ⟨e', he⟩ := hfail e
            simp only [he]
            exact ⟨e', rfl⟩

theorem runAmid_of_not_meets {m : Mishaps} {tx : Transaction α} {n : Nat} {s : σ}
    (hm : ¬ tx.Meets m n s) : tx.runAmid m n s = tx.run .none s := by
  induction tx generalizing n s with
  | done result => rfl
  | step op next ih =>
    obtain ⟨hop, hrest⟩ := not_or.1 hm
    rw [Bool.not_eq_true, Option.isSome_eq_false_iff, Option.isNone_iff_eq_none] at hop
    simp only [runAmid, run, hop]
    exact ih _ hrest

/-- **A strict update that something goes wrong with fails**, and leaves the store as it was.  It
does not matter which of its operations it is that goes wrong. -/
theorem Strict.updateAmid_of_strikes {m : Mishaps} {tx : Transaction α} (h : tx.Strict) {s : σ}
    (hm : Strikes m tx s) : ∃ e, tx.updateAmid m s = (.error e, s) := by
  unfold updateAmid
  cases hbegin : m.beginning with
  | some e => exact ⟨e, rfl⟩
  | none =>
    cases hrun : tx.runAmid m 0 s with
    | mk result s' =>
      cases result with
      | error e => exact ⟨e, rfl⟩
      | ok a =>
        rcases hm with hm | hm | hm
        · rw [hbegin] at hm
          cases hm
        · obtain ⟨e, he⟩ := h.runAmid_of_meets hm
          rw [hrun] at he
          cases he
        · obtain ⟨e, he⟩ := Option.isSome_iff_exists.1 hm
          exact ⟨e, by rw [he]⟩

/-- Where nothing goes wrong, an update is the plain one. -/
theorem updateAmid_of_not_strikes {m : Mishaps} {tx : Transaction α} {s : σ}
    (hm : ¬ Strikes m tx s) : tx.updateAmid m s = tx.update .none s := by
  obtain ⟨hbegin, hrest⟩ := not_or.1 hm
  obtain ⟨hmeets, hend⟩ := not_or.1 hrest
  rw [Bool.not_eq_true, Option.isSome_eq_false_iff, Option.isNone_iff_eq_none] at hbegin hend
  unfold updateAmid update
  rw [hbegin, hend, runAmid_of_not_meets hmeets]
  cases tx.run .none s with | mk result s' => cases result <;> rfl

/-! ## 4. Records read and written amid mishaps -/

/-- A record is read, or the transaction ends. -/
theorem runAmid_load_bind {ρ : Type} [Record ρ] (m : Mishaps) (slot : Slot)
    (f : Option ρ → Transaction α) (n : Nat) (s : σ) : (slot.load >>= f).runAmid m n s
      = match m.operation n (.get slot.bucket slot.key) with
        | some e => (.error e, s)
        | none => match (slot.record s : Except Error (Option ρ)) with
          | .error e => (.error e, s)
          | .ok found => (f found).runAmid m (n + 1) s := by
  change (step (.get slot.bucket slot.key) _).runAmid m n s = _
  simp only [runAmid]
  cases m.operation n (.get slot.bucket slot.key) with
  | some e => rfl
  | none =>
    have hget : Backend.perform .none (.get slot.bucket slot.key) s = (.ok (slot.held s), s) := rfl
    simp only [hget, Slot.record]
    cases slot.held s with
    | none => rfl
    | some bs =>
      change ((some <$> done (slot.decode bs)) >>= f).runAmid m (n + 1) s
        = match (slot.decode bs).map some with
          | .error e => (.error e, s)
          | .ok found => (f found).runAmid m (n + 1) s
      cases (slot.decode bs : Except Error ρ) <;> rfl

/-- Bytes are put into a slot, or the transaction ends. -/
theorem runAmid_setBytes_bind [LawfulBackend σ] (m : Mishaps) (slot : Slot) (bs : Bytes)
    (f : Unit → Transaction α) (n : Nat) (s : σ) :
    ∃ s₁ s', slot.Sets bs s s' ∧ (slot.setBytes bs >>= f).runAmid m n s
      = match (m.operation n (.createBucket slot.bucket)).or
            (m.operation (n + 1) (.put slot.bucket slot.key bs)) with
        | some e => (.error e, s₁)
        | none => (f ()).runAmid m (n + 2) s' := by
  obtain ⟨s', hset, hsets⟩ := slot.run_setBytes bs s
  have hcreate : Backend.perform .none (.createBucket slot.bucket) s
      = (.ok (), Backend.createBucket s slot.bucket) := rfl
  have hput : Backend.perform .none (.put slot.bucket slot.key bs)
      (Backend.createBucket s slot.bucket) = (.ok (), s') := hset
  change ∃ s₁ s', _ ∧ (step (.createBucket slot.bucket) _).runAmid m n s = _
  simp only [runAmid, hcreate]
  cases m.operation n (.createBucket slot.bucket) with
  | some e => exact ⟨s, s', hsets, rfl⟩
  | none =>
    change ∃ s₁ s', _ ∧ (step (.put slot.bucket slot.key bs) _).runAmid m (n + 1) _ = _
    simp only [runAmid, hput]
    cases m.operation (n + 1) (.put slot.bucket slot.key bs) with
    | some e => exact ⟨_, s', hsets, rfl⟩
    | none => exact ⟨s, s', hsets, rfl⟩

end Transaction
end Notekeeper
