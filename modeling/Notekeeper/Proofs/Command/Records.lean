import Notekeeper.Command.Records
import Notekeeper.Proofs.Command.Report

/-!
# Commands on one record

Most of what the program keeps is kept one record to a slot, and most commands read a record,
write one, or do neither.  What they report is settled here once, for any record in any slot.

To read a record, a command first looks whether the bucket of the slot is there.  If it is, the
record is decoded and nothing is written.  If it is not, there is no record, and the command makes
the bucket; this is the one write that reading can do.  To write a record, a command makes the
bucket and puts the bytes there in a single update, so that the journal holds both writes or
neither, and the result tells which.

What a command leaves alone is read off its journal: it spares a slot if none of its writes touch
the slot's entry, in every world and on every store.  Sparing is closed under `>>=`, and with the
single steps at the bottom it goes up through all commands by their structure
(`Command/Footprint`).  As an entry is what the writes make of it (`get_report`), a spared slot
holds what it held, whatever went wrong meanwhile.  Making a bucket touches no entry, and so every
command that only reads spares every slot.

* `Command.Spares.held` : a slot that a command spares holds afterwards what it held before.
* `Command.Spares.holds` : so does a slot with a record in it, and the record stays legible.
* `Command.report_loadRecord` : a record is read without a trace where its bucket is.
* `Command.report_storeRecord` : a record is written in full, or not at all.
-/

namespace Notekeeper.Command

variable {σ : Type} [Backend σ] {α β : Type}

/-! ## 1. Commands that leave a slot alone

What is spared is the entry of a slot.  Making a bucket is a write too, but it touches no entry. -/

/-- **Whether a command leaves a slot alone**, in every world and on every store.  It is said of the
writes that were kept, so that a bucket may have been made. -/
def Spares (σ : Type) [Backend σ] (slot : Slot) (c : Command α) : Prop :=
  ∀ (world : Nat → Surroundings) (tick : Nat) (s : σ),
    ∀ op ∈ (c.report world tick s).writes, op.touches slot = false

/-- Operations on other entries make nothing of an entry. -/
theorem replay_of_not_touches {slot : Slot} {ops : List StoreOp}
    (h : ∀ op ∈ ops, op.touches slot = false) (old : Option Bytes) :
    Transaction.replay slot.bucket slot.key ops old = old := by
  induction ops generalizing old with
  | nil => rfl
  | cons op ops ih =>
    have hop := StoreOp.onEntry_of_not_touches (h op List.mem_cons_self) old
    have hops := ih (fun o ho => h o (List.mem_cons_of_mem op ho)) old
    calc Transaction.replay slot.bucket slot.key (op :: ops) old
        = Transaction.replay slot.bucket slot.key ops (op.onEntry slot.bucket slot.key old) := rfl
      _ = old := by rw [hop, hops]

/-- **A spared slot holds what it held before**, since an entry is what the writes make of it, and
none of them touches this one. -/
theorem Spares.held [LawfulBackend σ] {slot : Slot} {c : Command α} (h : c.Spares σ slot)
    (world : Nat → Surroundings) (tick : Nat) (s : σ) :
    slot.held (c.report world tick s).store = slot.held s := by
  rw [Slot.held, get_report]
  exact replay_of_not_touches (h world tick s) _

/-- A record that a spared slot holds stays there. -/
theorem Spares.holds [LawfulBackend σ] [Record β] {slot : Slot} {c : Command α} {b : β} {s : σ}
    (h : c.Spares σ slot) (hs : slot.Holds b s) (world : Nat → Surroundings) (tick : Nat) :
    slot.Holds b (c.report world tick s).store where
  hasBucket := hasBucket_report world c tick hs.hasBucket
  held := (h.held world tick s).trans hs.held

theorem spares_done (slot : Slot) (result : Except Error α) : (done result).Spares σ slot := by
  intro world tick s op hop
  cases hop

theorem spares_viewed (slot : Slot) (tx : Transaction α) : (viewed tx).Spares σ slot := by
  intro world tick s op hop
  cases hop

theorem spares_asked (slot : Slot) (call : RemoteCall) : (asked call).Spares σ slot := by
  intro world tick s op hop
  cases hop

theorem spares_edited (slot : Slot) (text : String) : (edited text).Spares σ slot := by
  intro world tick s op hop
  cases hop

theorem spares_now (slot : Slot) : now.Spares σ slot := by
  intro world tick s op hop
  cases hop

theorem spares_updated {slot : Slot} {tx : Transaction α} (h : tx.Spares σ slot) :
    (updated tx).Spares σ slot := by
  intro world tick s op hop
  rw [report_updated] at hop
  obtain ⟨effect, heffect, hop⟩ := List.mem_filterMap.1 hop
  obtain ⟨op', hop', rfl⟩ := List.mem_map.1 heffect
  cases hop
  exact h.kept _ _ op hop'

theorem Spares.bind {slot : Slot} {c : Command α} {f : α → Command β} (h : c.Spares σ slot)
    (hf : ∀ a, (f a).Spares σ slot) : (c >>= f).Spares σ slot := by
  intro world tick s op hop
  obtain ⟨effect, heffect, hwrote⟩ := List.mem_filterMap.1 hop
  rcases mem_journal_bind.1 heffect with heffect | ⟨a, -, heffect⟩
  · exact h world tick s op (List.mem_filterMap.2 ⟨effect, heffect, hwrote⟩)
  · exact hf a world _ _ op (List.mem_filterMap.2 ⟨effect, heffect, hwrote⟩)

/-! ## 2. Reading a record

Reading begins with a look that tells whether the bucket is there.  Only if it is not there does the
command write, and what it writes is the bucket. -/

/-- The look at the store with which reading a record begins. -/
def recordIfBucket (α : Type) [Record α] (slot : Slot) : Transaction (Option (Option α)) := do
  if ← .perform (.hasBucket slot.bucket) then some <$> slot.load else pure none

theorem view_recordIfBucket (α : Type) [Record α] (slot : Slot) (s : σ) :
    (recordIfBucket α slot).view s
      = if Backend.hasBucket s slot.bucket then (slot.record s).map some else .ok none := by
  have hlook : (Transaction.perform (.hasBucket slot.bucket)).run .none s
      = (.ok (Backend.hasBucket s slot.bucket), s) := rfl
  rw [Transaction.view, recordIfBucket, Transaction.run_bind, hlook]
  cases Backend.hasBucket s slot.bucket with
  | false => rfl
  | true =>
    have hload : (some <$> (slot.load : Transaction (Option α))).run .none s
        = ((slot.record s).map some, s) := by
      change ((slot.load >>= fun a => pure (some a)) : Transaction (Option (Option α))).run .none s
        = _
      rw [Transaction.run_bind, Slot.run_load]
      cases (slot.record s : Except Error (Option α)) <;> rfl
    exact congrArg Prod.fst hload

/-- **A record is read without a trace** where its bucket is.  The result is what the slot says,
also where it says that the bytes are no record. -/
theorem report_loadRecord [Record α] {slot : Slot} {s : σ}
    (h : Backend.hasBucket s slot.bucket = true) (world : Nat → Surroundings) (tick : Nat) :
    (loadRecord slot : Command (Option α)).report world tick s
      = ⟨slot.record s, s, [], tick + 1⟩ := by
  have hview := view_recordIfBucket α slot s
  rw [h, if_pos rfl] at hview
  change (viewed (recordIfBucket α slot) >>= _).report world tick s = _
  rw [report_bind, report_viewed, hview]
  cases (slot.record s : Except Error (Option α)) <;> rfl

/-- A record is read from the slot that holds it, as it was written. -/
theorem report_loadRecord_of_holds [Record α] [LawfulRecord α] {slot : Slot} {a : α} {s : σ}
    (h : slot.Holds a s) (world : Nat → Surroundings) (tick : Nat) :
    (loadRecord slot : Command (Option α)).report world tick s
      = ⟨.ok (some (LawfulRecord.asWritten a)), s, [], tick + 1⟩ := by
  rw [report_loadRecord h.hasBucket, h.record]

/-- Where the bucket of a slot is missing, looking for a record makes it. -/
theorem report_loadRecord_of_not_hasBucket [Record α] {slot : Slot} {s : σ}
    (h : Backend.hasBucket s slot.bucket = false) (world : Nat → Surroundings) (tick : Nat) :
    (loadRecord slot : Command (Option α)).report world tick s
      = ((updated (.perform (.createBucket slot.bucket))).report world (tick + 1) s).andThen
          fun _ tick s => ⟨.ok none, s, [], tick⟩ := by
  have hview := view_recordIfBucket α slot s
  rw [h, if_neg Bool.false_ne_true] at hview
  change (viewed (recordIfBucket α slot) >>= _).report world tick s = _
  rw [report_bind, report_viewed, hview]
  simp only [Report.andThen, report_bind]
  rfl

theorem spares_loadRecord [Record α] (slot slot' : Slot) :
    (loadRecord slot' : Command (Option α)).Spares σ slot := by
  refine .bind (spares_viewed slot _) fun found => ?_
  cases found with
  | some record => exact spares_done slot _
  | none =>
    exact .bind (spares_updated (Transaction.spares_perform rfl)) fun _ => spares_done slot _

/-! ## 3. Writing a record -/

/-- **An update that just writes** does all its writes or none, and its result says which. -/
theorem report_updated_of_justWrites {tx : Transaction Unit} {ops : List StoreOp}
    (h : tx.JustWrites σ ops) (world : Nat → Surroundings) (tick : Nat) (s : σ) :
    (updated tx).report world tick s
      = ⟨(world tick).fault.reply, (tx.update (world tick).fault s).2,
          if (world tick).fault = .none then ops.map .wrote else [], tick + 1⟩ := by
  obtain ⟨hreply, hkept⟩ := h (world tick).fault s
  rw [report_updated, hreply, hkept]
  split <;> rfl

/-- A record is written in full, its bucket first, or not at all. -/
theorem report_storeRecord [LawfulBackend σ] [Record α] (slot : Slot) (a : α)
    (world : Nat → Surroundings) (tick : Nat) (s : σ) :
    ∃ s', (storeRecord slot a).report world tick s
      = ⟨(world tick).fault.reply, s', if (world tick).fault = .none then
          (slot.putting (Record.encode a)).map .wrote else [], tick + 1⟩ :=
  ⟨_, report_updated_of_justWrites (Transaction.justWrites_setBytes slot _) world tick s⟩

theorem report_clearRecoveryPoint (world : Nat → Surroundings) (tick : Nat) (s : σ) :
    ∃ s', clearRecoveryPoint.report world tick s
      = ⟨(world tick).fault.reply, s', if (world tick).fault = .none then
          Slot.recovery.emptying.map .wrote else [], tick + 1⟩ :=
  ⟨_, report_updated_of_justWrites (Transaction.justWrites_emptying .recovery) world tick s⟩

theorem spares_storeRecord [Record α] {slot slot' : Slot} (h : slot' ≠ slot) (a : α) :
    (storeRecord slot' a).Spares σ slot :=
  spares_updated (Slot.spares_setBytes h _)

end Notekeeper.Command
