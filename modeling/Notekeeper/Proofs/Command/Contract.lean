import Notekeeper.Proofs.Command.Parts

/-!
# Contracts

Several results say of all operations, over all runs, that something true of the store stays true,
that an error of some sort is never given, or that a call is never made.  Such a result is a
contract.  It is shown for the parts of operations and carried over to what is made of them.

A contract says three things of a report that began with a store that fulfils it: the store that is
left fulfils it too, an error may be given after the effects in the journal, and every call is among
those allowed.  Which error may be given can depend on the journal, as an error that an editor gave
is fine just where the editor was asked.  To carry this over `>>=` a contract has to allow an error
after more effects whenever it allows it after fewer, because the journal of what follows has the
journal of what came first in front of it (`fails_append`).

What a contract has to allow, for the parts of a client's operations to keep it, is listed once in
`Contract.Allows`: buckets are made, records are put into slots or taken out, records may be
unreadable, updates fail with what the store says, and so on.  From these fields `Allows.part` shows
that every kind of part keeps the contract.  It is the only place that goes through the parts in
detail.  A later module gives a contract and the fields, and has the result for every operation.

* `Contract.Kept.bind` : a contract is kept step by step.
* `Contract.Allows` : what a contract has to allow, for parts to keep it.
* `Contract.Allows.part` : then every part keeps it.
* `Contract.Allows.perform` : and so does every operation.
-/

namespace Notekeeper

variable {σ : Type} [Backend σ] {α β : Type}

/-! ## 1. Entries of a slot

Every write of an operation puts the bytes of a record into a slot or takes them out, and both are
the same to the rest of the store. -/

/-- **Whether a store is another one with a new entry in a slot**, or with none there.  The bucket
of the slot is there in both cases, as it is made before it is written to. -/
structure Slot.Turns (slot : Slot) (entry : Option Bytes) (s s' : σ) : Prop where
  get (b : String) (k : Bytes) : Backend.get s' b k
    = if slot.bucket = b ∧ slot.key = k then entry else Backend.get s b k
  hasBucket (b : String) : Backend.hasBucket s' b = (slot.bucket == b || Backend.hasBucket s b)

namespace Slot

theorem Sets.turns {slot : Slot} {bs : Bytes} {s s' : σ} (h : slot.Sets bs s s') :
    slot.Turns (some bs) s s' :=
  ⟨h.get, h.hasBucket⟩

theorem Turns.held {slot : Slot} {entry : Option Bytes} {s s' : σ} (h : slot.Turns entry s s') :
    slot.held s' = entry := by
  rw [Slot.held, h.get, if_pos ⟨rfl, rfl⟩]

theorem Turns.held_of_ne {slot slot' : Slot} {entry : Option Bytes} {s s' : σ}
    (h : slot.Turns entry s s') (hne : slot' ≠ slot) : slot'.held s' = slot'.held s := by
  rw [Slot.held, h.get, if_neg fun hp => hne (eq_of_place hp.1 hp.2).symm]
  rfl

end Slot

/-! ## 2. Contracts

A contract is kept in a world and from any tick on, so that what follows a command may begin
wherever that ended. -/

/-- **A contract of commands**: what they keep true of the store, which errors they may fail with
once they have done what a journal tells, and which calls they may make.  What may fail after some
effects may do so whatever came before these. -/
structure Contract (σ : Type) where
  holds : σ → Prop
  fails : List Command.Effect → Error → Prop
  calls : RemoteCall → Prop
  fails_append (earlier : List Command.Effect) {journal : List Command.Effect} {e : Error}
    (h : fails journal e) : fails (earlier ++ journal) e

namespace Contract

open Command

/-- Whether a report keeps a contract. -/
structure On (k : Contract σ) (r : Report σ α) : Prop where
  store : k.holds r.store
  error (e : Error) (h : r.result = .error e) : k.fails r.journal e
  called (call : RemoteCall) (answer : Except Error call.Answer)
    (h : .called call answer ∈ r.journal) : k.calls call

/-- **Whether a command keeps a contract**, from every store that fulfils it.  The world is fixed,
since what others answer is often what a contract rests on. -/
def Kept (k : Contract σ) (world : Nat → Surroundings) (c : Command α) : Prop :=
  ∀ (tick : Nat) (s : σ), k.holds s → k.On (c.report world tick s)

variable {k : Contract σ} {world : Nat → Surroundings}

theorem Kept.bind {c : Command α} {f : α → Command β} (h : k.Kept world c)
    (hf : ∀ a, k.Kept world (f a)) : k.Kept world (c >>= f) := by
  intro tick s hs
  have hc := h tick s hs
  rw [report_bind]
  cases hr : c.report world tick s with
  | mk result s' journal tick' =>
    rw [hr] at hc
    cases result with
    | error e => exact ⟨hc.store, fun e' he => hc.error e' (by cases he; rfl), hc.called⟩
    | ok a =>
      have hnext := hf a tick' s' hc.store
      refine ⟨hnext.store, fun e he => k.fails_append journal (hnext.error e he),
        fun call answer hcall => ?_⟩
      rcases List.mem_append.1 hcall with hcall | hcall
      · exact hc.called call answer hcall
      · exact hnext.called call answer hcall

/-- What follows an attempt may rely on its error being one that the command fails with. -/
theorem Kept.attempt_bind {c : Command α} {f : Except Error α → Command β} (h : k.Kept world c)
    (hok : ∀ a, k.Kept world (f (.ok a)))
    (herror : ∀ tick s e, k.holds s → (c.report world tick s).result = .error e →
      k.Kept world (f (.error e))) :
    k.Kept world (c.attempt >>= f) := by
  intro tick s hs
  have hc := h tick s hs
  rw [report_bind, report_attempt]
  have hnext : k.On ((f (c.report world tick s).result).report world (c.report world tick s).tick
      (c.report world tick s).store) := by
    cases hresult : (c.report world tick s).result with
    | ok a => exact hok a _ _ hc.store
    | error e => exact herror tick s e hs hresult _ _ hc.store
  refine ⟨hnext.store, fun e he => k.fails_append _ (hnext.error e he),
    fun call answer hcall => ?_⟩
  rcases List.mem_append.1 hcall with hcall | hcall
  · exact hc.called call answer hcall
  · exact hnext.called call answer hcall

theorem kept_done {r : Except Error α} (h : ∀ e, r = .error e → k.fails [] e) :
    k.Kept world (done r) :=
  fun _ _ hs => ⟨hs, h, fun _ _ hcall => absurd hcall List.not_mem_nil⟩

theorem kept_pure (a : α) : k.Kept world (pure a) := kept_done nofun

theorem kept_viewed {tx : Transaction α}
    (h : ∀ s e, k.holds s → tx.view s = .error e → k.fails [] e) : k.Kept world (viewed tx) :=
  fun _ s hs => ⟨hs, fun e he => h s e hs he, fun _ _ hcall => absurd hcall List.not_mem_nil⟩

theorem kept_now : k.Kept world now := by
  intro tick s hs
  rw [report_now]
  refine ⟨hs, nofun, fun call answer hcall => ?_⟩
  cases List.mem_singleton.1 hcall

theorem kept_updated {tx : Transaction α}
    (hstore : ∀ fault s, k.holds s → k.holds (tx.update fault s).2)
    (herror : ∀ fault s e, k.holds s → (tx.update fault s).1 = .error e → k.fails [] e) :
    k.Kept world (updated tx) := by
  intro tick s hs
  rw [report_updated]
  refine ⟨hstore _ s hs, fun e he => ?_, fun call answer hcall => ?_⟩
  · have hfails := k.fails_append ((tx.kept (world tick).fault s).map .wrote) (herror _ s e hs he)
    rwa [List.append_nil] at hfails
  · obtain ⟨op, -, hop⟩ := List.mem_map.1 hcall
    cases hop

/-- What is made of parts keeps a contract that the parts keep. -/
theorem kept_madeOf {client : Client} {slots : List Slot} {c : Command α}
    (h : MadeOf client slots c)
    (hpart : ∀ {β : Type} {c : Command β}, Part client slots c → k.Kept world c) :
    k.Kept world c := by
  induction h with
  | part hc => exact hpart hc
  | bind _ _ ih ihf => exact ih.bind ihf

/-! ## 3. What parts keep

From here on a contract is fixed, together with a proof of what it has to allow.  Each lemma is
about one kind of part, and all of them are put together at the end. -/

/-- **What a contract has to allow**, for the parts of a client's operations to keep it.  Each field
is something that a part may do to the store, fail with, or call. -/
structure Allows (k : Contract σ) (world : Nat → Surroundings) (client : Client)
    (slots : List Slot) : Prop where
  /-- Buckets of records are made. -/
  bucket (kind : RecordKind) (s : σ) (h : k.holds s) :
    k.holds (Backend.createBucket s kind.slot.bucket)
  /-- Records are put into the slots, or taken out. -/
  entry (kind : RecordKind) (v : Option kind.Value) (s s' : σ) (hslot : kind.slot ∈ slots)
    (hturns : kind.slot.Turns (v.map Record.encode) s s') (h : k.holds s) : k.holds s'
  /-- Records may be unreadable. -/
  unreadable (kind : RecordKind) (s : σ) (e : Error) (h : k.holds s)
    (he : (kind.slot.record s : Except Error (Option kind.Value)) = .error e) : k.fails [] e
  fault (fault : WriteFault) (e : Error) (h : fault.reply = .error e) : k.fails [] e
  raised (e : Error) (h : Raised e) : k.fails [] e
  remote (tick : Nat) (call : RemoteCall) (e : Error) (h : (world tick).remote call = .error e) :
    k.fails [] e
  /-- The editor fails at a text that it is shown. -/
  editor (tick : Nat) (text : String) (e : Error) (h : (world tick).editor text = .error e) :
    k.fails [.edited text (.error e)] e
  /-- The codec fails at what is in the envelope of a note. -/
  content (guid content body : String) (e : Error) (hunwrap : Envelope.unwrap content = .ok body)
    (h : client.codec.toMarkdown body = .error e) :
    k.fails [.called (.noteContent guid) (.ok content)] e
  /-- An edit may neither be sent nor kept. -/
  lost (tick : Nat) (call : RemoteCall) (fault : WriteFault) (save recovery : Error)
    (hsave : (world tick).remote call = .error save) (hrecovery : fault.reply = .error recovery) :
    k.fails [] (.recoveryFailed save recovery)
  /-- Notebooks are listed only to be cached. -/
  call (call : RemoteCall) (h : call = .allNotebooks → .notebooks ∈ slots) : k.calls call

namespace Allows

variable {client : Client} {slots : List Slot} (h : k.Allows world client slots)

include h

theorem justWrites {tx : Transaction Unit} {ops : List StoreOp} (hwrites : tx.JustWrites σ ops)
    (hstore : ∀ s, k.holds s → k.holds (tx.update .none s).2) : k.Kept world (updated tx) := by
  refine kept_updated (fun fault s hs => ?_) fun fault s e _ he => ?_
  · have hreply := (hwrites fault s).1
    cases fault with
    | none => exact hstore s hs
    | locked => rwa [Transaction.update_of_error hreply]
    | refused => rwa [Transaction.update_of_error hreply]
  · rw [(hwrites fault s).1] at he
    exact h.fault fault e he

theorem asked (call : RemoteCall) (hcall : call = .allNotebooks → .notebooks ∈ slots) :
    k.Kept world (asked call) := by
  intro tick s hs
  rw [report_asked]
  refine ⟨hs, fun e he => k.fails_append [_] (h.remote tick call e he),
    fun call' answer hcall' => ?_⟩
  cases List.mem_singleton.1 hcall'
  exact h.call call hcall

theorem edited (text : String) : k.Kept world (edited text) := by
  intro tick s hs
  rw [report_edited]
  refine ⟨hs, fun e he => ?_, fun call answer hcall => ?_⟩
  · have hfails : (world tick).editor text = .error e := he
    rw [hfails]
    exact h.editor tick text e hfails
  · cases List.mem_singleton.1 hcall

theorem contentOf (guid : String) : k.Kept world (contentOf client.codec guid) := by
  intro tick s hs
  rw [report_contentOf]
  refine ⟨hs, fun e he => ?_, fun call answer hcall => ?_⟩
  · -- The call fails, the content is not in an envelope, or the codec fails at the body.
    cases hanswer : (world tick).remote (.noteContent guid) with
    | error e' =>
      rw [hanswer] at he
      cases he
      exact k.fails_append [_] (h.remote tick _ e hanswer)
    | ok content =>
      rw [hanswer] at he
      cases hunwrap : Envelope.unwrap content with
      | error e' =>
        simp only [Except.bind, hunwrap] at he
        cases he
        exact k.fails_append [_] (h.raised e (raised_of_unwrap hunwrap))
      | ok body =>
        simp only [Except.bind, hunwrap] at he
        cases hmd : client.codec.toMarkdown body with
        | error e' =>
          rw [hmd] at he
          cases he
          exact h.content guid content body e hunwrap hmd
        | ok md =>
          rw [hmd] at he
          cases he
  · cases List.mem_singleton.1 hcall
    exact h.call _ nofun

theorem load (kind : RecordKind) :
    k.Kept world (loadRecord kind.slot : Command (Option kind.Value)) := by
  intro tick s hs
  cases hbucket : Backend.hasBucket s kind.slot.bucket with
  | true =>
    rw [report_loadRecord hbucket]
    exact ⟨hs, fun e he => h.unreadable kind s e hs he, fun _ _ hcall =>
      absurd hcall List.not_mem_nil⟩
  | false =>
    have hmade : k.Kept world (updated (.perform (.createBucket kind.slot.bucket))) :=
      h.justWrites (Transaction.justWrites_createBucket _) fun s hs => h.bucket kind s hs
    have hall := hmade.bind (fun _ => kept_pure (none : Option kind.Value)) (tick + 1) s hs
    rw [report_bind] at hall
    rwa [report_loadRecord_of_not_hasBucket hbucket]

variable [LawfulBackend σ]

theorem store (kind : RecordKind) (v : kind.Value) (hslot : kind.slot ∈ slots) :
    k.Kept world (storeRecord kind.slot v) := by
  refine h.justWrites (Transaction.justWrites_setBytes _ _) fun s hs => ?_
  obtain ⟨s', hupdate, hsets⟩ := kind.slot.exists_update_store v s
  rw [hupdate]
  exact h.entry kind (some v) s s' hslot hsets.turns hs

theorem clear (hslot : .recovery ∈ slots) : k.Kept world clearRecoveryPoint := by
  refine h.justWrites (Transaction.justWrites_emptying .recovery) fun s hs => ?_
  refine h.entry .recovery none s _ hslot ⟨fun b key => ?_, fun b => ?_⟩ hs
  · change Backend.get (Backend.delete (Backend.createBucket s _) _ _) b key = _
    rw [LawfulBackend.get_delete, LawfulBackend.get_createBucket]
    rfl
  · change Backend.hasBucket (Backend.delete (Backend.createBucket s _) _ _) b = _
    rw [LawfulBackend.hasBucket_delete, LawfulBackend.hasBucket_createBucket]
    rfl

omit [LawfulBackend σ] in
/-- A credential list that cannot be read is one of the contract's. -/
theorem stored {s : σ} {e : Error} (hs : k.holds s) (he : CredentialList.stored s = .error e) :
    k.fails [] e := by
  refine h.unreadable .credentials s e hs ?_
  unfold CredentialList.stored at he
  cases hrecord : (Slot.credentials.record s : Except Error (Option (List Credential))) with
  | error e' =>
    rw [hrecord] at he
    exact hrecord.trans (congrArg Except.error (Except.error.inj he))
  | ok found =>
    rw [hrecord] at he
    cases he

omit [LawfulBackend σ] in
theorem credentials : k.Kept world credentials := by
  refine kept_viewed fun s e hs he => ?_
  rw [Transaction.view, run_loadCredentials] at he
  exact h.stored hs he

theorem change {change : List Credential → Except Error (α × List Credential)}
    (hraise : ∀ cs e, change cs = .error e → Raised e) (hslot : .credentials ∈ slots) :
    k.Kept world (changeCredentials change) := by
  refine kept_updated (fun fault s hs => ?_) fun fault s e hs he => ?_
  · cases hresult : ((changing change).update fault s).1 with
    | error e =>
      have hsame : ((changing change).update fault s).2 = s :=
        Transaction.update_of_error hresult
      exact hsame.symm ▸ hs
    | ok a =>
      obtain ⟨cs, left, -, -, hsets⟩ := sets_of_changing hresult
      exact h.entry .credentials (some left) s _ hslot hsets.turns hs
  · have hreply : fault.replyTo ((foundBy change s).map (·.1)) = .error e :=
      (result_changing fault s).symm.trans he
    rcases WriteFault.of_replyTo_eq_error hreply with hfault | hfound
    · exact h.fault fault e hfault
    · unfold foundBy at hfound
      cases hstored : CredentialList.stored s with
      | error e' =>
        rw [hstored] at hfound
        exact Except.error.inj hfound ▸ h.stored hs hstored
      | ok cs =>
        rw [hstored] at hfound
        cases hchange : change cs with
        | error e' =>
          simp only [Except.bind, hchange, Except.map] at hfound
          exact Except.error.inj hfound ▸ h.raised e' (hraise cs e' hchange)
        | ok found =>
          simp only [Except.bind, hchange, Except.map] at hfound
          cases hfound

theorem list (forceSync : Bool) (hslot : .notebooks ∈ slots) :
    k.Kept world (notebooks client.config forceSync) := by
  rw [notebooks_eq]
  refine (h.load .notebooks).bind fun cached => ?_
  have husable : k.Kept world (isUsable forceSync (cached.getD .empty)) := by
    unfold isUsable
    split
    · exact kept_pure _
    · exact kept_now.bind fun time => kept_pure _
  refine husable.bind fun usable => ?_
  split
  · exact kept_pure _
  · refine (h.asked .allNotebooks fun _ => hslot).bind fun answer => kept_now.bind fun time => ?_
    exact (h.store .notebooks _ hslot).bind fun _ => kept_pure _

theorem patch (name : String) (nb : Notebook) (hslot : .notebooks ∈ slots) :
    k.Kept world (sendPatched name nb) := by
  refine (h.asked (.updateNotebook nb) nofun).bind fun _ => ?_
  refine (h.load .notebooks).bind fun cached => ?_
  dsimp only
  split
  · split
    · exact (h.store .notebooks _ hslot).bind fun _ => kept_pure _
    · exact kept_pure _
  · exact kept_pure _

theorem save (note : Note) (raw : Bool) (hslot : .recovery ∈ slots) :
    k.Kept world (saveChanges client.codec note raw) := by
  let call := RemoteCall.updateNote (outgoing (rendered client.codec note raw))
  refine (h.asked call nofun).attempt_bind (fun _ => kept_pure _) fun tick _ save _ hsave => ?_
  have hsent : (world tick).remote call = .error save := hsave
  refine (h.store .recovery _ hslot).attempt_bind (fun _ => ?_)
    fun tick' s' recovery _ hstored => ?_
  · exact kept_done fun e he => Except.error.inj he ▸ h.remote tick call save hsent
  · have hreply : (world tick').fault.reply = .error recovery := by
      rw [storeRecord, report_updated] at hstored
      exact (Transaction.justWrites_setBytes _ _ _ s').1.symm.trans hstored
    exact kept_done fun e he => Except.error.inj he ▸ h.lost tick call _ save recovery hsent hreply

/-- **Every part keeps the contract.**  There is one case for each kind of part, and the lemmas
above are these cases. -/
theorem part {c : Command α} (hc : Part client slots c) : k.Kept world c := by
  cases hc with
  | result hr => exact kept_done fun e he => h.raised e (hr e he)
  | asked hcall => exact h.asked _ fun he => absurd he hcall
  | content guid => exact h.contentOf guid
  | edited text => exact h.edited text
  | load kind => exact h.load kind
  | store kind v hslot _ => exact h.store kind v hslot
  | credentials => exact h.credentials
  | change hraise hslot => exact h.change hraise hslot
  | list forceSync hslot => exact h.list forceSync hslot
  | patch name nb hslot => exact h.patch name nb hslot
  | save note raw hslot => exact h.save note raw hslot
  | clear hslot => exact h.clear hslot

/-- **Every operation keeps the contract**, which allows its slots to change. -/
theorem perform {op : Operation} (hslots : op.slots = slots) :
    k.Kept world (client.perform op) :=
  kept_madeOf (hslots ▸ client.madeOf_perform op) h.part

end Allows

end Contract
end Notekeeper
