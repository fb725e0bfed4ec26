import Notekeeper.Proofs.Command.Conduct
import Notekeeper.Proofs.Command.Contract
import Notekeeper.Proofs.History
import Notekeeper.Proofs.Store.Schema

/-!
# Records that cannot be read

The cached notebook list or the credential list may be bytes that are no such record.  They are
never taken for a missing one, and nothing is ever written over them.  An operation that needs the
record says which one it cannot read, and until then has changed nothing at the remote service.

That the bytes stay is a contract (`Garbled.contract`).  A part whose slots do not include the
record leaves it alone because of its footprint.  A part that would write the record reads it first,
meets the bytes and stops there, with nothing done: this is what `StopsAt` says, and it is the only
way in which a write of these two records is kept off.  It is shown for reading, for listing, for
changing a credential and for patching the cached list, and then holds of every part.

That the operation says so is shown by following it up to the record.  `Client.approach` is the
beginning of an operation, up to the point at which it either reads the record or is done without
it.  If the beginning comes to the record, the operation ends in the error about it; if it fails,
the operation fails with the same error; and in neither case has it done more than look.  Where an
update has to begin before it reads, the store may refuse the update first, and then that error is
given.

Openings leave the bytes alone as well.  No upgrade writes notebooks, and the one that would write
credentials reads them first.  So the whole holds over every history.

* `Command.StopsAt` : commands that stop at a record that cannot be read.
* `Client.approach` : what an operation does before it reads the record, and whether it reads it.
* `Client.approached_perform` : every operation ends as its way to the record tells.
* `RecordKind.staysGarbled_of_garbled` : such a store over any history.
-/

namespace Notekeeper

open Command

variable {σ : Type} [Backend σ] {α β : Type} {kind : RecordKind} {bs : Bytes}

/-! ## 1. Garbled stores -/

namespace RecordKind

/-- **Whether a store holds bytes in place of a record** that are no such record.  The bytes are
named, so that it can be said of a later store that they are the same. -/
structure Garbled (kind : RecordKind) (bs : Bytes) (s : σ) : Prop where
  hasBucket : Backend.hasBucket s kind.slot.bucket = true
  held : kind.slot.held s = some bs
  undecodable : (Record.decode? bs : Option kind.Value) = none

/-- The error about a record that cannot be read. -/
def unreadable (kind : RecordKind) : Error := kind.slot.corrupt "not a record of this kind"

theorem Garbled.record {s : σ} (h : kind.Garbled bs s) :
    (kind.slot.record s : Except Error (Option kind.Value)) = .error kind.unreadable := by
  rw [Slot.record, h.held]
  simp only [Slot.decode, h.undecodable]
  rfl

/-- A store with the same bytes in the slot is as garbled. -/
theorem Garbled.of_held {s s' : σ} (h : kind.Garbled bs s)
    (hbucket : Backend.hasBucket s' kind.slot.bucket = true)
    (hheld : kind.slot.held s' = kind.slot.held s) : kind.Garbled bs s' :=
  ⟨hbucket, hheld.trans h.held, h.undecodable⟩

theorem Garbled.stored {s : σ} (h : credentials.Garbled bs s) :
    CredentialList.stored s = .error credentials.unreadable := by
  have hrecord : (Slot.credentials.record s : Except Error (Option (List Credential)))
      = .error credentials.unreadable := h.record
  rw [CredentialList.stored, hrecord]
  rfl

end RecordKind

/-! ## 2. Commands that stop at the record

Stopping is an equation on reports: nothing was done, and the error is the one about the record.  So
whatever was to follow is not reached. -/

namespace Command

/-- **Whether a command stops at a record that cannot be read**, with nothing done before and
nothing done after. -/
def StopsAt (σ : Type) [Backend σ] (kind : RecordKind) (bs : Bytes) (c : Command α) : Prop :=
  ∀ (world : Nat → Surroundings) (tick : Nat) (s : σ), kind.Garbled bs s →
    c.report world tick s = ⟨.error kind.unreadable, s, [], tick + 1⟩

theorem StopsAt.bind {c : Command α} (h : c.StopsAt σ kind bs) (f : α → Command β) :
    (c >>= f).StopsAt σ kind bs := by
  intro world tick s hs
  rw [report_bind, h world tick s hs]
  rfl

theorem stopsAt_loadRecord (kind : RecordKind) :
    (loadRecord kind.slot : Command (Option kind.Value)).StopsAt σ kind bs := by
  intro world tick s hs
  rw [report_loadRecord hs.hasBucket, hs.record]

theorem stopsAt_notebooks (config : Config) (forceSync : Bool) :
    (notebooks config forceSync).StopsAt σ .notebooks bs := by
  rw [notebooks_eq]
  exact (stopsAt_loadRecord .notebooks).bind _

theorem stopsAt_findNotebook (config : Config) (name : String) :
    (findNotebook config name).StopsAt σ .notebooks bs :=
  (stopsAt_notebooks config false).bind _

theorem stopsAt_credentials : credentials.StopsAt σ .credentials bs := by
  intro world tick s hs
  unfold credentials
  rw [report_viewed, Transaction.view, run_loadCredentials, hs.stored]

/-- A change of credentials that cannot be read does nothing, whether it can begin or not. -/
theorem report_changeCredentials_of_garbled {s : σ} (h : RecordKind.credentials.Garbled bs s)
    (change : List Credential → Except Error (α × List Credential))
    (world : Nat → Surroundings) (tick : Nat) :
    (changeCredentials change).report world tick s
      = ⟨if (world tick).fault = .locked then .error WriteFault.lockedError
          else .error RecordKind.credentials.unreadable, s, [], tick + 1⟩ := by
  have hrun : (changing change).run (world tick).fault s
      = (.error RecordKind.credentials.unreadable, s) := by
    rw [run_changing, foundBy, h.stored]
    rfl
  have hupdate : (changing change).update (world tick).fault s
      = (if (world tick).fault = .locked then .error WriteFault.lockedError
          else .error RecordKind.credentials.unreadable, s) := by
    rw [Transaction.update, hrun]
    split <;> rfl
  have hkept : (changing change).kept (world tick).fault s = [] := by
    rw [Transaction.kept, hupdate, if_neg]
    split <;> simp [Except.isOk, Except.toBool]
  rw [changeCredentials_eq, report_updated, hupdate, hkept]
  rfl

end Command

/-! ## 3. Garbled records stay

The contract is about one record and its bytes.  For a part that may not write the record it is a
matter of the footprint, and for one that may, of stopping. -/

namespace RecordKind

/-- The contract to leave a garbled record alone, and not to list notebooks in place of one. -/
def Garbled.contract (kind : RecordKind) (bs : Bytes) : Contract σ where
  holds := kind.Garbled bs
  fails _ _ := True
  calls call := kind = .notebooks → call ≠ .allNotebooks
  fails_append _ _ _ _ := trivial

end RecordKind

namespace Command

theorem StopsAt.kept {c : Command α} (h : c.StopsAt σ kind bs) (world : Nat → Surroundings) :
    (RecordKind.Garbled.contract (σ := σ) kind bs).Kept world c := by
  intro tick s hs
  rw [h world tick s hs]
  exact ⟨hs, fun _ _ => trivial, fun _ _ hcall => absurd hcall List.not_mem_nil⟩

end Command

namespace RecordKind

open Contract

variable [LawfulBackend σ] {client : Client} {slots : List Slot}

/-- Parts that may not change the record leave it alone. -/
theorem Garbled.allows (hslots : kind.slot ∉ slots) (world : Nat → Surroundings)
    (client : Client) : (Garbled.contract (σ := σ) kind bs).Allows world client slots where
  bucket kind' s h := h.of_held
    (by rw [LawfulBackend.hasBucket_createBucket, h.hasBucket, Bool.or_true])
    (Slot.held_createBucket _ s _)
  entry kind' v s s' hslot hturns h := h.of_held
    (by rw [hturns.hasBucket, h.hasBucket, Bool.or_true])
    (hturns.held_of_ne fun he => hslots (he ▸ hslot))
  unreadable _ _ _ _ _ := trivial
  fault _ _ _ := trivial
  raised _ _ := trivial
  remote _ _ _ _ := trivial
  editor _ _ _ _ := trivial
  content _ _ _ _ _ _ := trivial
  lost _ _ _ _ _ _ _ := trivial
  call call hcall hkind he := hslots (hkind ▸ hcall he)

/-- **Every part leaves a garbled record alone**: those that would change it stop at reading it. -/
theorem Garbled.kept_part (hkind : kind = .notebooks ∨ kind = .credentials) {c : Command α}
    (hc : Part client slots c) (world : Nat → Surroundings) :
    (Garbled.contract (σ := σ) kind bs).Kept world c := by
  have hothers : (Garbled.contract (σ := σ) kind bs).Allows world client
      (slots.filter (· ≠ kind.slot)) := Garbled.allows (by simp) world client
  have hmem {slot : Slot} (h : slot ∈ slots) (hne : slot ≠ kind.slot) :
      slot ∈ slots.filter (· ≠ kind.slot) := by simp [h, hne]
  cases hc with
  | result hr => exact hothers.part (.result hr)
  | asked hcall => exact hothers.part (.asked hcall)
  | content guid => exact hothers.contentOf guid
  | edited text => exact hothers.edited text
  | load kind' => exact hothers.load kind'
  | store kind' v hslot hstored =>
    refine hothers.store kind' v (hmem hslot ?_)
    rcases hkind with rfl | rfl <;> rcases hstored with rfl | rfl <;> decide
  | credentials => exact hothers.credentials
  | change hraise hslot =>
    rcases hkind with rfl | rfl
    · exact hothers.change hraise (hmem hslot (by decide))
    · intro tick s hs
      rw [report_changeCredentials_of_garbled hs]
      exact ⟨hs, fun _ _ => trivial, fun _ _ hcall => absurd hcall List.not_mem_nil⟩
  | list forceSync hslot =>
    rcases hkind with rfl | rfl
    · exact (stopsAt_notebooks client.config forceSync).kept world
    · exact hothers.list forceSync (hmem hslot (by decide))
  | patch name nb hslot =>
    rcases hkind with rfl | rfl
    · refine (hothers.asked (.updateNotebook nb) nofun).bind fun _ => ?_
      exact ((stopsAt_loadRecord .notebooks).bind _).kept world
    · exact hothers.patch name nb (hmem hslot (by decide))
  | save note raw hslot =>
    exact hothers.save note raw (hmem hslot (by rcases hkind with rfl | rfl <;> decide))
  | clear hslot => exact hothers.clear (hmem hslot (by rcases hkind with rfl | rfl <;> decide))

/-- What is made of parts leaves a garbled record alone. -/
theorem Garbled.kept_madeOf (hkind : kind = .notebooks ∨ kind = .credentials) {c : Command α}
    (hc : MadeOf client slots c) (world : Nat → Surroundings) :
    (Garbled.contract (σ := σ) kind bs).Kept world c :=
  Contract.kept_madeOf hc fun hpart => Garbled.kept_part hkind hpart world

end RecordKind

/-! ## 4. The way to the record

The way is a command of its own, made of the beginning of the operation.  It answers whether the
operation reads the record next, and its errors are those that the operation fails with before. -/

/-- An update that begins. -/
def Command.beginning : Command Bool := do
  updated (pure ())
  pure true

/-- **What an operation does before it reads the notebook list or the credential list**, and whether
it reads it then. -/
def Client.approach (client : Client) : RecordKind → Operation → Command Bool
  | .notebooks, .notebooks _ | .notebooks, .findNotebook _ | .notebooks, .updateNotebook _ _ =>
    pure true
  | .notebooks, .moveNote title _ => do
    let _ ← note client.config title none
    pure true
  | .notebooks, .note title within | .notebooks, .deleteNote title within =>
    if within.filter (· ≠ "") = none then pure false
    else return (← noteByOrdinal title).isNone
  | .credentials, .credentials => pure true
  | .credentials, .addCredential _ _ | .credentials, .removeCredentialNamed _ => beginning
  | .credentials, .removeCredentials places => do
    let _ ← done (places.mapM storeIndex)
    beginning
  | .credentials, .setActiveCredential place => do
    let _ ← done (storeIndex place)
    pure true
  | _, _ => pure false

/-- **How an operation ends that is on its way to a record that cannot be read.**  The way either
comes to the record, or fails before, or does not lead there. -/
structure Approached (kind : RecordKind) (way : Report σ Bool) (r : Report σ α) : Prop where
  /-- If it comes to the record, it says that this cannot be read. -/
  stopped (h : way.result = .ok true) : r.result = .error kind.unreadable
  /-- If it fails before, it fails with that error. -/
  failed (e : Error) (h : way.result = .error e) : r.result = .error e
  /-- In neither case has it changed anything at the remote service, or asked for notebooks. -/
  calls (h : way.result ≠ .ok false) (call : RemoteCall) (answer : Except Error call.Answer)
    (hcall : .called call answer ∈ r.journal) : call.isWrite = false ∧ call ≠ .allNotebooks

namespace Approached

theorem calls_of_looks {call : RemoteCall} {answer : Except Error call.Answer}
    (h : Effect.Looks (.called call answer)) : call.isWrite = false ∧ call ≠ .allNotebooks := by
  cases call <;> simp_all [Effect.Looks, RemoteCall.name, RemoteCall.isWrite]

omit [Backend σ] in
/-- What follows on the record does not matter. -/
theorem andThen {way : Report σ Bool} {r : Report σ α} (h : Approached kind way r)
    (next : α → Nat → σ → Report σ β) : Approached kind way (r.andThen next) := by
  obtain ⟨result, s, journal, tick⟩ := r
  cases result with
  | error e =>
    exact ⟨fun hway => congrArg Except.error (Except.error.inj (h.stopped hway)),
      fun e' hway => congrArg Except.error (Except.error.inj (h.failed e' hway)), h.calls⟩
  | ok a =>
    refine ⟨fun hway => absurd (h.stopped hway) nofun,
      fun e hway => absurd (h.failed e hway) nofun, fun hway => ?_⟩
    -- It went well, so that it was not on its way there.
    cases hresult : way.result with
    | error e => exact absurd (h.failed e hresult) nofun
    | ok reads =>
      cases reads with
      | true => exact absurd (h.stopped hresult) nofun
      | false => exact absurd hresult hway

section Ways

variable {world : Nat → Surroundings} {tick : Nat} {s : σ}

theorem of_idle (r : Report σ α) :
    Approached kind ((pure false : Command Bool).report world tick s) r :=
  ⟨nofun, nofun, fun h => absurd rfl h⟩

theorem of_stopsAt {c : Command α} (hs : kind.Garbled bs s) (h : c.StopsAt σ kind bs) :
    Approached kind ((pure true : Command Bool).report world tick s) (c.report world tick s) := by
  rw [h world tick s hs]
  exact ⟨fun _ => rfl, nofun, fun _ _ _ hcall => absurd hcall List.not_mem_nil⟩

/-- A command that only looks, and then stops at the record where it needs it. -/
theorem of_bind {c : Command β} {f : β → Command α} (needs : β → Bool) (hs : kind.Garbled bs s)
    (hlooks : c.KeepsTo σ Effect.Looks)
    (hkept : (RecordKind.Garbled.contract (σ := σ) kind bs).Kept world c)
    (hf : ∀ b, needs b = true → (f b).StopsAt σ kind bs) :
    Approached kind ((c >>= fun b => pure (needs b)).report world tick s)
      ((c >>= f).report world tick s) := by
  have hcalls := hlooks world tick s
  have hstore := (hkept tick s hs).store
  rw [report_bind, report_bind]
  cases hr : c.report world tick s with
  | mk result s' journal tick' =>
    rw [hr] at hcalls hstore
    cases result with
    | error e =>
      exact ⟨nofun, fun e' he => congrArg Except.error (Except.error.inj he),
        fun _ _ _ hcall => calls_of_looks (hcalls _ hcall)⟩
    | ok b =>
      have hway : (Report.andThen (⟨.ok b, s', journal, tick'⟩ : Report σ β) fun b tick s =>
          (pure (needs b) : Command Bool).report world tick s).result = .ok (needs b) := rfl
      cases hneeds : needs b with
      | false =>
        rw [hneeds] at hway
        exact ⟨fun h => absurd (hway.symm.trans h) nofun,
          fun e h => absurd (hway.symm.trans h) nofun, fun h => absurd hway h⟩
      | true =>
        have hstop := hf b hneeds world tick' s' hstore
        refine ⟨fun _ => ?_, fun e h => absurd (hway.symm.trans h) nofun,
          fun _ call answer hcall => ?_⟩
        · simp only [Report.andThen, hstop]
          rfl
        · simp only [Report.andThen, hstop, Report.after, List.append_nil] at hcall
          exact calls_of_looks (hcalls _ hcall)

theorem of_change (hs : RecordKind.credentials.Garbled bs s)
    (change : List Credential → Except Error (α × List Credential)) :
    Approached .credentials (beginning.report world tick s)
      ((changeCredentials change).report world tick s) := by
  have hbegin : beginning.report world tick s = ⟨if (world tick).fault = .locked
      then .error WriteFault.lockedError else .ok true, s, [], tick + 1⟩ := by
    unfold beginning
    rw [report_bind, report_updated]
    cases (world tick).fault <;> rfl
  rw [hbegin, report_changeCredentials_of_garbled hs]
  by_cases hlocked : (world tick).fault = .locked
  · simp only [hlocked, if_true]
    exact ⟨nofun, fun e he => congrArg Except.error (Except.error.inj he),
      fun _ _ _ hcall => absurd hcall List.not_mem_nil⟩
  · simp only [hlocked, if_false]
    exact ⟨fun _ => rfl, nofun, fun _ _ _ hcall => absurd hcall List.not_mem_nil⟩

/-- Where the way begins with something that is settled already. -/
theorem of_done_bind {r : Except Error β} {way : β → Command Bool} {f : β → Command α}
    (h : ∀ b, r = .ok b → Approached kind ((way b).report world tick s)
      ((f b).report world tick s)) : Approached kind ((done r >>= way).report world tick s)
      ((done r >>= f).report world tick s) := by
  cases r with
  | ok b => exact h b rfl
  | error e =>
    exact ⟨nofun, fun e' he => congrArg Except.error (Except.error.inj he),
      fun _ _ _ hcall => absurd hcall List.not_mem_nil⟩

end Ways

end Approached

/-! ## 5. Operations -/

namespace Client

variable [LawfulBackend σ] {world : Nat → Surroundings} {tick : Nat} {s : σ}

theorem approached_note (client : Client) (hs : RecordKind.notebooks.Garbled bs s) (title : String)
    (within : Option String) :
    Approached .notebooks ((client.approach .notebooks (.note title within)).report world tick s)
      ((note client.config title within).report world tick s) := by
  simp only [approach]
  split
  · exact .of_idle _
  · next hwithin =>
    have hmade : MadeOf client [] (noteByOrdinal title) := madeOf_noteByOrdinal title
    refine .of_bind Option.isNone hs (keepsTo_noteByOrdinal trivial title)
      (RecordKind.Garbled.kept_madeOf (.inl rfl) hmade world) ?_
    intro found hfound
    cases found with
    | some note => cases hfound
    | none =>
      change (noteByTitle client.config title within).StopsAt σ .notebooks bs
      rw [noteByTitle_eq]
      refine StopsAt.bind ?_ _
      unfold narrowing
      split
      · exact (stopsAt_findNotebook client.config _).bind _
      · next hnone => exact absurd hnone hwithin

omit [LawfulBackend σ] in
theorem approached_removeCredentials (hs : RecordKind.credentials.Garbled bs s)
    (client : Client) (places : List Int64) : Approached .credentials
      ((client.approach .credentials (.removeCredentials places)).report world tick s)
      ((removeCredentials places).report world tick s) := by
  unfold removeCredentials
  split
  · next place =>
    have hway : client.approach .credentials (.removeCredentials [place])
        = done (storeIndex place) >>= fun _ => beginning := by
      simp only [approach, List.mapM_cons, List.mapM_nil]
      cases storeIndex place <;> rfl
    have hplace : Approached .credentials
        ((done (storeIndex place) >>= fun _ => beginning).report world tick s)
        ((removePlace place).report world tick s) :=
      .of_done_bind fun index _ => .of_change hs _
    have hremove := report_bind world (removePlace place) (fun c => pure [c]) tick s
    rw [hway, hremove]
    exact hplace.andThen _
  · exact .of_done_bind fun indices _ => .of_change hs _

/-- **An operation that needs a record which cannot be read** ends on its way there. -/
theorem approached_perform (client : Client) (op : Operation)
    (hkind : kind = .notebooks ∨ kind = .credentials) (hs : kind.Garbled bs s) :
    Approached kind ((client.approach kind op).report world tick s)
      ((client.perform op).report world tick s) := by
  rcases hkind with rfl | rfl
  · cases op with
    | notebooks forceSync => exact .of_stopsAt hs (stopsAt_notebooks _ _)
    | findNotebook name => exact .of_stopsAt hs (stopsAt_findNotebook _ _)
    | updateNotebook name patch => exact .of_stopsAt hs ((stopsAt_findNotebook _ _).bind _)
    | moveNote title notebook =>
      have hmade : MadeOf client [] (note client.config title none) :=
        madeOf_note title (.inl rfl)
      refine .of_bind (fun _ => true) hs (keepsTo_note _ _)
        (RecordKind.Garbled.kept_madeOf (.inl rfl) hmade world) fun found _ => ?_
      exact (stopsAt_findNotebook _ _).bind _
    | note title within => exact approached_note client hs title within
    | deleteNote title within =>
      simp only [perform, deleteNote, report_bind]
      exact (approached_note client hs title within).andThen _
    | _ => exact .of_idle _
  · cases op with
    | credentials => exact .of_stopsAt hs stopsAt_credentials
    | addCredential name secret => exact .of_change hs _
    | removeCredentialNamed name => exact .of_change hs _
    | removeCredentials places => exact approached_removeCredentials hs client places
    | setActiveCredential place =>
      refine .of_done_bind fun index _ => .of_stopsAt hs ?_
      exact (stopsAt_credentials.bind _).bind _
    | _ => exact .of_idle _

end Client

/-! ## 6. Histories -/

section Histories

variable [LawfulBackend σ] {world : Nat → Surroundings}

/-- The command that opens a store opens it as a whole, or not at all. -/
theorem Schema.opens_upgradeStore (world : Nat → Surroundings) (tick : Nat) (s : σ) :
    Opens (world (tick + 1)).fault.mishaps s (upgradeStore.report world tick s).result
      (upgradeStore.report world tick s).store := by
  have hrun := run_upgradeStore world tick s
  rw [run_eq_report] at hrun
  have hopens := opens_openAmid (world (tick + 1)).fault.mishaps s
  rw [← hrun] at hopens
  exact hopens

namespace RecordKind

/-- An opening leaves a garbled record alone: no upgrade writes notebooks, and one that would write
credentials reads them first. -/
theorem Garbled.opening (hkind : kind = .notebooks ∨ kind = .credentials) {s : σ}
    (hs : kind.Garbled bs s) (tick : Nat) :
    kind.Garbled bs (upgradeStore.report world tick s).store := by
  refine hs.of_held (hasBucket_report world _ tick hs.hasBucket) ?_
  rcases hkind with rfl | rfl
  · exact (spares_upgradeStore (by decide) (by decide)).held world tick s
  · have hnotDue : ∀ key cs, ¬ Schema.KeyDue s key cs := fun key cs hdue =>
      absurd (hs.stored.symm.trans hdue.stored) nofun
    have hopens := Schema.opens_upgradeStore world tick s
    by_cases hhindered : Schema.Hindered (world (tick + 1)).fault.mishaps s
    · rw [(hopens.hindered hhindered).2]
    · cases hv : Schema.versionOf s with
      | error e => exact absurd (.version hv) hhindered
      | ok v =>
        by_cases hzero : v = 0
        · subst hzero
          exact (hopens.upgraded hv hhindered).2.spared hnotDue
        · rw [(hopens.upToDate v hv hzero).2]

omit [LawfulBackend σ] in
/-- No part of an opening calls the remote service. -/
theorem not_called_upgradeStore (tick : Nat) (s : σ) (call : RemoteCall)
    (answer : Except Error call.Answer) :
    .called call answer ∉ (upgradeStore.report world tick s).journal := by
  have hquiet : upgradeStore.KeepsTo σ fun effect => effect ≠ .called call answer := by
    refine (keepsTo_viewed _).bind fun found => ?_
    split
    · exact keepsTo_done _
    · exact keepsTo_updated fun _ _ _ _ => nofun
  exact fun h => hquiet world tick s _ h rfl

/-- **Every moment leaves a garbled record alone**, and lists no notebooks in place of one. -/
theorem Garbled.moment (hkind : kind = .notebooks ∨ kind = .credentials) {m : Moment σ}
    (hs : kind.Garbled bs m.store) : kind.Garbled bs (m.report world).store
      ∧ (kind = .notebooks → ∀ answer,
        .called .allNotebooks answer ∉ (m.report world).journal) := by
  obtain ⟨step, tick, s⟩ := m
  cases step with
  | opening => exact ⟨hs.opening hkind tick, fun _ => not_called_upgradeStore tick s _⟩
  | operation client op =>
    have hon := Garbled.kept_madeOf hkind (client.madeOf_perform op) world tick s hs
    exact ⟨hon.store, fun hlist answer h => hon.called _ answer h hlist rfl⟩

/-- **A store with a record that cannot be read**, over a history. -/
structure StaysGarbled (world : Nat → Surroundings) (kind : RecordKind) (bs : Bytes)
    (steps : List Step) (tick : Nat) (s : σ) : Prop where
  /-- The bytes are always the same. -/
  during (m : Moment σ) (hm : m ∈ history world steps tick s) : kind.Garbled bs m.store
  after : kind.Garbled bs (storeAfter world steps tick s)
  /-- Every operation that needs the record says that this cannot be read, or fails before. -/
  approached (client : Client) (op : Operation) (tick' : Nat) (s' : σ)
      (hm : ⟨.operation client op, tick', s'⟩ ∈ history world steps tick s) :
    Approached kind ((client.approach kind op).report world tick' s')
      ((client.perform op).report world tick' s')
  /-- The remote service is not asked for notebooks in place of those that cannot be read. -/
  unlisted (hkind : kind = .notebooks) (m : Moment σ) (hm : m ∈ history world steps tick s)
      (answer : Except Error (List Notebook)) :
    .called .allNotebooks answer ∉ (m.report world).journal

/-- **A record that cannot be read stays as it is**, over every history: it is neither taken for a
missing one nor replaced.  Every operation that comes to it says that it cannot be read. -/
theorem staysGarbled_of_garbled (hkind : kind = .notebooks ∨ kind = .credentials)
    (steps : List Step) (tick : Nat) {s : σ} (hs : kind.Garbled bs s) :
    StaysGarbled world kind bs steps tick s := by
  obtain ⟨hduring, hafter⟩ := history_keeps (P := kind.Garbled bs)
    (fun _ hm => (hm.moment hkind).1) steps tick hs
  exact ⟨hduring, hafter, fun client op _ _ hm => client.approached_perform op hkind
    (hduring _ hm), fun hlist m hm => ((hduring m hm).moment hkind).2 hlist⟩

end RecordKind

end Histories

namespace Sample

/-- A store with a notebook list that nothing can be read from. -/
def garbledCache : Buckets :=
  Backend.plant ⟨[]⟩ Slot.notebooks.bucket Slot.notebooks.key (Utf8.ofString "not a record")

/-- The store is opened, the notebooks are to be fetched anew, and the store is opened again. -/
def forced : List Step := [.opening, .operation ⟨{}, {}, .identity⟩ (.notebooks true), .opening]

end Sample

/-- A forced sync does not replace a notebook list that cannot be read, and opening the store again
does not either. -/
theorem garbledCache_stays :
    RecordKind.StaysGarbled (fun _ => Sample.calm) .notebooks (Utf8.ofString "not a record")
      Sample.forced 0 Sample.garbledCache :=
  RecordKind.staysGarbled_of_garbled (.inl rfl) Sample.forced 0
    ⟨by decide +kernel, by decide +kernel, by decide +kernel⟩

end Notekeeper
