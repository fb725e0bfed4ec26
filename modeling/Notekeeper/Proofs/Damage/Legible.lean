import Notekeeper.Proofs.Damage.Garbled
import Notekeeper.Proofs.Searching.Ordinal

/-!
# Stores that can be read stay so

A store may hold records that can be read, or none, in all of its slots.  Once it is open, no
operation makes it otherwise, whatever the arguments are, whatever the others answer and whatever
goes wrong: it can be opened again, at the same version, and nothing in it is ever called corrupt.

The contract is that the version and all records can be read, and that no error calls a record
corrupt (`Legible.contract`).  A record is stored by encoding a value, and what was encoded can be
read, so an entry that an operation puts leaves the store legible, and an entry that is taken out
leaves no record there, which can be read too (`AllReadable.turns`).  Writes of other slots do not
matter to the slot.  As all records can be read, no part meets one that cannot, and the error about
one is never raised.

One exception comes from outside.  An editor or a codec may fail with any error, also with one that
sounds like a damaged record, and an operation passes on what it was given.  `HandedOver` says that
this is what happened: the error is in the journal of the operation itself, as what its editor gave
for a text that it was shown, or as what its codec gave for a body that it had fetched.

An opening brings the store up to date first.  The one upgrade rewrites the credentials, and the
list that it writes can be read as well.  After that the version needs no upgrade, and an opening
leaves the store as it is, which carries the version over any history.

* `AllReadable`, `Legible` : stores with nothing that cannot be read, and their version.
* `Legible.allows` : the parts of operations keep a store so.
* `Legible.of_upgradeStore` : an opening makes such a store of one whose records can be read.
* `staysLegible_of_opened` : a store over any history after its first opening.
-/

namespace Notekeeper

open Command

variable {σ : Type} [Backend σ] {v : UInt64} {s s' : σ}

/-! ## 1. Legible stores -/

/-- **Whether all records of a store can be read**, or are not there.  Of what they say nothing is
asked. -/
def AllReadable (s : σ) : Prop :=
  ∀ kind : RecordKind, ∃ found : Option kind.Value, kind.slot.record s = .ok found

/-- **Whether a store can be read**, its version and its records. -/
structure Legible (v : UInt64) (s : σ) : Prop where
  version : Schema.versionOf s = .ok v
  records : AllReadable s

/-- A record that was put into a slot, or taken out of it, leaves all others as they were. -/
theorem AllReadable.turns {kind : RecordKind} {entry : Option kind.Value} (h : AllReadable s)
    (hturns : kind.slot.Turns (entry.map Record.encode) s s') : AllReadable s' := by
  intro kind'
  by_cases hsame : kind'.slot = kind.slot
  · obtain rfl := RecordKind.slot_injective hsame
    cases entry with
    | none => exact ⟨none, Slot.record_of_held_none hturns.held⟩
    | some a => exact ⟨some (LawfulRecord.asWritten a), Slot.record_of_held_encode hturns.held⟩
  · obtain ⟨found, hfound⟩ := h kind'
    exact ⟨found, (Slot.record_congr (hturns.held_of_ne hsame)).trans hfound⟩

/-- An upgrade leaves records that can be read. -/
theorem AllReadable.upgraded (h : AllReadable s) (hupgraded : Schema.Upgraded s s') :
    AllReadable s' := by
  have hothers (kind : RecordKind) (hne : kind.slot ≠ .credentials) :
      kind.slot.held s' = kind.slot.held s := by
    refine hupgraded.get _ _ (fun hplace => ?_) fun hplace => ?_
    · exact kind.slot_ne_schemaVersion (Slot.eq_of_place hplace.1 hplace.2).symm
    · exact hne (Slot.eq_of_place hplace.1 hplace.2).symm
  intro kind
  by_cases hkind : kind.slot = .credentials
  · obtain rfl : kind = .credentials := RecordKind.slot_injective hkind
    have hstored := hupgraded.exists_stored (CredentialList.exists_stored_iff.2 (h .credentials))
    exact CredentialList.exists_stored_iff.1 hstored
  · exact (h kind).imp fun _ hfound => (Slot.record_congr (hothers kind hkind)).trans hfound

/-! ## 2. What operations keep

An error about a corrupt record can only be one that the editor or the codec gave.  The contract
therefore asks of such an error that the journal shows where it came from. -/

/-- **Whether an error calls a record corrupt**, by itself or with the one that it goes along.  The
latter is an edit that could be neither sent nor kept. -/
inductive Error.Corrupt : Error → Prop
  | record (bucket key reason : String) : (Error.corruptRecord bucket key reason).Corrupt
  | save {save recovery : Error} (h : save.Corrupt) : (Error.recoveryFailed save recovery).Corrupt
  | recovery {save recovery : Error} (h : recovery.Corrupt) :
    (Error.recoveryFailed save recovery).Corrupt

/-- **Whether an error was handed over** to a client in the course of what a journal tells: by the
editor, for a text that it was shown, or by the codec, for the body of a note whose content came. -/
inductive HandedOver (client : Client) (journal : List Effect) (e : Error) : Prop
  | editor {text : String} (h : .edited text (.error e) ∈ journal)
  | codec {guid content body : String} (h : .called (.noteContent guid) (.ok content) ∈ journal)
    (hunwrap : Envelope.unwrap content = .ok body)
    (hcodec : client.codec.toMarkdown body = .error e)

theorem HandedOver.append {client : Client} {journal : List Effect} {e : Error}
    (h : HandedOver client journal e) (earlier : List Effect) :
    HandedOver client (earlier ++ journal) e := by
  cases h with
  | editor h => exact .editor (List.mem_append_right earlier h)
  | codec h hunwrap hcodec => exact .codec (List.mem_append_right earlier h) hunwrap hcodec

theorem WriteFault.not_corrupt_of_reply {fault : WriteFault} {e : Error}
    (h : fault.reply = .error e) : ¬ e.Corrupt := by
  cases fault <;> cases h <;> exact nofun

theorem Error.not_corrupt_of_isNotFound {e : Error} (h : e.isNotFound = true) : ¬ e.Corrupt := by
  intro hcorrupt
  cases hcorrupt <;> cases h

/-- Whether a remote service fails with errors of its own only. -/
def FailsRemotely (world : Nat → Surroundings) : Prop :=
  ∀ (tick : Nat) (call : RemoteCall) (e : Error), (world tick).remote call = .error e →
    ∃ text, e = .remote text

namespace Legible

variable {world : Nat → Surroundings} {client : Client} {slots : List Slot}

/-- The contract to keep a store legible, and to call no record of it corrupt. -/
def contract (v : UInt64) (client : Client) : Contract σ where
  holds := Legible v
  fails journal e := e.Corrupt → HandedOver client journal e
  calls _ := True
  fails_append earlier _ _ h hcorrupt := (h hcorrupt).append earlier

/-- **Parts of operations keep a store legible**: the records that they store can be read. -/
theorem allows [LawfulBackend σ] (hremote : FailsRemotely world) (client : Client) :
    (contract v client : Contract σ).Allows world client slots where
  bucket kind s h :=
    ⟨(Schema.versionOf_congr (Slot.held_createBucket _ s _)).trans h.version, fun kind' =>
      (h.records kind').imp fun _ hfound =>
        (Slot.record_congr (Slot.held_createBucket _ s _)).trans hfound⟩
  entry kind _ _ _ _ hturns h :=
    ⟨(Schema.versionOf_congr (hturns.held_of_ne kind.slot_ne_schemaVersion.symm)).trans h.version,
      h.records.turns hturns⟩
  unreadable kind s e h he := by
    obtain ⟨found, hfound⟩ := h.records kind
    exact absurd (hfound.symm.trans he) nofun
  fault _ e he hcorrupt := absurd hcorrupt (WriteFault.not_corrupt_of_reply he)
  raised e he hcorrupt := by
    cases he with
    | notFound hnotFound => exact absurd hcorrupt (Error.not_corrupt_of_isNotFound hnotFound)
    | envelope text => cases hcorrupt
  remote tick call e he hcorrupt := by
    obtain ⟨text, rfl⟩ := hremote tick call e he
    cases hcorrupt
  editor _ _ _ _ _ := .editor List.mem_cons_self
  content _ _ _ _ hunwrap hcodec _ := .codec List.mem_cons_self hunwrap hcodec
  lost tick call fault save recovery hsave hrecovery hcorrupt := by
    obtain ⟨text, rfl⟩ := hremote tick call save hsave
    cases hcorrupt with
    | save h => cases h
    | recovery h => exact absurd h (WriteFault.not_corrupt_of_reply hrecovery)
  call _ _ := trivial

/-! ## 3. What openings keep -/

variable [LawfulBackend σ]

/-- A store that was opened once is opened again as it is. -/
theorem reopened (h : Legible v s) (hzero : v ≠ 0) (world : Nat → Surroundings) (tick : Nat) :
    (upgradeStore.report world tick s).result = .ok v
      ∧ (upgradeStore.report world tick s).store = s :=
  (Schema.opens_upgradeStore world tick s).upToDate v h.version hzero

/-- **A store whose records can be read is legible when it was opened**, and then it has a version
that needs no upgrade. -/
theorem of_upgradeStore (h : AllReadable s) {world : Nat → Surroundings} {tick : Nat}
    (hopen : (upgradeStore.report world tick s).result = .ok v) :
    Legible v (upgradeStore.report world tick s).store ∧ v ≠ 0 := by
  have hopens := Schema.opens_upgradeStore world tick s
  have hclear : ¬ Schema.Hindered (world (tick + 1)).fault.mishaps s := fun hhindered => by
    obtain ⟨⟨e, he⟩, -⟩ := hopens.hindered hhindered
    cases hopen.symm.trans he
  cases hversion : Schema.versionOf s with
  | error e => exact absurd (.version hversion) hclear
  | ok found =>
    by_cases hzero : found = 0
    · subst hzero
      obtain ⟨hresult, hupgraded⟩ := hopens.upgraded hversion hclear
      obtain rfl : Schema.current = v := Except.ok.inj (hresult.symm.trans hopen)
      exact ⟨⟨hupgraded.version, h.upgraded hupgraded⟩, by decide⟩
    · obtain ⟨hresult, hstore⟩ := hopens.upToDate found hversion hzero
      obtain rfl : found = v := Except.ok.inj (hresult.symm.trans hopen)
      rw [hstore]
      exact ⟨⟨hversion, h⟩, hzero⟩

/-! ## 4. Histories -/

/-- **Every moment keeps a store legible** that was opened once.  An opening finds nothing to
upgrade, and an operation keeps the contract. -/
theorem moment (hremote : FailsRemotely world) (hzero : v ≠ 0) {m : Moment σ}
    (h : Legible v m.store) : Legible v (m.report world).store := by
  obtain ⟨step, tick, s⟩ := m
  cases step with
  | opening =>
    have hstore := (h.reopened hzero world tick).2
    exact hstore.symm ▸ h
  | operation client op => exact ((allows hremote client).perform rfl tick s h).store

end Legible

variable [LawfulBackend σ] {world : Nat → Surroundings}

/-- **A store that stays legible** over a history, at one version. -/
structure StaysLegible (world : Nat → Surroundings) (v : UInt64) (steps : List Step) (tick : Nat)
    (s : σ) : Prop where
  during (m : Moment σ) (hm : m ∈ history world steps tick s) : Legible v m.store
  after : Legible v (storeAfter world steps tick s)
  /-- It can always be opened again. -/
  opened (tick' : Nat) (s' : σ) (hm : ⟨.opening, tick', s'⟩ ∈ history world steps tick s) :
    (upgradeStore.report world tick' s').result = .ok v
  /-- No operation calls a record corrupt, unless it passes on what its editor or codec said. -/
  uncorrupted (client : Client) (op : Operation) (tick' : Nat) (s' : σ)
      (hm : ⟨.operation client op, tick', s'⟩ ∈ history world steps tick s) (e : Error)
      (he : ((client.perform op).report world tick' s').result = .error e) (hcorrupt : e.Corrupt) :
    HandedOver client ((client.perform op).report world tick' s').journal e

/-- **A store that was opened with records that can be read stays legible**, over every history.  Of
the remote service it is asked that it fails with errors of its own; of editors and codecs nothing
is asked. -/
theorem staysLegible_of_opened (hremote : FailsRemotely world) (h : AllReadable s) {tick : Nat}
    (hopen : (upgradeStore.report world tick s).result = .ok v) (steps : List Step) :
    StaysLegible world v steps (upgradeStore.report world tick s).tick
      (upgradeStore.report world tick s).store := by
  obtain ⟨hopened, hzero⟩ := Legible.of_upgradeStore h hopen
  obtain ⟨hduring, hafter⟩ := history_keeps (P := Legible v)
    (fun _ hm => hm.moment hremote hzero) steps (upgradeStore.report world tick s).tick hopened
  exact ⟨hduring, hafter, fun tick' s' hm => ((hduring _ hm).reopened hzero world tick').1,
    fun client op tick' s' hm e he =>
      ((Legible.allows hremote client).perform rfl tick' s' (hduring _ hm)).error e he⟩

namespace Sample

theorem failsRemotely_orchard : FailsRemotely orchard := by
  intro tick call e h
  cases call with
  | findNotes filter offset count =>
    simp only [orchard] at h
    split at h <;> cases h
    exact ⟨_, rfl⟩
  | updateNote note => cases h
  | _ => cases h; exact ⟨_, rfl⟩

theorem allReadable_legacy : AllReadable legacy := by
  intro kind
  cases kind with
  | settings => exact ⟨some { apiKey := "token" }, by decide +kernel⟩
  | _ => exact ⟨none, Slot.record_of_held_none (by decide +kernel)⟩

end Sample

/-- A store of the oldest version is brought up to date, and stays legible while notes are searched
for and changed. -/
theorem legacy_staysLegible :
    (upgradeStore.report Sample.orchard 0 Sample.legacy).result = .ok 1
      ∧ StaysLegible Sample.orchard 1 (Sample.gathered.step :: Sample.season)
        (upgradeStore.report Sample.orchard 0 Sample.legacy).tick
        (upgradeStore.report Sample.orchard 0 Sample.legacy).store := by
  have hopen : (upgradeStore.report Sample.orchard 0 Sample.legacy).result = .ok 1 := by
    decide +kernel
  exact ⟨hopen, staysLegible_of_opened Sample.failsRemotely_orchard Sample.allReadable_legacy
    hopen _⟩

end Notekeeper
