import Notekeeper.Command.Records
import Notekeeper.Proofs.Command.Report
import Notekeeper.Proofs.Credential.Changing
import Notekeeper.Proofs.Store.Mishap
import Notekeeper.Proofs.Store.Varint

/-!
# Opening a store

A store is opened by looking at its version, and an old one is upgraded in one update: the session
key is taken over into the credential list, and then the new version is written.  What happens is
told by the bytes that the store holds and by what goes wrong on the way.

The update is looked at on its own first.  It does one of two things with the credentials: if a
session key is due, which is one that is not empty and not in the list yet, it becomes the last
credential; otherwise they are not written at all.  Whether a key is due, and whether the settings
and the list can be read at all, hangs on these two entries of the store (`Schema.takenOver`).  Then
the version is written.  All other entries come through, and the two effects together are what an
upgrade makes of a store (`Schema.Upgraded`).

Opening then has three outcomes.  Something is in the way, and the store is as it was; or its
version needs no upgrade, and the same holds; or it was upgraded as a whole.  The update is strict,
so that any mishap at all puts it into the first case.  Once a store was upgraded its session key is
in the list, and is not due any more.  That stays so however often the version is set back to zero
and the store opened again, whatever goes wrong with that, for nothing in it changes the settings or
the credentials.

* `Schema.Upgraded`, `Schema.Hindered` : what an upgrade makes of a store, and what prevents it.
* `Schema.opens_openAmid` : a store is opened as a whole, or an error leaves it as it was.
* `Schema.Settled.sameSecrets_reopened` : opening it again takes no key over a second time.
* `Schema.opensExactly_upgradeStore` : the same about the command.
-/

namespace Notekeeper

/-! ## 1. Fields read -/

/-- **A field that is read holds a value** just when the object does, under one of its names. -/
theorem Json.field?_eq_some {names : List String} {fields : List (Option String × Json)}
    {found : Option Json} (h : field? names fields = some found) {j : Json} :
    found = some j ↔ ∃ name ∈ names, (some name, j) ∈ fields := by
  have hmem (f : Option String × Json) : f ∈ fields.filter (fun f => f.1.any names.contains)
      ↔ ∃ name ∈ names, (some name, f.2) ∈ fields ∧ f.1 = some name := by
    obtain ⟨label, j⟩ := f
    cases label with
    | none => simp
    | some name => simpa using and_comm
  unfold field? at h
  split at h
  · next hnone =>
    cases h
    simp only [hnone, List.not_mem_nil, false_iff] at hmem
    constructor
    · intro hj
      cases hj
    · rintro ⟨name, hname, hj⟩
      exact absurd ⟨name, hname, hj, rfl⟩ (hmem (some name, j))
  · next f hone =>
    cases h
    simp only [hone, List.mem_singleton] at hmem
    constructor
    · intro hj
      obtain ⟨name, hname, hf, -⟩ := (hmem f).1 rfl
      exact ⟨name, hname, Option.some.inj hj ▸ hf⟩
    · rintro ⟨name, hname, hj⟩
      rw [← (hmem (some name, j)).2 ⟨name, hname, hj, rfl⟩]
  · cases h

open CredentialList

variable {σ : Type} [Backend σ]

namespace Schema

/-! ## 2. What a store says

All of this is told by the bytes of three slots: the version, the settings and the credentials. -/

/-- The version of a store, or that it cannot be told. -/
def versionOf (s : σ) : Except Error UInt64 :=
  match Slot.schemaVersion.held s with
  | none => .ok 0
  | some bs => decodeVersion bs

/-- Stores with the same bytes in the slot have the same version. -/
theorem versionOf_congr {s s' : σ}
    (h : Slot.schemaVersion.held s' = Slot.schemaVersion.held s) : versionOf s' = versionOf s := by
  unfold versionOf
  rw [h]

/-- The settings of a store, which are kept in a bucket. -/
def settingsOf (s : σ) : Except Error (Option Settings) :=
  if Backend.hasBucket s Slot.settings.bucket then Slot.settings.record s else .ok none

/-- **Whether a session key is to be taken over** into a credential list: it is not empty, and not
in the list yet. -/
structure KeyDue (s : σ) (key : String) (cs : List Credential) : Prop where
  settings : ∃ settings, settingsOf s = .ok (some settings) ∧ settings.apiKey = key
  nonempty : key ≠ ""
  stored : stored s = .ok cs
  missing : migrated key ∉ cs

/-- The list that a store is to get, if it is to get one. -/
def takenOver (s : σ) : Except Error (Option (List Credential)) :=
  match settingsOf s with
  | .error e => .error e
  | .ok none => .ok none
  | .ok (some settings) =>
    if settings.apiKey = "" then .ok none
    else match stored s with
      | .error e => .error e
      | .ok cs =>
        if migrated settings.apiKey ∈ cs then .ok none
        else .ok (some (cs ++ [migrated settings.apiKey]))

theorem takenOver_of_keyDue {s : σ} {key : String} {cs : List Credential} (h : KeyDue s key cs) :
    takenOver s = .ok (some (cs ++ [migrated key])) := by
  obtain ⟨⟨settings, hsettings, rfl⟩, hkey, hstored, hmissing⟩ := h
  simp only [takenOver, hsettings, hkey, if_false, hstored, hmissing]

/-- A store gets a list only for a session key that is due. -/
theorem keyDue_of_takenOver {s : σ} {left : List Credential} (h : takenOver s = .ok (some left)) :
    ∃ key cs, KeyDue s key cs ∧ left = cs ++ [migrated key] := by
  unfold takenOver at h
  split at h
  · cases h
  · cases h
  · next settings hsettings =>
    split at h
    · cases h
    · next hkey =>
      split at h
      · cases h
      · next cs hstored =>
        split at h
        · cases h
        · next hmissing =>
          obtain rfl := Option.some.inj (Except.ok.inj h)
          exact ⟨_, cs, ⟨⟨settings, hsettings, rfl⟩, hkey, hstored, hmissing⟩, rfl⟩

/-! ## 3. The transactions -/

theorem run_version (fault : WriteFault) (s : σ) : version.run fault s = (versionOf s, s) := by
  have hbytes : Slot.schemaVersion.bytes.run fault s = (.ok (Slot.schemaVersion.held s), s) := by
    simp [Slot.bytes, Transaction.perform, Transaction.run, Backend.perform, StoreOp.isWrite,
      Slot.held]
  unfold version versionOf
  rw [Transaction.run_bind, hbytes]
  cases Slot.schemaVersion.held s <;> rfl

theorem view_version (s : σ) : version.view s = versionOf s :=
  congrArg Prod.fst (run_version .none s)

theorem run_migrateKey (fault : WriteFault) (s : σ) : migrateKey.run fault s
    = match takenOver s with
      | .error e => (.error e, s)
      | .ok none => (.ok (), s)
      | .ok (some cs) => (Slot.credentials.store cs).run fault s := by
  have hlook : (Transaction.perform (.hasBucket Slot.settings.bucket)).run fault s
      = (.ok (Backend.hasBucket s Slot.settings.bucket), s) := by
    simp [Transaction.perform, Transaction.run, Backend.perform, StoreOp.isWrite]
  unfold migrateKey takenOver settingsOf
  rw [Transaction.run_bind, hlook]
  cases Backend.hasBucket s Slot.settings.bucket with
  | false => rfl
  | true =>
    simp only [if_true]
    rw [Transaction.run_bind, Slot.run_load]
    cases (Slot.settings.record s : Except Error (Option Settings)) with
    | error e => rfl
    | ok found =>
      cases found with
      | none => rfl
      | some settings =>
        by_cases hkey : settings.apiKey = ""
        · simp only [hkey, ne_eq, not_true_eq_false, if_false, if_true]
          rfl
        · simp only [ne_eq, hkey, not_false_eq_true, if_true, if_false]
          rw [Transaction.run_bind, Slot.run_load]
          unfold stored
          cases (Slot.credentials.record s : Except Error (Option (List Credential))) with
          | error e => rfl
          | ok held =>
            simp only [Except.map]
            by_cases hin : migrated settings.apiKey ∈ held.getD []
            · simp only [List.contains_eq_mem, hin, decide_true, if_true]
              rfl
            · simp only [List.contains_eq_mem, hin, decide_false, Bool.false_eq_true, if_false]

theorem strict_version : version.Strict := by
  refine (Transaction.strict_perform _).bind fun found => ?_
  cases found with
  | none => exact .done _
  | some bs => exact .done _

theorem strict_migrateKey : migrateKey.Strict := by
  refine (Transaction.strict_perform _).bind fun isThere => ?_
  cases isThere with
  | false => exact .done _
  | true =>
    refine (Transaction.strict_load .settings).bind fun found => ?_
    cases found with
    | none => exact .done _
    | some settings =>
      by_cases hkey : settings.apiKey = ""
      · simp only [hkey, ne_eq, not_true_eq_false, if_false]
        exact .done _
      · simp only [ne_eq, hkey, not_false_eq_true, if_true]
        refine (Transaction.strict_load .credentials).bind fun held => ?_
        split
        · exact .done _
        · exact Transaction.strict_setBytes _ _

theorem strict_upgrade : upgrade.Strict := by
  refine strict_version.bind fun found => ?_
  split
  · exact .done _
  · exact strict_migrateKey.bind fun _ =>
      (Transaction.strict_setBytes _ _).bind fun _ => .done _

/-- An upgrade of a store of the oldest version. -/
theorem run_upgrade {s : σ} (h : versionOf s = .ok 0) (fault : WriteFault) :
    upgrade.run fault s
      = (do migrateKey; setVersion current; pure current : Transaction UInt64).run fault s := by
  unfold upgrade
  rw [Transaction.run_bind, run_version, h]
  rfl

theorem update_upgrade_of_error {s : σ} {e : Error} (hv : versionOf s = .ok 0)
    (h : takenOver s = .error e) (fault : WriteFault) :
    ∃ e', upgrade.update fault s = (.error e', s) := by
  by_cases hfault : fault = .locked
  · rw [hfault]
    exact ⟨_, rfl⟩
  · have hrun : upgrade.run fault s = (.error e, s) := by
      rw [run_upgrade hv, Transaction.run_bind, run_migrateKey, h]
    exact ⟨e, Transaction.update_of_run_error hfault hrun⟩

theorem update_upgrade_of_fault {s : σ} {fault : WriteFault} (hv : versionOf s = .ok 0)
    (hfault : fault ≠ .none) : ∃ e, upgrade.update fault s = (.error e, s) := by
  cases fault with
  | none => exact absurd rfl hfault
  | locked => exact ⟨_, rfl⟩
  | refused =>
    -- If there is no list to write, it is the version that cannot be written.
    have hrun : ∃ e s', upgrade.run .refused s = (.error e, s') := by
      rw [run_upgrade hv, Transaction.run_bind, run_migrateKey]
      rcases takenOver s with e | _ | cs
      · exact ⟨e, s, rfl⟩
      · exact ⟨_, _, rfl⟩
      · exact ⟨_, _, rfl⟩
    obtain ⟨e, s', hrun⟩ := hrun
    exact ⟨e, Transaction.update_of_run_error (by decide) hrun⟩

/-! ## 4. What an upgrade makes of a store

There is one upgrade, from the oldest version to the current one.  Without a session key that is due
it writes the version alone. -/

/-- **What an upgrade makes of a store**: the version is the latest one, and a session key that is
due becomes the last credential.  Nothing else changes. -/
structure Upgraded (s s' : σ) : Prop where
  version : versionOf s' = .ok current
  /-- A session key that is due becomes the last credential. -/
  takenOver (key : String) (cs : List Credential) (h : KeyDue s key cs) :
    stored s' = .ok (cs ++ [migrated key])
  /-- Without one the credentials stay as they are. -/
  spared (h : ∀ key cs, ¬ KeyDue s key cs) : Slot.credentials.held s' = Slot.credentials.held s
  /-- All else stays as it is. -/
  get (b : String) (k : Bytes)
    (hversion : ¬ (Slot.schemaVersion.bucket = b ∧ Slot.schemaVersion.key = k))
    (hcredentials : ¬ (Slot.credentials.bucket = b ∧ Slot.credentials.key = k)) :
    Backend.get s' b k = Backend.get s b k
  hasBucket (b : String) :
    Backend.hasBucket s' b = (Slot.schemaVersion.bucket == b || Backend.hasBucket s b)

/-- An upgrade leaves a credential list that can be read. -/
theorem Upgraded.exists_stored {s s' : σ} (h : Upgraded s s') (hread : ∃ cs, stored s = .ok cs) :
    ∃ cs, stored s' = .ok cs := by
  by_cases hdue : ∃ key cs, KeyDue s key cs
  · -- The list was written anew, with the session key at its end.
    obtain ⟨key, cs, hdue⟩ := hdue
    exact ⟨_, h.takenOver key cs hdue⟩
  · have hspared := h.spared fun key cs hk => hdue ⟨key, cs, hk⟩
    exact (stored_congr hspared).symm ▸ hread

/-- Whether a store is another one that got a credential list, if there is one to get. -/
def Got (s s' : σ) : Option (List Credential) → Prop
  | none => s' = s
  | some cs => Slot.credentials.Sets (Record.encode cs) s s'

theorem hasBucket_of_keyDue {s : σ} {key : String} {cs : List Credential} (h : KeyDue s key cs) :
    Backend.hasBucket s Slot.credentials.bucket = true := by
  obtain ⟨settings, hsettings, -⟩ := h.settings
  unfold settingsOf at hsettings
  split at hsettings
  · assumption
  · cases hsettings

/-- A list that is due, and then the new version, make an upgrade. -/
theorem upgraded_of_got {s s₁ s' : σ} {left : Option (List Credential)}
    (h : takenOver s = .ok left) (hgot : Got s s₁ left)
    (hsets : Slot.schemaVersion.Sets (Varint.encode current) s₁ s') : Upgraded s s' := by
  have hversion : versionOf s' = .ok current := by
    rw [versionOf, hsets.held]
    simp only [decodeVersion, Varint.decode?_encode]
  have hcredentials : Slot.credentials.held s' = Slot.credentials.held s₁ :=
    hsets.held_of_ne (by decide)
  -- Bytes that were put into the slot of the version are in the way of nothing else.
  cases left with
  | none =>
    obtain rfl : s₁ = s := hgot
    refine ⟨hversion, fun key cs hdue => ?_, fun _ => hcredentials, fun b k hb _ => ?_,
      hsets.hasBucket⟩
    · cases h.symm.trans (takenOver_of_keyDue hdue)
    · rw [hsets.get, if_neg hb]
  | some cs =>
    obtain ⟨key, cs₀, hdue, rfl⟩ := keyDue_of_takenOver h
    refine ⟨hversion, fun key' cs' hdue' => ?_, fun hnone => absurd hdue (hnone key cs₀),
      fun b k hb hb' => ?_, fun b => ?_⟩
    · have hsame := h.symm.trans (takenOver_of_keyDue hdue')
      rw [stored_congr hcredentials, stored_of_sets hgot]
      exact congrArg Except.ok (Option.some.inj (Except.ok.inj hsame))
    · rw [hsets.get, if_neg hb, hgot.get, if_neg hb']
    · have hthere := hasBucket_of_keyDue hdue
      have hsame : (Slot.credentials.bucket == b || Backend.hasBucket s b)
          = Backend.hasBucket s b := by
        by_cases hb : Slot.credentials.bucket = b
        · rw [← hb, hthere, Bool.or_true]
        · rw [beq_eq_false_iff_ne.2 hb, Bool.false_or]
      rw [hsets.hasBucket, hgot.hasBucket, hsame]

section Lawful

variable [LawfulBackend σ]

theorem exists_run_migrateKey {s : σ} {left : Option (List Credential)}
    (h : takenOver s = .ok left) :
    ∃ s', migrateKey.run .none s = (.ok (), s') ∧ Got s s' left := by
  rw [run_migrateKey, h]
  cases left with
  | none => exact ⟨s, rfl, rfl⟩
  | some cs => exact Slot.run_setBytes .credentials (Record.encode cs) s

theorem exists_update_upgrade {s : σ} {left : Option (List Credential)}
    (hv : versionOf s = .ok 0) (h : takenOver s = .ok left) :
    ∃ s', upgrade.update .none s = (.ok current, s') ∧ Upgraded s s' := by
  obtain ⟨s₁, hmigrate, hgot⟩ := exists_run_migrateKey h
  obtain ⟨s', hset, hsets⟩ := Slot.run_setBytes .schemaVersion (Varint.encode current) s₁
  have hrun : upgrade.run .none s = (.ok current, s') := by
    rw [run_upgrade hv, Transaction.run_bind, hmigrate]
    simp only
    rw [Transaction.run_bind, setVersion, hset]
    rfl
  exact ⟨s', Transaction.update_of_run hrun, upgraded_of_got h hgot hsets⟩

end Lawful

/-! ## 5. Opening

The look at the version is not part of the update, and the version is read again inside. -/

/-- **What keeps a store from being opened**: its own bytes, or something that goes wrong. -/
inductive Hindered (m : Mishaps) (s : σ) : Prop
  | version {e : Error} (h : versionOf s = .error e)
  | settings {e : Error} (hv : versionOf s = .ok 0) (h : settingsOf s = .error e)
  | credentials {settings : Settings} {e : Error} (hv : versionOf s = .ok 0)
      (hs : settingsOf s = .ok (some settings)) (hkey : settings.apiKey ≠ "")
      (h : stored s = .error e)
  | mishap (hv : versionOf s = .ok 0) (h : Transaction.Strikes m upgrade s)

theorem current_le_iff {v : UInt64} : current ≤ v ↔ v ≠ 0 := by
  rw [UInt64.le_iff_toNat_le, ne_eq, ← UInt64.toNat_inj]
  change 1 ≤ v.toNat ↔ ¬ v.toNat = 0
  omega

/-- Opening a store, where mishaps may keep it from being upgraded. -/
def openAmid (m : Mishaps) (s : σ) : Except Error UInt64 × σ :=
  match version.view s with
  | .error e => (.error e, s)
  | .ok found => if current ≤ found then (.ok found, s) else upgrade.updateAmid m s

/-- **How a store is opened** amid mishaps: as a whole or not at all.  If not, the store is as it
was. -/
structure Opens (m : Mishaps) (s : σ) (result : Except Error UInt64) (s' : σ) : Prop where
  hindered (h : Hindered m s) : (∃ e, result = .error e) ∧ s' = s
  /-- A store of this version, or of a later one, is left alone. -/
  upToDate (v : UInt64) (hv : versionOf s = .ok v) (h : v ≠ 0) : result = .ok v ∧ s' = s
  upgraded (hv : versionOf s = .ok 0) (h : ¬ Hindered m s) : result = .ok current ∧ Upgraded s s'

theorem hindered_of_takenOver {s : σ} {e : Error} (hv : versionOf s = .ok 0)
    (h : takenOver s = .error e) (m : Mishaps) : Hindered m s := by
  unfold takenOver at h
  split at h
  · next hsettings => exact .settings hv hsettings
  · cases h
  · next settings hsettings =>
    split at h
    · cases h
    · next hkey =>
      split at h
      · next hstored => exact .credentials hv hsettings hkey hstored
      · split at h <;> cases h

theorem takenOver_of_hindered {s : σ} {m : Mishaps} (hv : versionOf s = .ok 0)
    (h : Hindered m s) :
    (∃ e, takenOver s = .error e) ∨ Transaction.Strikes m upgrade s := by
  cases h with
  | version h => exact absurd (h.symm.trans hv) nofun
  | @settings e _ h => exact .inl ⟨e, by rw [takenOver, h]⟩
  | @credentials settings e _ hs hkey h =>
    exact .inl ⟨e, by simp only [takenOver, hs, hkey, if_false, h]⟩
  | mishap _ h => exact .inr h

/-- An upgrade amid mishaps fails without a trace if something hinders it. -/
theorem updateAmid_upgrade_of_hindered {m : Mishaps} {s : σ} (hv : versionOf s = .ok 0)
    (h : Hindered m s) : ∃ e, upgrade.updateAmid m s = (.error e, s) := by
  by_cases hm : Transaction.Strikes m upgrade s
  · exact strict_upgrade.updateAmid_of_strikes hm
  · obtain ⟨e, he⟩ := (takenOver_of_hindered hv h).resolve_right hm
    rw [Transaction.updateAmid_of_not_strikes hm]
    exact update_upgrade_of_error hv he .none

section Lawful

variable [LawfulBackend σ]

theorem updateAmid_upgrade_of_not_hindered {m : Mishaps} {s : σ} (hv : versionOf s = .ok 0)
    (h : ¬ Hindered m s) : ∃ s', upgrade.updateAmid m s = (.ok current, s') ∧ Upgraded s s' := by
  have hm : ¬ Transaction.Strikes m upgrade s := fun hm => h (.mishap hv hm)
  rw [Transaction.updateAmid_of_not_strikes hm]
  cases htaken : takenOver s with
  | error e => exact absurd (hindered_of_takenOver hv htaken m) h
  | ok left => exact exists_update_upgrade hv htaken

/-- **A store is opened as a whole or not at all**, whatever goes wrong. -/
theorem opens_openAmid (m : Mishaps) (s : σ) : Opens m s (openAmid m s).1 (openAmid m s).2 := by
  rw [openAmid, view_version]
  cases hv : versionOf s with
  | error e =>
    exact ⟨fun _ => ⟨⟨e, rfl⟩, rfl⟩, fun _ hv' => absurd (hv.symm.trans hv') nofun,
      fun hv' => absurd (hv.symm.trans hv') nofun⟩
  | ok v =>
    by_cases hzero : v = 0
    · subst hzero
      refine ⟨fun h => ?_, fun w hw hne => ?_, fun _ h => ?_⟩
      · obtain ⟨e, he⟩ := updateAmid_upgrade_of_hindered hv h
        exact ⟨⟨e, congrArg Prod.fst he⟩, congrArg Prod.snd he⟩
      · exact absurd (Except.ok.inj (hw.symm.trans hv)) hne
      · obtain ⟨s', hs', hupgraded⟩ := updateAmid_upgrade_of_not_hindered hv h
        refine ⟨congrArg Prod.fst hs', ?_⟩
        have hstore : (upgrade.updateAmid m s).2 = s' := congrArg Prod.snd hs'
        exact hstore ▸ hupgraded
    · simp only [current_le_iff.2 hzero, if_true]
      refine ⟨fun h => ?_, fun w hw _ => ⟨hv.symm.trans hw, rfl⟩, fun hv' _ => ?_⟩
      · cases h with
        | version h => exact absurd (h.symm.trans hv) nofun
        | settings hv' _ | credentials hv' _ _ _ | mishap hv' _ =>
          exact absurd (Except.ok.inj (hv.symm.trans hv')) hzero
      · exact absurd (Except.ok.inj (hv.symm.trans hv')) hzero

end Lawful

/-! ## 6. Opening again

A store that was upgraded may be set back to the oldest version and opened again, any number of
times. -/

/-- **Whether two stores have the same credentials and settings.** -/
structure SameSecrets (s s' : σ) : Prop where
  bucket : Backend.hasBucket s' Slot.settings.bucket = Backend.hasBucket s Slot.settings.bucket
  settings : Slot.settings.held s' = Slot.settings.held s
  credentials : Slot.credentials.held s' = Slot.credentials.held s

theorem SameSecrets.refl (s : σ) : SameSecrets s s := ⟨rfl, rfl, rfl⟩

theorem SameSecrets.trans {s s' s'' : σ} (h : SameSecrets s s') (h' : SameSecrets s' s'') :
    SameSecrets s s'' :=
  ⟨h'.bucket.trans h.bucket, h'.settings.trans h.settings, h'.credentials.trans h.credentials⟩

/-- Whether no session key is due. -/
def Settled (s : σ) : Prop := ∀ key cs, ¬ KeyDue s key cs

theorem settingsOf_congr {s s' : σ}
    (hb : Backend.hasBucket s' Slot.settings.bucket = Backend.hasBucket s Slot.settings.bucket)
    (h : Slot.settings.held s' = Slot.settings.held s) : settingsOf s' = settingsOf s := by
  unfold settingsOf Slot.record
  rw [hb, h]

theorem Settled.of_sameSecrets {s s' : σ} (hs : Settled s) (h : SameSecrets s s') : Settled s' := by
  rintro key cs ⟨hsettings, hkey, hstored, hmissing⟩
  rw [settingsOf_congr h.bucket h.settings] at hsettings
  rw [stored_congr h.credentials] at hstored
  exact hs key cs ⟨hsettings, hkey, hstored, hmissing⟩

/-- Opening a store over and over, each time with version zero written back before, amid mishaps of
both updates. -/
def reopened : List (Mishaps × Mishaps) → σ → σ
  | [], s => s
  | (m, m') :: rounds, s =>
    reopened rounds (openAmid m' ((setVersion 0).updateAmid m s).2).2

theorem Upgraded.settings {s s' : σ} (h : Upgraded s s') :
    Backend.hasBucket s' Slot.settings.bucket = Backend.hasBucket s Slot.settings.bucket
      ∧ Slot.settings.held s' = Slot.settings.held s := by
  refine ⟨h.hasBucket _, h.get _ _ (by decide) (by decide)⟩

/-- After an upgrade no session key is due. -/
theorem Upgraded.settled {s s' : σ} (h : Upgraded s s') : Settled s' := by
  obtain ⟨hbucket, hsettings⟩ := h.settings
  by_cases hs : Settled s
  · exact hs.of_sameSecrets ⟨hbucket, hsettings, h.spared hs⟩
  · obtain ⟨key, cs, hdue⟩ : ∃ key cs, KeyDue s key cs := by
      simpa [Settled] using hs
    rintro key' cs' ⟨⟨settings, hsettings', rfl⟩, -, hstored, hmissing⟩
    obtain ⟨settings', hfound, rfl⟩ := hdue.settings
    rw [settingsOf_congr hbucket hsettings] at hsettings'
    obtain rfl : settings' = settings := by
      simpa using hfound.symm.trans hsettings'
    obtain rfl : cs' = cs ++ [migrated settings'.apiKey] :=
      Except.ok.inj (hstored.symm.trans (h.takenOver _ _ hdue))
    simp at hmissing

section Lawful

variable [LawfulBackend σ]

theorem sameSecrets_setVersion (m : Mishaps) (v : UInt64) (s : σ) :
    SameSecrets s ((setVersion v).updateAmid m s).2 := by
  by_cases hm : Transaction.Strikes m (setVersion v) s
  · obtain ⟨e, he⟩ := (Transaction.strict_setBytes _ _).updateAmid_of_strikes hm
    have hstore : ((setVersion v).updateAmid m s).2 = s := congrArg Prod.snd he
    rw [hstore]
    exact .refl _
  · obtain ⟨s', hset, hsets⟩ := Slot.run_setBytes .schemaVersion (Varint.encode v) s
    have hstore : ((setVersion v).updateAmid m s).2 = s' := by
      rw [Transaction.updateAmid_of_not_strikes hm, setVersion, Transaction.update_of_run hset]
    rw [hstore]
    exact ⟨hsets.hasBucket _, hsets.held_of_ne (by decide), hsets.held_of_ne (by decide)⟩

/-- Opening a store in which no session key is due leaves its credentials and settings. -/
theorem Settled.sameSecrets_openAmid {s : σ} (hs : Settled s) (m : Mishaps) :
    SameSecrets s (openAmid m s).2 := by
  have hopens := opens_openAmid m s
  by_cases hm : Hindered m s
  · rw [(hopens.hindered hm).2]
    exact .refl _
  · cases hv : versionOf s with
    | error e => exact absurd (.version hv) hm
    | ok v =>
      by_cases hzero : v = 0
      · subst hzero
        obtain ⟨-, hupgraded⟩ := hopens.upgraded hv hm
        obtain ⟨hbucket, hsettings⟩ := hupgraded.settings
        exact ⟨hbucket, hsettings, hupgraded.spared hs⟩
      · rw [(hopens.upToDate v hv hzero).2]
        exact .refl _

theorem Settled.sameSecrets_reopened (rounds : List (Mishaps × Mishaps)) {s : σ} (hs : Settled s) :
    SameSecrets s (reopened rounds s) := by
  induction rounds generalizing s with
  | nil => exact .refl _
  | cons round rounds ih =>
    obtain ⟨m, m'⟩ := round
    -- Neither half of a round touches what the next one reads.
    have hback := sameSecrets_setVersion m 0 s
    have hopen := (hs.of_sameSecrets hback).sameSecrets_openAmid m'
    have hround := hback.trans hopen
    exact hround.trans (ih (hs.of_sameSecrets hround))

end Lawful

/-! ## 7. The command -/

/-- **The session key goes by two names** in the settings.  An object that has both is not
read at all. -/
theorem apiKey_eq_iff {fields : List (Option String × Json)} {settings : Settings}
    (h : Record.ofJson? (.object fields) = some settings) {key : String} (hkey : key ≠ "") :
    settings.apiKey = key ↔ ∃ name ∈ ["api_key", "APIKey"], (some name, .text key) ∈ fields := by
  have hread : ∃ found, Json.field? ["api_key", "APIKey"] fields = some found
      ∧ Json.optional "" Json.string? found = some settings.apiKey := by
    unfold Record.ofJson? instRecordSettings at h
    obtain ⟨read, hread, hsettings⟩ := Option.bind_eq_some_iff.1 h
    cases hfound : Json.field? ["api_key", "APIKey"] fields with
    | none => simp [Json.fields?, hfound] at hread
    | some found =>
      cases hother : Json.field? ["credential"] fields with
      | none => simp [Json.fields?, hfound, hother] at hread
      | some other =>
        obtain ⟨-, rfl⟩ : _ ∧ [found, other] = read := by
          simpa [Json.fields?, hfound, hother] using hread
        obtain ⟨apiKey, hapiKey, hrest⟩ := Option.bind_eq_some_iff.1 hsettings
        obtain ⟨credential, -, hmade⟩ := Option.bind_eq_some_iff.1 hrest
        cases hmade
        exact ⟨found, rfl, hapiKey⟩
  obtain ⟨found, hfound, hvalue⟩ := hread
  rw [← Json.field?_eq_some hfound]
  cases found with
  | none =>
    have hempty : "" = settings.apiKey := Option.some.inj hvalue
    rw [← hempty]
    exact ⟨fun h => absurd h.symm hkey, nofun⟩
  | some j => cases j <;> simp_all [Json.optional, Json.string?]

theorem decode?_of_settingsOf {s : σ} {bs : Bytes} {found : Settings}
    (hheld : Slot.settings.held s = some bs) (h : settingsOf s = .ok (some found)) :
    Record.decode? bs = some found := by
  unfold settingsOf Slot.record Slot.decode at h
  rw [hheld] at h
  split at h
  · cases hread : (Record.decode? bs : Option Settings) with
    | none => simp [hread, Except.map] at h
    | some read => simpa [hread, Except.map] using h
  · cases h

/-- The command opens the store amid the mishaps of one fault. -/
theorem run_upgradeStore (world : Nat → Command.Surroundings) (tick : Nat) (s : σ) :
    ((Command.upgradeStore.run world tick s).result, (Command.upgradeStore.run world tick s).store)
      = openAmid (world (tick + 1)).fault.mishaps s := by
  unfold openAmid
  change (((Command.done (version.view s)).bind fun found =>
    if current ≤ found then .done (.ok found) else Command.updated upgrade).run world
      (tick + 1) s |> fun o => (o.result, o.store)) = _
  cases version.view s with
  | error e => rfl
  | ok found =>
    simp only [Command.bind]
    split
    · rfl
    · rw [← Transaction.update_eq_updateAmid]
      rfl

/-- **What opening a store does**, from its bytes and what is in the way. -/
structure OpensExactly (world : Nat → Command.Surroundings) (tick : Nat) (s : σ) : Prop where
  /-- The command opens the store amid the mishaps of one fault. -/
  command : ((Command.upgradeStore.run world tick s).result,
    (Command.upgradeStore.run world tick s).store) = openAmid (world (tick + 1)).fault.mishaps s
  /-- With such a fault a store that is due an upgrade is not opened. -/
  faulty (hv : versionOf s = .ok 0) (h : (world (tick + 1)).fault ≠ .none) :
    (∃ e, (Command.upgradeStore.run world tick s).result = .error e)
      ∧ (Command.upgradeStore.run world tick s).store = s
  /-- What each choice of mishaps leads to. -/
  opens (m : Mishaps) : Opens m s (openAmid m s).1 (openAmid m s).2
  /-- The key is read under either of its names. -/
  settings {bs : Bytes} (hheld : Slot.settings.held s = some bs)
    {fields : List (Option String × Json)}
    (hfields : Json.parse? (Utf8.symbols bs) = some (.object fields)) {found : Settings}
    (h : settingsOf s = .ok (some found)) {key : String} (hkey : key ≠ "") :
    found.apiKey = key ↔ ∃ name ∈ ["api_key", "APIKey"], (some name, .text key) ∈ fields
  /-- After an upgrade the credentials and the settings stay as they are. -/
  again (m : Mishaps) {v : UInt64} (hv : versionOf s = .ok 0) (h : (openAmid m s).1 = .ok v)
    (rounds : List (Mishaps × Mishaps)) :
    SameSecrets (openAmid m s).2 (reopened rounds (openAmid m s).2)

/-- **Every store is opened exactly so**, whatever bytes it holds and whatever is in the way. -/
theorem opensExactly_upgradeStore [LawfulBackend σ] (world : Nat → Command.Surroundings)
    (tick : Nat) (s : σ) : OpensExactly world tick s where
  command := run_upgradeStore world tick s
  faulty hv h := by
    obtain ⟨e, he⟩ := update_upgrade_of_fault hv h
    have hrun := run_upgradeStore world tick s
    rw [openAmid, view_version, hv] at hrun
    simp only [current_le_iff, ne_eq, not_true_eq_false, if_false] at hrun
    rw [← Transaction.update_eq_updateAmid, he] at hrun
    exact ⟨⟨e, congrArg Prod.fst hrun⟩, congrArg Prod.snd hrun⟩
  opens m := opens_openAmid m s
  settings hheld _ hfields _ h _ hkey := by
    have hread := decode?_of_settingsOf hheld h
    rw [Record.decode?, hfields, Option.bind_some] at hread
    exact apiKey_eq_iff hread hkey
  again m v hv h rounds := by
    have hopens := opens_openAmid m s
    have hm : ¬ Hindered m s := fun hm => by
      obtain ⟨⟨e, he⟩, -⟩ := hopens.hindered hm
      cases he.symm.trans h
    exact (hopens.upgraded hv hm).2.settled.sameSecrets_reopened rounds

end Schema

namespace Sample

/-- A store of the oldest version, with a session key under its older name. -/
def legacy : Buckets :=
  Backend.plant ⟨[]⟩ Slot.settings.bucket Slot.settings.key
    (Utf8.encode (Json.record [("APIKey", .text "token")]).write)

end Sample

/-- The store of the oldest version is opened, and holds a credential then. -/
theorem opensExactly_legacy : Schema.OpensExactly (fun _ => Sample.calm) 0 Sample.legacy
    ∧ (stored (Command.upgradeStore.run (fun _ => Sample.calm) 0 Sample.legacy).store).toOption
      = some [{ name := "OAuth", secret := "token" }] :=
  ⟨Schema.opensExactly_upgradeStore _ 0 Sample.legacy, by decide +kernel⟩

end Notekeeper
