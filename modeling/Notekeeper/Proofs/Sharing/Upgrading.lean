import Notekeeper.Client
import Notekeeper.Proofs.Command.ReadBack
import Notekeeper.Proofs.Sharing.Crowd
import Notekeeper.Proofs.Store.Schema

/-!
# A store opened by many callers at once

Any number of callers may find a store to be of the oldest version before one of them has upgraded
it.  The version is read again in the update, so the first of these updates upgrades the store and
the others leave it alone, whatever clients that are open already do with the credentials and the
settings in between.

An opener takes at most two turns: a look at the version, and an update if that was old.  What the
update does depends on the version that it finds itself, and not on the look.  The callers that have
the store open are told by one property of their commands: every update in them leaves the version
as it is, and leaves secrets that can be read if it found such (`Command.Respects`).  This is proved
once of every operation on credentials and settings, and each turn hands it on to what is left of
the command, so that nothing else needs to be known of how far such a caller has come.

So after any turns the store is of the oldest version or of the current one, its secrets can be
read, and every opener is at one of three places (`Course`).  Once the version is the current one it
stays so.  Then no turn can upgrade the store any more, which makes the upgrade the only one; and
the turns of openers leave the store as it is, so that leaving them out changes nothing for the
others.

* `Command.Respects` : commands whose every update keeps to a relation of stores.
* `Client.respects_perform` : operations on credentials and settings leave the version alone.
* `Schema.Opener.advance` : the turns of an opener.
* `Schema.Course` : what every turn keeps.
* `Schema.UpgradesOnce` : how a store is opened by many callers.
* `Schema.upgradesOnce_after` : the session key is taken over once, whatever the order of turns.
* `upgradesOnce_latecomers` : a removed credential that a late opener does not bring back.
-/

namespace Notekeeper

open Command CredentialList

variable {σ : Type} [Backend σ]

/-! ## 1. Commands and a relation of stores

A relation that every update of a command keeps to is kept by each of its turns, whoever else takes
turns in between. -/

namespace Command

variable {α β : Type} {R : σ → σ → Prop}

/-- **Whether every update of a command keeps to a relation** between the store before and after. -/
def Respects (R : σ → σ → Prop) : Command α → Prop
  | done _ => True
  | view _ next => ∀ reply, (next reply).Respects R
  | update tx next =>
    (∀ fault s, R s (tx.update fault s).2) ∧ ∀ reply, (next reply).Respects R
  | ask _ next => ∀ answer, (next answer).Respects R
  | edit _ next => ∀ result, (next result).Respects R
  | clock next => ∀ time, (next time).Respects R

theorem Respects.bind {c : Command α} {f : α → Command β} (h : c.Respects R)
    (hf : ∀ a, (f a).Respects R) : (c >>= f).Respects R := by
  change (c.bind f).Respects R
  induction c with
  | done result =>
    cases result with
    | ok a => exact hf a
    | error e => trivial
  | view tx next ih => exact fun reply => ih reply (h reply)
  | update tx next ih => exact ⟨h.1, fun reply => ih reply (h.2 reply)⟩
  | ask call next ih => exact fun answer => ih answer (h answer)
  | edit text next ih => exact fun result => ih result (h result)
  | clock next ih => exact fun time => ih time (h time)

theorem respects_viewed (tx : Transaction α) : (viewed tx).Respects R := fun _ => trivial

theorem respects_updated {tx : Transaction α} (h : ∀ fault s, R s (tx.update fault s).2) :
    (updated tx).Respects R :=
  ⟨h, fun _ => trivial⟩

/-- What is left after one effect keeps to the relation, and so did the effect. -/
theorem Respects.advance {c : Command α} (h : c.Respects R) (hrefl : ∀ s, R s s)
    (w : Surroundings) (s : σ) :
    (c.advance w s).1.Respects R ∧ R s (c.advance w s).2 := by
  cases c with
  | done result => exact ⟨trivial, hrefl s⟩
  | view tx next => exact ⟨h _, hrefl s⟩
  | update tx next => exact ⟨h.2 _, h.1 _ _⟩
  | ask call next => exact ⟨h _, hrefl s⟩
  | edit text next => exact ⟨h _, hrefl s⟩
  | clock next => exact ⟨h _, hrefl s⟩

end Command

/-- A caller whose calls keep to a relation goes on to do so. -/
theorem Caller.respects_advance {R : σ → σ → Prop} {c : Caller}
    (h : ∀ call ∈ c.calls, call.rest.Respects R) (hrefl : ∀ s, R s s) (w : Surroundings) (s : σ) :
    (∀ call ∈ (c.advance w s).1.calls, call.rest.Respects R) ∧ R s (c.advance w s).2 := by
  obtain ⟨answered, calls⟩ := c
  cases calls with
  | nil => exact ⟨h, hrefl s⟩
  | cons call later =>
    have hcall := (h call List.mem_cons_self).advance hrefl w s
    rw [advance_cons]
    refine ⟨fun call' hcall' => ?_, hcall.2⟩
    unfold reaching at hcall'
    split at hcall'
    · exact h call' (List.mem_cons_of_mem _ hcall')
    · rcases List.mem_cons.1 hcall' with rfl | hlater
      · exact hcall.1
      · exact h call' (List.mem_cons_of_mem _ hlater)

/-! ## 2. What open clients keep -/

namespace Schema

/-- **Whether the secrets of a store can be read**: the settings and the credentials are missing or
records. -/
structure Readable (s : σ) : Prop where
  settings : ∃ found : Option Settings, Slot.settings.record s = .ok found
  credentials : ∃ cs, stored s = .ok cs

/-- **Whether a store has the version of another one**, and secrets that can be read as before. -/
structure Steady (s s' : σ) : Prop where
  version : versionOf s' = versionOf s
  readable : Readable s → Readable s'

theorem Steady.refl (s : σ) : Steady s s := ⟨rfl, id⟩

variable [LawfulBackend σ]

theorem steady_createBucket (b : String) (fault : WriteFault) (s : σ) :
    Steady s ((Transaction.perform (.createBucket b)).update fault s).2 := by
  cases fault with
  | locked => exact .refl s
  | refused => exact .refl s
  | none =>
    refine ⟨versionOf_congr (Slot.held_createBucket _ s b), fun h => ⟨?_, ?_⟩⟩
    · exact h.settings.imp fun _ => (Slot.record_congr (Slot.held_createBucket _ s b)).trans
    · exact (stored_congr (Slot.held_createBucket _ s b)).symm ▸ h.credentials

theorem steady_storeSettings (settings : Settings) (fault : WriteFault) (s : σ) :
    Steady s ((Slot.settings.store settings).update fault s).2 := by
  cases fault with
  | locked => exact .refl s
  | refused => exact .refl s
  | none =>
    obtain ⟨s', hupdate, hsets⟩ := Slot.settings.exists_update_store settings s
    rw [hupdate]
    refine ⟨versionOf_congr (hsets.held_of_ne (by decide)), fun h => ⟨⟨_, hsets.holds.record⟩, ?_⟩⟩
    exact (stored_congr (hsets.held_of_ne (by decide))).symm ▸ h.credentials

theorem steady_changing {α : Type}
    (change : List Credential → Except Error (α × List Credential)) (fault : WriteFault) (s : σ) :
    Steady s ((changing change).update fault s).2 := by
  cases hresult : ((changing change).update fault s).1 with
  | error e => rw [Transaction.update_of_error hresult]; exact .refl s
  | ok a =>
    obtain ⟨cs, left, -, -, hsets⟩ := sets_of_changing hresult
    refine ⟨versionOf_congr (hsets.held_of_ne (by decide)),
      fun h => ⟨?_, left, stored_of_sets hsets⟩⟩
    exact h.settings.imp fun _ => (Slot.record_congr (hsets.held_of_ne (by decide))).trans

end Schema

/-- Whether an operation works on the credentials or the settings. -/
def Operation.OnSecrets : Operation → Prop
  | credentials | addCredential _ _ | removeCredentialNamed _ | removeCredentials _
  | setActiveCredential _ | settings | storeSettings _ => True
  | _ => False

section Respecting

variable [LawfulBackend σ]

theorem Command.respects_settings : settings.Respects (Schema.Steady (σ := σ)) := by
  refine .bind (.bind (respects_viewed _) fun found => ?_) fun _ => trivial
  cases found with
  | some record => trivial
  | none => exact .bind (respects_updated (Schema.steady_createBucket _)) fun _ => trivial

theorem Command.respects_storeSettings (settings : Settings) :
    (storeSettings settings).Respects (Schema.Steady (σ := σ)) :=
  respects_updated (Schema.steady_storeSettings settings)

theorem Command.respects_changeCredentials {α : Type}
    (change : List Credential → Except Error (α × List Credential)) :
    (changeCredentials change).Respects (Schema.Steady (σ := σ)) :=
  respects_updated (Schema.steady_changing change)

theorem Command.respects_setActive (place : Int64) :
    (setActive place).Respects (Schema.Steady (σ := σ)) := by
  refine .bind (c := done (storeIndex place)) trivial fun index => ?_
  refine .bind (.bind (respects_viewed _) fun cs => ?_) fun credential => ?_
  · split <;> trivial
  · exact respects_settings.bind fun _ => (respects_storeSettings _).bind fun _ => trivial

/-- **Operations on credentials and settings leave the version alone**, and whatever they write can
be read. -/
theorem Client.respects_perform (client : Client) {op : Operation} (h : op.OnSecrets) :
    (client.perform op).Respects (Schema.Steady (σ := σ)) := by
  cases op with
  | credentials => exact respects_viewed _
  | addCredential name secret => exact respects_changeCredentials _
  | removeCredentialNamed name => exact respects_changeCredentials _
  | removeCredentials places =>
    have hplaces : (removePlaces places).Respects (Schema.Steady (σ := σ)) :=
      .bind (c := done (places.mapM storeIndex)) trivial fun _ => respects_changeCredentials _
    have hplace (place : Int64) : (removePlace place).Respects (Schema.Steady (σ := σ)) :=
      .bind (c := done (storeIndex place)) trivial fun _ => respects_changeCredentials _
    match places with
    | [] => exact hplaces
    | [place] => exact (hplace place).bind fun _ => trivial
    | _ :: _ :: _ => exact hplaces
  | setActiveCredential place => exact respects_setActive place
  | settings => exact respects_settings
  | storeSettings settings => exact respects_storeSettings settings
  | _ => cases h

end Respecting

/-! ## 3. One opener

An opener that has seen the oldest version runs the upgrade, and this reads the version once more.
-/

namespace Schema

theorem advance_upgradeStore (w : Surroundings) (s : σ) : upgradeStore.advance w s
    = (match versionOf s with
        | .error e => done (.error e)
        | .ok found => if current ≤ found then done (.ok found) else updated upgrade, s) := by
  rw [← view_version]
  change ((done (version.view s)).bind _, s) = _
  cases version.view s <;> rfl

theorem update_upgrade_of_current {s : σ} (h : versionOf s = .ok current) :
    upgrade.update .none s = (.ok current, s) := by
  have hrun : upgrade.run .none s = (.ok current, s) := by
    unfold upgrade
    rw [Transaction.run_bind, run_version, h]
    rfl
  exact Transaction.update_of_run hrun

/-- Secrets that can be read can be taken over. -/
theorem Readable.takenOver {s : σ} (h : Readable s) : ∃ left, takenOver s = .ok left := by
  obtain ⟨⟨found, hfound⟩, cs, hcs⟩ := h
  have hsettings : ∃ found, settingsOf s = .ok found := by
    unfold settingsOf
    split
    · exact ⟨found, hfound⟩
    · exact ⟨none, rfl⟩
  obtain ⟨settings, hsettings⟩ := hsettings
  unfold Schema.takenOver
  rw [hsettings, hcs]
  cases settings with
  | none => exact ⟨_, rfl⟩
  | some settings =>
    simp only
    split
    · exact ⟨_, rfl⟩
    · split <;> exact ⟨_, rfl⟩

/-- An upgrade leaves secrets that can be read. -/
theorem Upgraded.readable {s s' : σ} (h : Upgraded s s') (hread : Readable s) : Readable s' :=
  ⟨hread.settings.imp fun _ => (Slot.record_congr h.settings.2).trans,
    h.exists_stored hread.credentials⟩

/-- **How far an opener has come** in some turns.  It looks at the version first, and upgrades the
store in one update if it has to. -/
inductive Opener : Caller → Nat → Prop
  | waiting : Opener (.making [.opening]) 0
  /-- It has seen that the store is of the oldest version. -/
  | late : Opener ⟨[], [⟨.opening, updated upgrade⟩]⟩ 1
  | opened {n : Nat} (h : 1 ≤ n) : Opener ⟨[⟨.opening, .ok current⟩], []⟩ n

theorem Opener.eq_opened {c : Caller} {n : Nat} (h : Opener c n) (hn : 2 ≤ n) :
    c = ⟨[⟨.opening, .ok current⟩], []⟩ := by
  cases h with
  | waiting => omega
  | late => omega
  | opened _ => rfl

/-- An opener is told the new version, if anything. -/
theorem Opener.eq_of_mem_answered {c : Caller} {n : Nat} (h : Opener c n) {reply : Reply}
    (hreply : reply ∈ c.answered) : reply = ⟨.opening, .ok current⟩ := by
  cases h with
  | waiting => cases hreply
  | late => cases hreply
  | opened _ => exact List.mem_singleton.1 hreply

variable [LawfulBackend σ]

/-- **The turn of an opener** brings it on.  It leaves the store as it was, or upgrades an old
one. -/
theorem Opener.advance {c : Caller} {n : Nat} (h : Opener c n) {s : σ}
    (hversion : versionOf s = .ok 0 ∨ versionOf s = .ok current) (hread : Readable s)
    {w : Surroundings} (hw : w.fault = .none) :
    Opener (c.advance w s).1 (n + 1)
      ∧ ((c.advance w s).2 = s ∨ versionOf s = .ok 0 ∧ Upgraded s (c.advance w s).2) := by
  cases h with
  | waiting =>
    change Opener (Caller.reaching [] ⟨.opening, (upgradeStore.advance w s).1⟩ []) 1
      ∧ ((upgradeStore.advance w s).2 = s ∨ _)
    rw [advance_upgradeStore]
    rcases hversion with hold | hnew
    · rw [hold]
      exact ⟨.late, .inl rfl⟩
    · rw [hnew]
      exact ⟨.opened (Nat.le_refl 1), .inl rfl⟩
  | late =>
    change Opener (Caller.reaching [] ⟨.opening, done (upgrade.update w.fault s).1⟩ []) 2
      ∧ ((upgrade.update w.fault s).2 = s ∨ _ ∧ Upgraded s (upgrade.update w.fault s).2)
    rw [hw]
    rcases hversion with hold | hnew
    · obtain ⟨left, hleft⟩ := hread.takenOver
      obtain ⟨s', hupdate, hupgraded⟩ := exists_update_upgrade hold hleft
      rw [hupdate]
      exact ⟨.opened (by omega), .inr ⟨hold, hupgraded⟩⟩
    · rw [update_upgrade_of_current hnew]
      exact ⟨.opened (by omega), .inl rfl⟩
  | opened hn => exact ⟨.opened (by omega), .inl rfl⟩

end Schema

/-! ## 4. The course of a crowd -/

namespace Schema

variable {ι : Type}

/-- **Callers at a store of the oldest version**: some of them open it, and the others, who have it
open, work on the credentials and the settings. -/
structure OpenedByMany (opens : ι → Bool) (c : Crowd σ ι) : Prop where
  version : versionOf c.store = .ok 0
  readable : Readable c.store
  opener (i : ι) (h : opens i = true) : c.callers i = .making [.opening]
  client (i : ι) (h : opens i = false) : ∃ steps, c.callers i = .making steps
    ∧ ∀ step ∈ steps, ∃ client op, step = .operation client op ∧ op.OnSecrets

variable [DecidableEq ι]

/-- **What holds after some turns.** -/
structure Course (opens : ι → Bool) (past : List (Turn ι)) (c : Crowd σ ι) : Prop where
  version : versionOf c.store = .ok 0 ∨ versionOf c.store = .ok current
  readable : Readable c.store
  opener (i : ι) (h : opens i = true) : Opener (c.callers i) (Crowd.taken i past)
  client (i : ι) (h : opens i = false) :
    ∀ call ∈ (c.callers i).calls, call.rest.Respects (Steady (σ := σ))

variable {opens : ι → Bool} [LawfulBackend σ]

theorem OpenedByMany.course {c : Crowd σ ι} (h : OpenedByMany opens c) : Course opens [] c where
  version := .inl h.version
  readable := h.readable
  opener i hi := by
    rw [h.opener i hi]
    exact .waiting
  client i hi := by
    obtain ⟨steps, hsteps, hsecrets⟩ := h.client i hi
    intro call hcall
    rw [hsteps] at hcall
    obtain ⟨step, hstep, rfl⟩ := List.mem_map.1 hcall
    obtain ⟨client, op, rfl, hop⟩ := hsecrets step hstep
    exact client.respects_perform hop

variable {past : List (Turn ι)} {c : Crowd σ ι} {t : Turn ι}

/-- What the turn of an opener does to the store. -/
theorem Course.store_of_opener (h : Course opens past c) (ht : opens t.who = true)
    (hcalm : t.meets.fault = .none) :
    (c.step t).store = c.store ∨ versionOf c.store = .ok 0 ∧ Upgraded c.store (c.step t).store :=
  ((h.opener t.who ht).advance h.version h.readable hcalm).2

omit [LawfulBackend σ] in
/-- What the turn of a client that is open does to the store. -/
theorem Course.steady_of_client (h : Course opens past c) (ht : opens t.who = false) :
    Steady c.store (c.step t).store :=
  (Caller.respects_advance (h.client t.who ht) Steady.refl t.meets c.store).2

/-- **Every turn keeps the course.** -/
theorem Course.step (h : Course opens past c)
    (hcalm : opens t.who = true → t.meets.fault = .none) :
    Course opens (past ++ [t]) (c.step t) := by
  have hothers {i : ι} (hi : i ≠ t.who) :
      (c.step t).callers i = c.callers i ∧ Crowd.taken i (past ++ [t]) = Crowd.taken i past :=
    ⟨c.step_callers_of_ne hi, Crowd.taken_concat_of_ne past hi⟩
  cases ht : opens t.who with
  | true =>
    have hstore := h.store_of_opener ht (hcalm ht)
    refine ⟨?version, ?readable, fun i hi => ?opener, fun i hi => ?client⟩
    case version =>
      rcases hstore with hsame | ⟨-, hupgraded⟩
      · rw [hsame]
        exact h.version
      · exact .inr hupgraded.version
    case readable =>
      rcases hstore with hsame | ⟨-, hupgraded⟩
      · rw [hsame]
        exact h.readable
      · exact hupgraded.readable h.readable
    case opener =>
      by_cases hwho : i = t.who
      · subst hwho
        rw [c.step_callers_self, Crowd.taken_concat_self]
        exact ((h.opener t.who ht).advance h.version h.readable (hcalm ht)).1
      · rw [(hothers hwho).1, (hothers hwho).2]
        exact h.opener i hi
    case client =>
      have hwho : i ≠ t.who := fun he => by rw [he, ht] at hi; cases hi
      rw [(hothers hwho).1]
      exact h.client i hi
  | false =>
    have hsteady := h.steady_of_client ht
    refine ⟨?version, hsteady.readable h.readable, fun i hi => ?opener, fun i hi => ?client⟩
    case version =>
      rw [hsteady.version]
      exact h.version
    case opener =>
      have hwho : i ≠ t.who := fun he => by rw [he, ht] at hi; cases hi
      rw [(hothers hwho).1, (hothers hwho).2]
      exact h.opener i hi
    case client =>
      by_cases hwho : i = t.who
      · subst hwho
        rw [c.step_callers_self]
        exact (Caller.respects_advance (h.client t.who ht) Steady.refl t.meets c.store).1
      · rw [(hothers hwho).1]
        exact h.client i hi

/-- A store that is up to date stays so. -/
theorem Course.version_step (h : Course opens past c)
    (hcalm : opens t.who = true → t.meets.fault = .none)
    (hdone : versionOf c.store = .ok current) : versionOf (c.step t).store = .ok current := by
  cases ht : opens t.who with
  | true =>
    rcases h.store_of_opener ht (hcalm ht) with hsame | ⟨hold, -⟩
    · rw [hsame, hdone]
    · exact absurd (hold.symm.trans hdone) (by simp [current])
  | false => rw [(h.steady_of_client ht).version, hdone]

/-! ## 5. One upgrade -/

/-- **Whether a turn takes the session key over**: it runs the upgrade on a store of the oldest
version. -/
def Upgrades (c : Crowd σ ι) (t : Turn ι) : Prop :=
  versionOf c.store = .ok 0 ∧ ∃ answered step next later,
    c.callers t.who = ⟨answered, ⟨step, .update upgrade next⟩ :: later⟩

/-- Only an opener upgrades a store, and then it is upgraded. -/
theorem Course.upgraded (h : Course opens past c)
    (hcalm : opens t.who = true → t.meets.fault = .none) (ht : Upgrades c t) :
    opens t.who = true ∧ Upgraded c.store (c.step t).store := by
  obtain ⟨hold, answered, step, next, later, hcaller⟩ := ht
  obtain ⟨left, hleft⟩ := h.readable.takenOver
  obtain ⟨s', hupdate, hupgraded⟩ := exists_update_upgrade hold hleft
  cases hopens : opens t.who with
  | true =>
    refine ⟨rfl, ?_⟩
    have hstore : (c.step t).store = (upgrade.update t.meets.fault c.store).2 := by
      rw [c.step_store, hcaller]
      rfl
    rw [hstore, hcalm hopens, hupdate]
    exact hupgraded
  | false =>
    -- What an open client runs would have to leave the version alone.
    have hcall := h.client t.who hopens
    rw [hcaller] at hcall
    have hsteady : Steady c.store (upgrade.update .none c.store).2 :=
      (hcall _ List.mem_cons_self).1 .none c.store
    rw [hupdate] at hsteady
    exact absurd (hsteady.version.symm.trans hupgraded.version) (by simp [hold, current])

/-- **Whether two crowds are the same but for the openers**, so that all others go on alike. -/
structure SameBut (opens : ι → Bool) (c c' : Crowd σ ι) : Prop where
  store : c.store = c'.store
  callers (i : ι) (h : opens i = false) : c.callers i = c'.callers i

omit [LawfulBackend σ] in
/-- The turn of a client comes to the same in both. -/
theorem SameBut.step {c' : Crowd σ ι} (h : SameBut opens c c') (ht : opens t.who = false) :
    SameBut opens (c.step t) (c'.step t) := by
  refine ⟨?_, fun i hi => ?_⟩
  · rw [Crowd.step_store, Crowd.step_store, h.store, h.callers _ ht]
  · by_cases hwho : i = t.who
    · rw [hwho, Crowd.step_callers_self, Crowd.step_callers_self, h.store, h.callers _ ht]
    · rw [Crowd.step_callers_of_ne _ hwho, Crowd.step_callers_of_ne _ hwho]
      exact h.callers i hi

/-- **How a store of the oldest version is opened** by many callers, in some turns.  It is upgraded
once at most, whoever does it. -/
structure UpgradesOnce (opens : ι → Bool) (c : Crowd σ ι) (turns : List (Turn ι)) : Prop where
  /-- No two turns take the session key over. -/
  once {past since last : List (Turn ι)} {t t' : Turn ι}
    (hturns : turns = past ++ t :: since ++ t' :: last) (ht : Upgrades (c.after past) t) :
    ¬ Upgrades (c.after (past ++ t :: since)) t'
  /-- The one that does so upgrades the store as it is then. -/
  upgraded {past since : List (Turn ι)} {t : Turn ι} (hturns : turns = past ++ t :: since)
    (ht : Upgrades (c.after past) t) :
    Upgraded (c.after past).store (c.after (past ++ [t])).store
  /-- Two turns are enough to open the store, ... -/
  opened (i : ι) (h : opens i = true) (htaken : 2 ≤ Crowd.taken i turns) :
    (c.after turns).callers i = ⟨[⟨.opening, .ok current⟩], []⟩
  /-- ... and no opener is told anything else. -/
  answered (i : ι) (h : opens i = true) :
    ∀ reply ∈ ((c.after turns).callers i).answered, reply = ⟨.opening, .ok current⟩
  /-- Once the store is upgraded, the turn of an opener leaves it as it is, ... -/
  idle {past since : List (Turn ι)} {t : Turn ι} (hturns : turns = past ++ t :: since)
    (hdone : versionOf (c.after past).store = .ok current) (ht : opens t.who = true) :
    (c.after (past ++ [t])).store = (c.after past).store
  /-- ... and all ends as if no opener had taken a turn since. -/
  unnoticed {past since : List (Turn ι)} (hturns : turns = past ++ since)
    (hdone : versionOf (c.after past).store = .ok current) :
    SameBut opens (c.after turns) ((c.after past).after (since.filter (!opens ·.who)))

variable {turns : List (Turn ι)}

theorem OpenedByMany.course_after (h : OpenedByMany opens c)
    (hcalm : ∀ t ∈ turns, opens t.who = true → t.meets.fault = .none) :
    Course opens turns (c.after turns) := by
  induction turns using List.reverseRecOn with
  | nil => exact h.course
  | append_singleton past t ih =>
    rw [Crowd.after_concat]
    have hpast := ih fun t' ht' => hcalm t' (List.mem_append_left _ ht')
    exact hpast.step (hcalm t (List.mem_append_right _ List.mem_cons_self))

/-- A store that is up to date after some turns is so after all of them. -/
theorem OpenedByMany.version_after (h : OpenedByMany opens c) {since : List (Turn ι)}
    (hcalm : ∀ t ∈ past ++ since, opens t.who = true → t.meets.fault = .none)
    (hdone : versionOf (c.after past).store = .ok current) :
    versionOf (c.after (past ++ since)).store = .ok current := by
  induction since using List.reverseRecOn with
  | nil => rwa [List.append_nil]
  | append_singleton since t ih =>
    rw [← List.append_assoc] at hcalm ⊢
    have hfirst : ∀ t' ∈ past ++ since, opens t'.who = true → t'.meets.fault = .none :=
      fun t' ht' => hcalm t' (List.mem_append_left _ ht')
    rw [Crowd.after_concat]
    exact (h.course_after hfirst).version_step
      (hcalm t (List.mem_append_right _ List.mem_cons_self)) (ih hfirst)

theorem OpenedByMany.idle (h : OpenedByMany opens c)
    (hcalm : ∀ t' ∈ past ++ [t], opens t'.who = true → t'.meets.fault = .none)
    (hdone : versionOf (c.after past).store = .ok current) (ht : opens t.who = true) :
    (c.after (past ++ [t])).store = (c.after past).store := by
  have hcourse := h.course_after fun t' ht' => hcalm t' (List.mem_append_left _ ht')
  rw [Crowd.after_concat]
  rcases hcourse.store_of_opener ht
    (hcalm t (List.mem_append_right _ List.mem_cons_self) ht) with hsame | ⟨hold, -⟩
  · exact hsame
  · exact absurd (hold.symm.trans hdone) (by simp [current])

/-- **Once the store is upgraded, nobody can tell** whether openers take turns. -/
theorem OpenedByMany.unnoticed (h : OpenedByMany opens c) {since : List (Turn ι)}
    (hcalm : ∀ t ∈ past ++ since, opens t.who = true → t.meets.fault = .none)
    (hdone : versionOf (c.after past).store = .ok current) :
    SameBut opens (c.after (past ++ since))
      ((c.after past).after (since.filter (!opens ·.who))) := by
  induction since using List.reverseRecOn with
  | nil =>
    rw [List.append_nil]
    exact ⟨rfl, fun _ _ => rfl⟩
  | append_singleton since t ih =>
    rw [← List.append_assoc] at hcalm ⊢
    have hfirst : ∀ t' ∈ past ++ since, opens t'.who = true → t'.meets.fault = .none :=
      fun t' ht' => hcalm t' (List.mem_append_left _ ht')
    have hsame := ih hfirst
    rw [List.filter_append]
    cases ht : opens t.who with
    | true =>
      have hnone : [t].filter (!opens ·.who) = [] := by simp [ht]
      rw [hnone, List.append_nil]
      refine ⟨(h.idle hcalm (h.version_after hfirst hdone) ht).trans hsame.store, fun i hi => ?_⟩
      have hwho : i ≠ t.who := fun he => by rw [he, ht] at hi; cases hi
      rw [Crowd.after_concat, Crowd.step_callers_of_ne _ hwho]
      exact hsame.callers i hi
    | false =>
      have hone : [t].filter (!opens ·.who) = [t] := by simp [ht]
      rw [hone, Crowd.after_concat, Crowd.after_concat]
      exact hsame.step ht

/-- **The session key is taken over once, in whatever order the turns are taken.**  Any number of
callers open a store of the oldest version whose secrets can be read, while others work on its
credentials and settings. -/
theorem upgradesOnce_after (h : OpenedByMany opens c)
    (hcalm : ∀ t ∈ turns, opens t.who = true → t.meets.fault = .none) :
    UpgradesOnce opens c turns where
  once := by
    rintro past since last t t' rfl ht ⟨hold, -⟩
    have hpast : ∀ t'' ∈ past, opens t''.who = true → t''.meets.fault = .none :=
      fun t'' ht'' => hcalm t'' (by simp [ht''])
    have hupgraded := (h.course_after hpast).upgraded (hcalm t (by simp)) ht
    have hdone : versionOf (c.after (past ++ [t])).store = .ok current := by
      rw [Crowd.after_concat]
      exact hupgraded.2.version
    have hsince : ∀ t'' ∈ (past ++ [t]) ++ since, opens t''.who = true → t''.meets.fault = .none :=
      fun t'' ht'' => hcalm t'' (by simp at ht'' ⊢; tauto)
    have hlater := h.version_after hsince hdone
    rw [List.append_assoc, List.singleton_append] at hlater
    exact absurd (hold.symm.trans hlater) (by simp [current])
  upgraded := by
    rintro past since t rfl ht
    have hpast : ∀ t' ∈ past, opens t'.who = true → t'.meets.fault = .none :=
      fun t' ht' => hcalm t' (by simp [ht'])
    rw [Crowd.after_concat]
    exact ((h.course_after hpast).upgraded (hcalm t (by simp)) ht).2
  opened i hi htaken := ((h.course_after hcalm).opener i hi).eq_opened htaken
  answered i hi _ hreply := ((h.course_after hcalm).opener i hi).eq_of_mem_answered hreply
  idle := by
    rintro past since t rfl hdone ht
    exact h.idle (fun t' ht' => hcalm t' (by simp at ht' ⊢; tauto)) hdone ht
  unnoticed := by
    rintro past since rfl hdone
    exact h.unnoticed hcalm hdone

end Schema

namespace Sample

/-- Two callers that open an old store, and a client that removes the first credential. -/
def latecomers : Crowd Buckets (Fin 3) where
  callers i := .making [if i = 2 then .operation ⟨{}, {}, .identity⟩ (.removeCredentials [1])
    else .opening]
  store := legacy

/-- Both see that the store is old; the first one upgrades it, the client removes the credential
that was made of the session key, and then comes the update of the second one. -/
def lateTurns : List (Turn (Fin 3)) := [0, 1, 0, 2, 1].map (⟨·, calm⟩)

theorem openedByMany_latecomers : Schema.OpenedByMany (· ≠ 2) latecomers where
  version := by decide +kernel
  readable := ⟨⟨some { apiKey := "token" }, by decide +kernel⟩, [], by decide +kernel⟩
  opener i hi := by
    have hne : i ≠ 2 := of_decide_eq_true hi
    simp [latecomers, hne]
  client i hi := by
    obtain rfl : i = 2 := by simpa using hi
    exact ⟨_, rfl, fun step hstep => ⟨_, _, List.mem_singleton.1 hstep, trivial⟩⟩

end Sample

/-- The removed credential is not brought back by the slower caller. -/
theorem upgradesOnce_latecomers :
    Schema.UpgradesOnce (· ≠ 2) Sample.latecomers Sample.lateTurns
      ∧ stored (Sample.latecomers.after (Sample.lateTurns.take 3)).store
        = .ok [{ name := "OAuth", secret := "token" }]
      ∧ stored (Sample.latecomers.after Sample.lateTurns).store = .ok [] :=
  ⟨Schema.upgradesOnce_after Sample.openedByMany_latecomers (by decide),
    by decide +kernel, by decide +kernel⟩

end Notekeeper
