import Notekeeper.Client
import Notekeeper.Proofs.Command.ReadBack
import Notekeeper.Proofs.Credential.Changing
import Notekeeper.Proofs.Sharing.Crowd

/-!
# Calls on the secrets of a store

The secrets of a store are its credential list and its settings.  A change of the list is one
transaction; a choice of the credential in use reads the list, reads the settings and writes them,
and may have to make their bucket, each in a transaction of its own.

Nothing of a call matters to other callers but what it makes of the secrets, and that can be told
from the secrets alone, without the store and without the turns.  A call has an answer, which hangs
on the list that it read (`SecretCall.answer`); it leaves a list (`SecretCall.listAfter`); and its
reply tells whether it settles the settings (`Reply.settles`).  Several calls one after another are
then two folds: one over the list, and one over the replies.

The link between the two views is one turn.  A call that has not begun reads the list as it is now.
From then on it holds on to the credential that it found, and whatever else happens to the list is
no concern of it (`Underway`).  Its turns leave the secrets alone until the last one, which leaves
what its answer says.  A caller is at some place of its calls with the first of them under way, and
a turn either brings this one on or ends it (`Makes.advance`).  Nobody can change the list unseen
in a history, where the caller is alone; so there each call answers on the list that the ones before
it left (`history_of_secretCalls`).

* `SecretCall.answer`, `SecretCall.listAfter` : what a call comes to, told from the secrets alone.
* `Secrets.In` : the secrets of a store.
* `Underway.advance` : what a turn makes of a call.
* `Makes.advance` : what a turn makes of a caller.
* `history_of_secretCalls` : what a history of such calls comes to.
-/

namespace Notekeeper

open Command CredentialList

/-! ## 1. Calls and their answers

The answers are functions of the list and of whether the settings can be read.  Nothing else of a
store matters to these calls. -/

/-- The credential at a place that the user counts from one. -/
def CredentialList.pick (place : Int64) (held : Except Error (List Credential)) :
    Except Error Credential :=
  (storeIndex place).bind fun index => held.bind fun cs =>
    match if index < 0 then none else cs[index.toNat]? with
    | some c => .ok c
    | none => .error .indexOutOfRange

/-- The credentials at some places, and the list without them. -/
def CredentialList.removal (places : List Int64) (held : Except Error (List Credential)) :
    Except Error (List Credential × List Credential) :=
  match places with
  | [place] => (storeIndex place).bind fun index =>
    (held.bind (removeAt index)).map fun found => ([found.1], found.2)
  | places => (places.mapM storeIndex).bind fun indices => held.bind (removeAll indices)

/-- The settings with a credential in use. -/
def Credential.inUse (c : Credential) : Settings := { apiKey := c.secret, credential := some c }

/-- **A change of the credential list** that a client may ask for. -/
inductive Alteration
  | add (name secret : String)
  | removeNamed (name : String)
  /-- Places are counted from one. -/
  | remove (places : List Int64)

namespace Alteration

/-- A change of the list as an operation. -/
@[reducible] def operation : Alteration → Operation
  | add name secret => .addCredential name secret
  | removeNamed name => .removeCredentialNamed name
  | remove places => .removeCredentials places

/-- **What a change of the list answers**, and the list that it leaves. -/
def alter (client : Client) : (a : Alteration) → Except Error (List Credential) →
    Except Error (a.operation.Answer × List Credential)
  | add name secret, held =>
    held.bind fun cs => .ok ((), cs ++ [{ name, secret, credType := client.credentialType }])
  | removeNamed name, held => held.bind (removeFirst (·.name == name))
  | remove places, held => removal places held

end Alteration

/-- **A call that changes the secrets.** -/
inductive SecretCall
  | alter (client : Client) (a : Alteration)
  | choose (client : Client) (place : Int64)

/-- The settings that a reply gives as chosen. -/
def Reply.chosen? : Reply → Option Settings
  | ⟨.operation _ (.setActiveCredential _), .ok settings⟩ => some settings
  | _ => none

theorem Reply.chosen?_of_result (client : Client) (place : Int64)
    (result : Except Error Settings) :
    (⟨.operation client (.setActiveCredential place), result⟩ : Reply).chosen?
      = result.toOption := by
  cases result <;> rfl

/-- What a reply leaves of the settings. -/
def Reply.settles (reply : Reply) (old : Except Error (Option Settings)) :
    Except Error (Option Settings) :=
  match reply.chosen? with
  | some settings => .ok (some settings)
  | none => old

namespace SecretCall

/-- A call as a step. -/
@[reducible] def step : SecretCall → Step
  | alter client a => .operation client a.operation
  | choose client place => .operation client (.setActiveCredential place)

/-- The list that a call leaves. -/
def listAfter : SecretCall → Except Error (List Credential) → Except Error (List Credential)
  | alter client a, held =>
    match a.alter client held with
    | .ok (_, left) => .ok left
    | .error _ => held
  | choose _ _, held => held

/-- **What a call answers**, from the list, and whether the settings can be read. -/
def answer : (call : SecretCall) → Except Error (List Credential) → Except Error Unit →
    Except Error call.step.Answer
  | alter client a, held, _ => (a.alter client held).map (·.1)
  | choose _ place, held, readable => (pick place held).bind fun c => readable.map fun _ => c.inUse

/-- What comes of a call. -/
def reply (call : SecretCall) (held : Except Error (List Credential))
    (readable : Except Error Unit) : Reply :=
  ⟨call.step, call.answer held readable⟩

variable {held : Except Error (List Credential)} {readable : Except Error Unit}

theorem chosen?_alter (client : Client) (a : Alteration) :
    ((alter client a).reply held readable).chosen? = none := by
  cases a <;> rfl

theorem chosen?_choose {client : Client} {place : Int64} {settings : Settings} :
    ((choose client place).reply held readable).chosen? = some settings
      ↔ (choose client place).answer held readable = .ok settings := by
  rw [reply, Reply.chosen?_of_result]
  cases (choose client place).answer held readable with
  | error e => exact ⟨nofun, nofun⟩
  | ok chosen =>
    exact ⟨fun h => congrArg _ (Option.some.inj h), fun h => congrArg _ (Except.ok.inj h)⟩

/-- What comes of calls that are made one after another. -/
def replies (readable : Except Error Unit) :
    List SecretCall → Except Error (List Credential) → List Reply
  | [], _ => []
  | call :: calls, held => call.reply held readable :: replies readable calls (call.listAfter held)

/-- The list that calls leave. -/
def listAfterAll (calls : List SecretCall) (held : Except Error (List Credential)) :
    Except Error (List Credential) :=
  calls.foldl (fun held call => call.listAfter held) held

theorem listAfterAll_append (calls calls' : List SecretCall) :
    listAfterAll (calls ++ calls') held = listAfterAll calls' (listAfterAll calls held) :=
  List.foldl_append

theorem replies_append (calls calls' : List SecretCall) :
    replies readable (calls ++ calls') held
      = replies readable calls held ++ replies readable calls' (listAfterAll calls held) := by
  induction calls generalizing held with
  | nil => rfl
  | cons call calls ih => exact congrArg (_ :: ·) ih

theorem take_replies (p : Nat) (calls : List SecretCall) :
    (replies readable calls held).take p = replies readable (calls.take p) held := by
  induction calls generalizing p held with
  | nil => rw [List.take_nil, replies, List.take_nil]
  | cons call calls ih =>
    cases p with
    | zero => rfl
    | succ p => exact congrArg (_ :: ·) (ih p)

theorem drop_replies (p : Nat) (calls : List SecretCall) :
    (replies readable calls held).drop p
      = replies readable (calls.drop p) (listAfterAll (calls.take p) held) := by
  induction calls generalizing p held with
  | nil => rw [List.drop_nil, replies, replies, List.drop_nil]
  | cons call calls ih =>
    cases p with
    | zero => rfl
    | succ p => exact ih p

end SecretCall

/-- What replies leave of the settings, one after another. -/
def settledBy (rs : List Reply) (old : Except Error (Option Settings)) :
    Except Error (Option Settings) :=
  rs.foldl (fun old r => r.settles old) old

theorem settledBy_append (rs rs' : List Reply) (old : Except Error (Option Settings)) :
    settledBy (rs ++ rs') old = settledBy rs' (settledBy rs old) :=
  List.foldl_append

/-- The settings that replies give as chosen. -/
def choices (rs : List Reply) : List Settings := rs.filterMap Reply.chosen?

theorem choices_append (rs rs' : List Reply) : choices (rs ++ rs') = choices rs ++ choices rs' :=
  List.filterMap_append

/-- **The last choice settles the settings.** -/
theorem settledBy_eq (rs : List Reply) (old : Except Error (Option Settings)) :
    settledBy rs old = ((choices rs).getLast?.map fun last => .ok (some last)).getD old := by
  induction rs using List.reverseRecOn with
  | nil => rfl
  | append_singleton rs r ih =>
    have hsettles : settledBy (rs ++ [r]) old = r.settles (settledBy rs old) :=
      settledBy_append rs [r] old
    rw [hsettles, choices_append, List.getLast?_append]
    unfold Reply.settles
    cases hr : r.chosen? with
    | none =>
      have hnone : choices [r] = [] := by simp [choices, hr]
      rw [hnone, ih]
      rfl
    | some settings =>
      have hone : choices [r] = [settings] := by simp [choices, hr]
      rw [hone]
      rfl

/-! ## 2. Secrets in a store -/

/-- **The secrets of a store**: its credential list and its settings, either of which may be
unreadable. -/
structure Secrets where
  list : Except Error (List Credential)
  settings : Except Error (Option Settings)

namespace Secrets

/-- Whether the settings can be read. -/
def readable (x : Secrets) : Except Error Unit := x.settings.map fun _ => ()

variable {σ : Type} [Backend σ]

/-- **Whether a store has these secrets.**  Nothing is in a bucket that is missing. -/
structure In (x : Secrets) (s : σ) : Prop where
  list : stored s = x.list
  settings : Slot.settings.record s = x.settings
  tidy (h : Backend.hasBucket s Slot.settings.bucket = false) : Slot.settings.held s = none

variable {x : Secrets} {s s' : σ}

theorem In.setList (h : x.In s) {cs : List Credential}
    (hs : Slot.credentials.Sets (Record.encode cs) s s') : ({ x with list := .ok cs }).In s' where
  list := stored_of_sets hs
  settings := (Slot.record_congr (hs.held_of_ne (by decide))).trans h.settings
  tidy hnone := absurd (hs.holds.hasBucket.symm.trans hnone) nofun

theorem In.setSettings (h : x.In s) {settings : Settings}
    (hs : Slot.settings.Sets (Record.encode settings) s s') :
    ({ x with settings := .ok (some settings) }).In s' where
  list := (stored_congr (hs.held_of_ne (by decide))).trans h.list
  settings := hs.holds.record
  tidy hnone := absurd (hs.holds.hasBucket.symm.trans hnone) nofun

theorem In.createBucket [LawfulBackend σ] (h : x.In s) :
    x.In (Backend.createBucket s Slot.settings.bucket) where
  list := (stored_congr (Slot.held_createBucket _ s _)).trans h.list
  settings := (Slot.record_congr (Slot.held_createBucket _ s _)).trans h.settings
  tidy hnone := by
    rw [LawfulBackend.hasBucket_createBucket, beq_self_eq_true, Bool.true_or] at hnone
    cases hnone

end Secrets

/-! ## 3. The turns of a call -/

variable {σ : Type} [Backend σ]

/-- What a change of the list makes of a store. -/
inductive Altered {α : Type} (s : σ) : Except Error (α × List Credential) → σ → Prop
  | altered {a : α} {left : List Credential} {s' : σ}
      (h : Slot.credentials.Sets (Record.encode left) s s') : Altered s (.ok (a, left)) s'
  | failed {e : Error} : Altered s (.error e) s

namespace Command

/-- What a choice does with the credential that it found. -/
def adopting (c : Credential) : Command Settings := do
  let changed := { ← settings with apiKey := c.secret, credential := some c }
  storeSettings changed
  pure changed

/-- What a choice does at last. -/
def storing (c : Credential) : Command Settings := do
  storeSettings c.inUse
  pure c.inUse

/-- What a choice does when the bucket of the settings is missing. -/
def makingBucket (c : Credential) : Command Settings := do
  updated (.perform (.createBucket Slot.settings.bucket))
  storing c

variable {w : Surroundings} {s : σ}

/-- **A choice reads the list** without a trace. -/
theorem advance_setActive (place : Int64) (w : Surroundings) (s : σ) :
    (setActive place).advance w s
      = (match pick place (stored s) with
          | .ok c => adopting c
          | .error e => done (.error e), s) := by
  change (done (storeIndex place) >>= fun index => credentialAt index >>= adopting).advance w s = _
  unfold pick
  cases storeIndex place with
  | error e => rfl
  | ok index =>
    have hview : loadCredentials.view s = stored s :=
      congrArg Prod.fst (run_loadCredentials .none s)
    change ((done (loadCredentials.view s) >>= fun cs =>
      match if index < 0 then none else cs[index.toNat]? with
      | some c => pure c
      | none => fail .indexOutOfRange) >>= adopting, s) = _
    rw [hview]
    cases stored s with
    | error e => rfl
    | ok cs =>
      change ((match if index < 0 then none else cs[index.toNat]? with
        | some c => pure c
        | none => fail .indexOutOfRange) >>= adopting, s) = _
      simp only [Except.bind]
      cases if index < 0 then none else cs[index.toNat]? <;> rfl

/-- **Then it reads the settings.** -/
theorem advance_adopting (c : Credential) (w : Surroundings) (s : σ) :
    (adopting c).advance w s
      = (if Backend.hasBucket s Slot.settings.bucket then
          match (Slot.settings.record s : Except Error (Option Settings)) with
          | .ok _ => storing c
          | .error e => done (.error e)
        else makingBucket c, s) := by
  unfold adopting settings
  rw [bind_assoc, advance_loadRecord_bind]
  cases Backend.hasBucket s Slot.settings.bucket with
  | false => rfl
  | true => cases (Slot.settings.record s : Except Error (Option Settings)) <;> rfl

theorem advance_makingBucket (c : Credential) (hw : w.fault = .none) (s : σ) :
    (makingBucket c).advance w s
      = (storing c, Backend.createBucket s Slot.settings.bucket) := by
  unfold makingBucket
  rw [advance_bind rfl, advance_updated, hw]
  rfl

variable [LawfulBackend σ]

/-- **At last it writes the settings.** -/
theorem advance_storing (c : Credential) (hw : w.fault = .none) (s : σ) :
    ∃ s', (storing c).advance w s = (done (.ok c.inUse), s')
      ∧ Slot.settings.Sets (Record.encode c.inUse) s s' := by
  obtain ⟨s', hupdate, hsets⟩ := Slot.settings.exists_update_store c.inUse s
  refine ⟨s', ?_, hsets⟩
  change (updated (Slot.settings.store c.inUse) >>= fun _ => pure c.inUse).advance w s = _
  rw [advance_bind rfl, advance_updated, hw, hupdate]
  rfl

/-- **A change of the list takes one turn.** -/
theorem advance_changeCredentials {α : Type}
    (change : List Credential → Except Error (α × List Credential)) (hw : w.fault = .none)
    (s : σ) :
    ∃ s', (changeCredentials change).advance w s = (done ((foundBy change s).map (·.1)), s')
      ∧ Altered s (foundBy change s) s' := by
  have hresult : ((changing change).update .none s).1
      = WriteFault.none.replyTo ((foundBy change s).map (·.1)) := result_changing .none s
  rw [changeCredentials_eq, advance_updated, hw]
  cases hfound : foundBy change s with
  | error e =>
    rw [hfound] at hresult
    refine ⟨s, ?_, .failed⟩
    rw [Transaction.update_of_error hresult, hresult]
    rfl
  | ok found =>
    obtain ⟨a, left⟩ := found
    obtain ⟨s', hupdate, hsets⟩ := update_changing_none hfound
    refine ⟨s', ?_, .altered hsets⟩
    rw [hupdate]
    rfl

end Command

/-- A change of the list by places takes one turn as well. -/
theorem advance_removeCredentials [LawfulBackend σ] (places : List Int64) {w : Surroundings}
    (hw : w.fault = .none) (s : σ) :
    ∃ s', (Client.removeCredentials places).advance w s
        = (done ((removal places (stored s)).map (·.1)), s')
      ∧ Altered s (removal places (stored s)) s' := by
  have hmany : ∃ s', (removePlaces places).advance w s
        = (done (((places.mapM storeIndex).bind fun indices =>
          (stored s).bind (removeAll indices)).map (·.1)), s')
      ∧ Altered s ((places.mapM storeIndex).bind fun indices =>
          (stored s).bind (removeAll indices)) s' := by
    unfold removePlaces
    cases places.mapM storeIndex with
    | error e => exact ⟨s, rfl, .failed⟩
    | ok indices => exact advance_changeCredentials (removeAll indices) hw s
  match places with
  | [] => exact hmany
  | _ :: _ :: _ => exact hmany
  | [place] =>
    change ∃ s',
      ((done (storeIndex place) >>= removeCredentialAt) >>= fun c => pure [c]).advance w s
        = (done (((storeIndex place).bind fun index =>
          ((stored s).bind (removeAt index)).map fun found => ([found.1], found.2)).map (·.1)), s')
      ∧ Altered s ((storeIndex place).bind fun index =>
          ((stored s).bind (removeAt index)).map fun found => ([found.1], found.2)) s'
    cases storeIndex place with
    | error e => exact ⟨s, rfl, .failed⟩
    | ok index =>
      obtain ⟨s', hturn, haltered⟩ := advance_changeCredentials (removeAt index) hw s
      change ∃ s', (changeCredentials (removeAt index) >>= fun c => pure [c]).advance w s
          = (done ((((stored s).bind (removeAt index)).map fun found =>
            ([found.1], found.2)).map (·.1)), s')
        ∧ Altered s (((stored s).bind (removeAt index)).map fun found => ([found.1], found.2)) s'
      rw [advance_bind rfl, hturn]
      unfold foundBy at haltered ⊢
      generalize (stored s).bind (removeAt index) = found at haltered
      cases haltered with
      | altered hsets => exact ⟨s', rfl, .altered hsets⟩
      | failed => exact ⟨s, rfl, .failed⟩

/-- **A change of the list takes one turn.** -/
theorem Alteration.advance [LawfulBackend σ] (client : Client) (a : Alteration) {w : Surroundings}
    (hw : w.fault = .none) (s : σ) :
    ∃ s', (client.perform a.operation).advance w s
        = (done ((a.alter client (stored s)).map (·.1)), s')
      ∧ Altered s (a.alter client (stored s)) s' := by
  cases a with
  | add name secret => exact advance_changeCredentials _ hw s
  | removeNamed name => exact advance_changeCredentials _ hw s
  | remove places => exact advance_removeCredentials places hw s

/-! ## 4. A call under way

A call that has begun has read what it needs, and its remaining turns do not read the list again. -/

/-- **How far a choice has come** that found a credential.  It has the settings still to read, then
perhaps a bucket to make, and then the settings to write. -/
inductive Adopts (c : Credential) (readable : Except Error Unit) : Command Settings → Prop
  | adopting : Adopts c readable (adopting c)
  | makingBucket (h : readable = .ok ()) : Adopts c readable (makingBucket c)
  | storing (h : readable = .ok ()) : Adopts c readable (storing c)

/-- **How far a call has come.**  A choice that found its credential did so in this list, which
others may have changed since. -/
inductive Underway (held : Except Error (List Credential)) (readable : Except Error Unit) :
    (call : SecretCall) → Command call.step.Answer → Prop
  | fresh (call : SecretCall) : Underway held readable call call.step.command
  | adopts {client : Client} {place : Int64} {c : Credential} {rest : Command Settings}
      (hpick : pick place held = .ok c) (h : Adopts c readable rest) :
    Underway held readable (.choose client place) rest

/-- The secrets that a call leaves, from its reply. -/
def Secrets.after (x : Secrets) (call : SecretCall) (reply : Reply) : Secrets :=
  ⟨call.listAfter x.list, reply.settles x.settings⟩

/-- **What a turn makes of a call** and the store: the call goes on, or it ends with the answer that
it gives on a list. -/
inductive Turned (x : Secrets) (call : SecretCall) (held : Except Error (List Credential)) :
    Command call.step.Answer × σ → Prop
  | goesOn {left : Command call.step.Answer} {s' : σ} (hleft : left.ended? = none)
      (h : Underway held x.readable call left) (hs : x.In s') : Turned x call held (left, s')
  | ends {s' : σ} (hs : (x.after call (call.reply held x.readable)).In s') :
    Turned x call held (done (call.answer held x.readable), s')

variable {x : Secrets} {s : σ} {w : Surroundings}

/-- A choice that fails leaves the secrets as they are. -/
theorem turned_choose_of_error {client : Client} {place : Int64}
    {held : Except Error (List Credential)} {e : Error}
    (h : (SecretCall.choose client place).answer held x.readable = .error e) (hs : x.In s) :
    Turned x (.choose client place) held (done (.error e), s) := by
  rw [← h]
  refine .ends ?_
  have hnone : ((SecretCall.choose client place).reply held x.readable).chosen? = none := by
    rw [SecretCall.reply, h]
    rfl
  have hafter : x.after (.choose client place)
      ((SecretCall.choose client place).reply held x.readable) = x := by
    simp only [Secrets.after, Reply.settles, hnone]
    rfl
  rwa [hafter]

theorem turned_choose (client : Client) (place : Int64) (hs : x.In s) :
    Turned x (.choose client place) x.list ((setActive place).advance w s) := by
  rw [advance_setActive, hs.list]
  cases hpick : pick place x.list with
  | error e =>
    refine turned_choose_of_error ?_ hs
    simp only [SecretCall.answer, hpick, Except.bind]
  | ok c => exact .goesOn rfl (.adopts hpick .adopting) hs

variable [LawfulBackend σ]

theorem turned_alter (client : Client) (a : Alteration) (hs : x.In s) (hw : w.fault = .none) :
    Turned x (.alter client a) x.list ((client.perform a.operation).advance w s) := by
  obtain ⟨s', hturn, haltered⟩ := a.advance client hw s
  rw [hs.list] at hturn haltered
  rw [hturn]
  refine .ends ?_
  have hafter : x.after (.alter client a) ((SecretCall.alter client a).reply x.list x.readable)
      = ⟨(SecretCall.alter client a).listAfter x.list, x.settings⟩ := by
    simp only [Secrets.after, Reply.settles, SecretCall.chosen?_alter]
  have hlist : (SecretCall.alter client a).listAfter x.list
      = match a.alter client x.list with
        | .ok (_, left) => .ok left
        | .error _ => x.list := rfl
  rw [hafter, hlist]
  generalize a.alter client x.list = found at haltered
  cases haltered with
  | altered hsets => exact hs.setList hsets
  | failed => exact hs

theorem Adopts.turned {client : Client} {place : Int64} {held : Except Error (List Credential)}
    {c : Credential} {rest : Command Settings} (h : Adopts c x.readable rest)
    (hpick : pick place held = .ok c) (hs : x.In s) (hw : w.fault = .none) :
    Turned x (.choose client place) held (rest.advance w s) := by
  have hanswer : (SecretCall.choose client place).answer held x.readable
      = x.readable.map fun _ => c.inUse := by
    simp only [SecretCall.answer, hpick, Except.bind]
  cases h with
  | adopting =>
    rw [advance_adopting]
    cases hbucket : Backend.hasBucket s Slot.settings.bucket with
    | false =>
      have hnone : (Slot.settings.record s : Except Error (Option Settings)) = .ok none :=
        Slot.record_of_held_none (hs.tidy hbucket)
      have hreadable : x.readable = .ok () := by
        rw [Secrets.readable, ← hs.settings, hnone]
        rfl
      exact .goesOn rfl (.adopts hpick (.makingBucket hreadable)) hs
    | true =>
      rw [if_pos rfl, hs.settings]
      cases hsettings : x.settings with
      | error e =>
        refine turned_choose_of_error ?_ hs
        rw [hanswer, Secrets.readable, hsettings]
        rfl
      | ok found =>
        have hreadable : x.readable = .ok () := by
          rw [Secrets.readable, hsettings]
          rfl
        exact .goesOn rfl (.adopts hpick (.storing hreadable)) hs
  | makingBucket hreadable =>
    rw [advance_makingBucket c hw]
    exact .goesOn rfl (.adopts hpick (.storing hreadable)) hs.createBucket
  | storing hreadable =>
    obtain ⟨s', hturn, hsets⟩ := advance_storing c hw s
    rw [hreadable] at hanswer
    have hchosen : ((SecretCall.choose client place).reply held x.readable).chosen?
        = some c.inUse := by
      rw [SecretCall.chosen?_choose, hreadable]
      exact hanswer
    have hafter : x.after (.choose client place)
        ((SecretCall.choose client place).reply held x.readable)
        = { x with settings := .ok (some c.inUse) } := by
      simp only [Secrets.after, Reply.settles, hchosen]
      rfl
    have hend : (done (.ok c.inUse) : Command Settings)
        = done ((SecretCall.choose client place).answer held x.readable) := by
      rw [hreadable, hanswer]
      rfl
    rw [hturn, hend]
    refine .ends ?_
    rw [hafter]
    exact hs.setSettings hsets

/-- **The turn of a call**: a call that has not begun meets the list as it is now. -/
theorem Underway.advance {call : SecretCall} {held : Except Error (List Credential)}
    {rest : Command call.step.Answer} (h : Underway held x.readable call rest) (hs : x.In s)
    (hw : w.fault = .none) :
    ∃ held', (held' = held ∨ held' = x.list) ∧ Turned x call held' (rest.advance w s) := by
  cases h with
  | adopts hpick hadopts => exact ⟨held, .inl rfl, hadopts.turned hpick hs hw⟩
  | fresh =>
    refine ⟨x.list, .inr rfl, ?_⟩
    cases call with
    | alter client a => exact turned_alter client a hs hw
    | choose client place => exact turned_choose client place hs

/-! ## 5. A caller under way -/

open SecretCall

namespace Secrets

omit [LawfulBackend σ]

/-- A call does not change whether the settings can be read. -/
theorem readable_after (call : SecretCall) (held : Except Error (List Credential)) :
    (x.after call (call.reply held x.readable)).readable = x.readable := by
  unfold after Reply.settles
  cases hchosen : (call.reply held x.readable).chosen? with
  | none => rfl
  | some settings =>
    cases call with
    | alter client a => exact absurd (hchosen.symm.trans (SecretCall.chosen?_alter client a)) nofun
    | choose client place =>
      rw [SecretCall.chosen?_choose] at hchosen
      cases hreadable : x.readable with
      | ok _ => rfl
      | error e =>
        have hfails : (pick place held).bind (fun _ => .error e) = .ok settings :=
          (congrArg _ hreadable).symm.trans hchosen
        generalize pick place held = found at hfails
        cases found <;> cases hfails

/-- The secrets that calls leave, one after another. -/
def afterAll (x : Secrets) (calls : List SecretCall) : Secrets :=
  ⟨listAfterAll calls x.list, settledBy (replies x.readable calls x.list) x.settings⟩

theorem afterAll_cons (x : Secrets) (call : SecretCall) (calls : List SecretCall) :
    x.afterAll (call :: calls) = (x.after call (call.reply x.list x.readable)).afterAll calls := by
  unfold afterAll
  rw [readable_after]
  rfl

theorem readable_afterAll (x : Secrets) (calls : List SecretCall) :
    (x.afterAll calls).readable = x.readable := by
  induction calls generalizing x with
  | nil => rfl
  | cons call calls ih => rw [afterAll_cons, ih, readable_after]

theorem afterAll_append (x : Secrets) (calls calls' : List SecretCall) :
    x.afterAll (calls ++ calls') = (x.afterAll calls).afterAll calls' := by
  induction calls generalizing x with
  | nil => rfl
  | cons call calls ih => rw [List.cons_append, afterAll_cons, afterAll_cons, ih]

end Secrets

/-- **How far a caller has come**: these calls are left, and the first may be under way.  The others
have not met the store yet. -/
inductive Makes (held : Except Error (List Credential)) (readable : Except Error Unit)
    (answered : List Reply) : List SecretCall → Caller → Prop
  | idle : Makes held readable answered [] ⟨answered, []⟩
  | busy {call : SecretCall} {rest : Command call.step.Answer}
      (h : Underway held readable call rest) (later : List SecretCall) :
    Makes held readable answered (call :: later)
      ⟨answered, ⟨call.step, rest⟩ :: (later.map step).map .start⟩

/-- **What a turn makes of a caller** and the store: its first call may end or not. -/
inductive MovedOn (x : Secrets) (held : Except Error (List Credential)) (answered : List Reply) :
    List SecretCall → Caller × σ → Prop
  | goesOn {todo : List SecretCall} {c : Caller} {s' : σ}
      (h : Makes held x.readable answered todo c) (hs : x.In s') :
    MovedOn x held answered todo (c, s')
  | answers {call : SecretCall} {later : List SecretCall} {c : Caller} {s' : σ}
      (h : ∀ held', Makes held' x.readable (answered ++ [call.reply held x.readable]) later c)
      (hs : (x.after call (call.reply held x.readable)).In s') :
    MovedOn x held answered (call :: later) (c, s')

namespace Makes

variable {held : Except Error (List Credential)} {answered : List Reply} {todo : List SecretCall}
  {c : Caller}

/-- A caller that is between its calls. -/
theorem between (held : Except Error (List Credential)) (readable : Except Error Unit)
    (answered : List Reply) (todo : List SecretCall) :
    Makes held readable answered todo ⟨answered, (todo.map step).map .start⟩ := by
  cases todo with
  | nil => exact .idle
  | cons call later => exact .busy (.fresh call) later

omit [LawfulBackend σ] in
/-- A caller with no call left has made them all. -/
theorem eq_nil_of_calls {readable : Except Error Unit} (h : Makes held readable answered todo c)
    (hcalls : c.calls = []) : todo = [] := by
  cases h with
  | idle => rfl
  | busy _ _ => cases hcalls

omit [LawfulBackend σ] in
theorem eq_of_nil {readable : Except Error Unit} (h : Makes held readable answered [] c) :
    c = ⟨answered, []⟩ := by
  cases h
  rfl

/-- **The turn of a caller.** -/
theorem advance (h : Makes held x.readable answered todo c) (hs : x.In s) (hw : w.fault = .none) :
    ∃ held', (held' = held ∨ held' = x.list) ∧ MovedOn x held' answered todo (c.advance w s) := by
  cases h with
  | idle => exact ⟨held, .inl rfl, .goesOn .idle hs⟩
  | @busy call rest h later =>
    obtain ⟨held', hheld, hturned⟩ := h.advance hs hw
    refine ⟨held', hheld, ?_⟩
    rw [Caller.advance_cons]
    generalize rest.advance w s = r at hturned
    cases hturned with
    | goesOn hleft h hs' =>
      unfold Caller.reaching Call.reply?
      rw [hleft]
      exact .goesOn (.busy h later) hs'
    | ends hs' => exact .answers (fun held' => .between held' _ _ later) hs'

/-- **The turn of a caller that alone changes the list.** -/
theorem advance_own (h : Makes x.list x.readable answered todo c) (hs : x.In s)
    (hw : w.fault = .none) :
    ∃ more later, todo = more ++ later
      ∧ Makes (x.afterAll more).list x.readable (answered ++ replies x.readable more x.list) later
        (c.advance w s).1
      ∧ (x.afterAll more).In (c.advance w s).2 := by
  obtain ⟨held, hheld, hmoved⟩ := h.advance hs hw
  obtain rfl : held = x.list := hheld.elim id id
  generalize c.advance w s = r at hmoved
  cases hmoved with
  | goesOn h' hs' =>
    refine ⟨[], todo, rfl, ?_, hs'⟩
    rw [replies, List.append_nil]
    exact h'
  | answers h' hs' => exact ⟨[_], _, rfl, h' _, hs'⟩

end Makes

/-- How far a caller has come that has the store for itself. -/
def Alone (x : Secrets) (calls : List SecretCall) (c : Caller) (s : σ) : Prop :=
  ∃ made todo, calls = made ++ todo
    ∧ Makes (x.afterAll made).list x.readable (replies x.readable made x.list) todo c
    ∧ (x.afterAll made).In s

theorem Alone.advances {calls : List SecretCall} {c : Caller} (h : Alone x calls c s)
    (hw : w.fault = .none) (n : Nat) :
    Alone x calls (c.advances w n s).1 (c.advances w n s).2 := by
  induction n generalizing c s with
  | zero => exact h
  | succ n ih =>
    obtain ⟨made, todo, rfl, hmakes, hs⟩ := h
    refine ih ?_
    rw [← x.readable_afterAll made] at hmakes
    obtain ⟨more, later, rfl, hmakes', hs'⟩ := hmakes.advance_own hs hw
    rw [x.readable_afterAll] at hmakes'
    refine ⟨made ++ more, later, (List.append_assoc _ _ _).symm, ?_, ?_⟩
    · rw [Secrets.afterAll_append, replies_append]
      exact hmakes'
    · rw [Secrets.afterAll_append]
      exact hs'

/-- **What a history of such calls comes to.** -/
theorem history_of_secretCalls (hs : x.In s) (hw : w.fault = .none) (calls : List SecretCall)
    (tick : Nat) :
    repliesDuring (fun _ => w) (history (fun _ => w) (calls.map step) tick s)
        = replies x.readable calls x.list
      ∧ (x.afterAll calls).In (storeAfter (fun _ => w) (calls.map step) tick s) := by
  have hstart : Alone x calls ⟨[], (calls.map step).map .start⟩ s :=
    ⟨[], calls, rfl, .between _ _ _ calls, hs⟩
  obtain ⟨n, hn⟩ := Caller.exists_advances_history w (calls.map step) tick s []
  obtain ⟨made, todo, rfl, hmakes, hs'⟩ := hstart.advances hw n
  rw [hn] at hmakes hs'
  obtain rfl : todo = [] := hmakes.eq_nil_of_calls rfl
  have hreplies := congrArg Caller.answered hmakes.eq_of_nil
  rw [List.append_nil] at hreplies hs' ⊢
  exact ⟨hreplies, hs'⟩

end Notekeeper
