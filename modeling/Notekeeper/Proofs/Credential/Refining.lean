import Notekeeper.Proofs.Credential.Positions
import Notekeeper.Proofs.Sharing.Crowd
import Notekeeper.Proofs.Store.Mishap

/-!
# The stored credentials as a plain list

A credential may be added, or taken out by its name, by equality or by its place, by any number of
clients and with anything going wrong with the store.  What the store holds is always what the same
requests make of a plain list, and every client is answered what the plain list answers.

A request is a change together with the mishaps of its update: the update may not begin, any
operation of it may fail, or the store may fail to keep it.  On the plain list the same mishaps are
met at the same points, written out in `ListChange.amid`: reading comes before the change, and
making the bucket and writing come after it.  So the plain list answers with the error of a mishap
where the stored one would, and is left as it was.

The step is one request.  If the store holds a list, the update of the store and the change of the
list give the same answer, the store then holds the changed list, and if the answer is an error the
store is as it was (`goesAs_amid`, `serve_of_stored`).  The run is by induction on the requests,
whoever makes them.  Requests of several clients may come in any order, but each is served in one
turn, as a change of the list is one update: this ties the requests to the commands of the clients
(`advance_command`).

* `ListChange.plain` : what each change makes of a plain list.
* `ListChange.amid` : the same with what goes wrong.
* `ListChange.Request.serve`, `ListChange.Request.onList` : one request, on a store and on a list.
* `ListChange.Request.refines_of_stored` : any number of them.
-/

namespace Notekeeper

open Command CredentialList

variable {σ : Type} [Backend σ] {α ι : Type}

/-! ## 1. Changes of a list -/

/-- **A change of the credential list.**  Indices are counted from zero; clients count places from
one and turn them into indices first. -/
inductive ListChange
  | add (c : Credential)
  | removeNamed (name : String)
  | remove (c : Credential)
  | removeAt (index : Int)
  | removeAll (indices : List Int)

namespace ListChange

/-- What a change answers when it succeeds. -/
@[reducible] def Answer : ListChange → Type
  | add _ | remove _ => Unit
  | removeNamed _ | removeAt _ => Credential
  | removeAll _ => List Credential

/-- The command that a change is. -/
def command : (change : ListChange) → Command change.Answer
  | add c => addCredential c
  | removeNamed name => removeCredentialNamed name
  | remove c => removeCredential c
  | removeAt index => removeCredentialAt index
  | removeAll indices => removeCredentialsAt indices

/-- **What a change answers on a plain list, and the list that it leaves.** -/
def plain : (change : ListChange) → List Credential →
    Except Error (change.Answer × List Credential)
  | add c, cs => .ok ((), cs ++ [c])
  | removeNamed name, cs =>
    match cs.find? (·.name == name) with
    | some c => .ok (c, cs.eraseP (·.name == name))
    | none => .error .noMatchingCredential
  | remove c, cs => if c ∈ cs then .ok ((), cs.erase c) else .error .noMatchingCredential
  | removeAt index, cs =>
    if index < 0 then .error .negativeIndex
    else match cs[index.toNat]? with
      | some c => .ok (c, cs.erase c)
      | none => .error .indexTooBig
  | removeAll indices, cs =>
    if ∃ i ∈ indices, i < 0 then .error .negativeIndex
    else if ∃ i ∈ indices, (cs.length : Int) ≤ i then .error .indexTooBig
    else .ok (atIndices indices cs)

/-- The update that a change is. -/
def update : (change : ListChange) → Transaction change.Answer
  | add c => changing fun cs => .ok ((), cs ++ [c])
  | removeNamed name => changing (removeFirst (·.name == name))
  | remove c => changing fun cs => (removeFirst (· == c) cs).map ((), ·.2)
  | removeAt index => changing (CredentialList.removeAt index)
  | removeAll indices => changing (CredentialList.removeAll indices)

theorem command_eq (change : ListChange) : change.command = updated change.update := by
  cases change <;> rfl

/-- **A change does to the stored list** what it does to the plain one. -/
theorem update_eq (change : ListChange) : change.update = changing change.plain := by
  cases change with
  | add c => rfl
  | removeNamed name => exact congrArg changing (funext fun cs => removeFirst_eq _ cs)
  | remove c => exact congrArg changing (funext fun cs => removeFirst_beq c cs)
  | removeAt index => exact congrArg changing (funext fun cs => removeAt_eq index cs)
  | removeAll indices => exact congrArg changing (funext fun cs => removeAll_eq indices cs)

/-! ## 2. What may go wrong

The mishaps are numbered by the operations of the update: reading is the first, then the bucket is
made, and last the list is written. -/

/-- The error of a mishap, if there is one. -/
def raised : Option Error → Except Error Unit
  | some e => .error e
  | none => .ok ()

/-- A change of a plain list with what goes wrong while the stored list is changed: the update
begins, the list is read, the bucket is made, what is left is written, and then it is kept. -/
def amid (m : Mishaps) (change : List Credential → Except Error (α × List Credential))
    (cs : List Credential) : Except Error (α × List Credential) := do
  let slot := Slot.credentials
  raised m.beginning
  raised (m.operation 0 (.get slot.bucket slot.key))
  let (a, left) ← change cs
  raised (m.operation 1 (.createBucket slot.bucket))
  raised (m.operation 2 (.put slot.bucket slot.key (Record.encode left)))
  raised m.ending
  pure (a, left)

/-- Whether an update of a store goes as it is told: it changes the list, or leaves no trace. -/
def GoesAs (told : Except Error (α × List Credential)) (s : σ) (r : Except Error α × σ) : Prop :=
  match told with
  | .error e => r = (.error e, s)
  | .ok (a, left) => r.1 = .ok a ∧ Slot.credentials.Sets (Record.encode left) s r.2

/-- **A change of the stored list amid mishaps goes as that of the plain list.**  The mishaps are
met in the order of the update, and the first one ends it. -/
theorem goesAs_amid [LawfulBackend σ] (m : Mishaps)
    (change : List Credential → Except Error (α × List Credential)) {s : σ}
    {cs : List Credential} (h : stored s = .ok cs) :
    GoesAs (amid m change cs) s ((changing change).updateAmid m s) := by
  obtain ⟨found, hrecord, rfl⟩ := CredentialList.exists_record_of_stored h
  have hload : changing change = Slot.credentials.load >>= fun found =>
      .done (change (found.getD [])) >>= fun changed =>
        Slot.credentials.store changed.2 >>= fun _ => pure changed.1 := by
    unfold changing loadCredentials
    rw [Transaction.bind_assoc]
    rfl
  unfold amid Transaction.updateAmid
  cases m.beginning with
  | some e => rfl
  | none =>
    simp only [hload, Transaction.runAmid_load_bind, hrecord]
    cases m.operation 0 (.get Slot.credentials.bucket Slot.credentials.key) with
    | some e => rfl
    | none =>
      cases change (found.getD []) with
      | error e => rfl
      | ok changed =>
        obtain ⟨a, left⟩ := changed
        obtain ⟨s₁, s', hsets, hstore⟩ := Transaction.runAmid_setBytes_bind m .credentials
          (Record.encode left) (fun _ => pure a) 1 s
        have hrun : (Transaction.done (.ok (a, left)) >>= fun changed =>
            Slot.credentials.store changed.2 >>= fun _ => pure changed.1).runAmid m (0 + 1) s
            = _ := hstore
        rw [hrun]
        change GoesAs (do
          raised (m.operation 1 (.createBucket Slot.credentials.bucket))
          raised (m.operation 2 (.put Slot.credentials.bucket Slot.credentials.key
            (Record.encode left)))
          raised m.ending
          pure (a, left)) s _
        cases m.operation 1 (.createBucket Slot.credentials.bucket) with
        | some e => rfl
        | none =>
          cases m.operation (1 + 1)
            (.put Slot.credentials.bucket Slot.credentials.key (Record.encode left)) with
          | some e => rfl
          | none =>
            cases m.ending with
            | some e => rfl
            | none => exact ⟨rfl, hsets⟩

/-- Where nothing goes wrong, a change is just that. -/
theorem amid_none (change : List Credential → Except Error (α × List Credential))
    (cs : List Credential) : amid {} change cs = change cs := by
  unfold amid
  cases change cs <;> rfl

/-! ## 3. Requests

Requests are served one at a time, as each is a single update.  Who asks does not matter to what
becomes of the list, but the answers go back to those who asked. -/

/-- **A request**: the change that a client asks for, and what goes wrong with its update. -/
structure Request (ι : Type) where
  who : ι
  change : ListChange
  mishaps : Mishaps := {}

/-- What a client is answered. -/
structure Answered (ι : Type) where
  who : ι
  change : ListChange
  result : Except Error change.Answer

namespace Request

/-- **What a request gives on a store**, and the store after it. -/
def serve (r : Request ι) (s : σ) : Except Error r.change.Answer × σ :=
  r.change.update.updateAmid r.mishaps s

/-- **What a request gives on a plain list**, and the list after it.  A mishap is met by the plain
list where it would be met by the stored one. -/
def onList (r : Request ι) (cs : List Credential) :
    Except Error r.change.Answer × List Credential :=
  match amid r.mishaps r.change.plain cs with
  | .ok (a, left) => (.ok a, left)
  | .error e => (.error e, cs)

/-- What requests give on a store, one after another. -/
def serveAll : List (Request ι) → σ → List (Answered ι) × σ
  | [], s => ([], s)
  | r :: later, s =>
    let after := serveAll later (r.serve s).2
    (⟨r.who, r.change, (r.serve s).1⟩ :: after.1, after.2)

/-- What requests give on a plain list, one after another. -/
def allOnList : List (Request ι) → List Credential → List (Answered ι) × List Credential
  | [], cs => ([], cs)
  | r :: later, cs =>
    let after := allOnList later (r.onList cs).2
    (⟨r.who, r.change, (r.onList cs).1⟩ :: after.1, after.2)

/-- A client that meets no more than a fault of the store has its request served in one turn. -/
theorem advance_command (r : Request ι) {w : Surroundings} (h : r.mishaps = w.fault.mishaps)
    (s : σ) : r.change.command.advance w s = (done (r.serve s).1, (r.serve s).2) := by
  rw [command_eq, advance_updated, Transaction.update_eq_updateAmid, ← h]
  rfl

variable [LawfulBackend σ]

/-- **One request on a store** that holds a list: the answer and the list are those of the plain
list, and a request that fails leaves no trace. -/
theorem serve_of_stored (r : Request ι) {s : σ} {cs : List Credential} (h : stored s = .ok cs) :
    (r.serve s).1 = (r.onList cs).1 ∧ stored (r.serve s).2 = .ok (r.onList cs).2
      ∧ ∀ e, (r.serve s).1 = .error e → (r.serve s).2 = s := by
  have hgoes : GoesAs (amid r.mishaps r.change.plain cs) s (r.serve s) := by
    rw [serve, update_eq]
    exact goesAs_amid r.mishaps r.change.plain h
  unfold onList
  cases htold : amid r.mishaps r.change.plain cs with
  | error e =>
    rw [htold] at hgoes
    have heq : r.serve s = (.error e, s) := hgoes
    rw [heq]
    exact ⟨rfl, h, fun _ _ => rfl⟩
  | ok changed =>
    obtain ⟨a, left⟩ := changed
    rw [htold] at hgoes
    obtain ⟨hanswer, hsets⟩ := hgoes
    refine ⟨hanswer, stored_of_sets hsets, fun e he => ?_⟩
    rw [hanswer] at he
    cases he

/-- **A stored list that goes the way of a plain one**, over some requests.  The first two fields
are what is refined; the others tie the requests to the program. -/
structure Refines (requests : List (Request ι)) (s : σ) (cs : List Credential) : Prop where
  /-- Every client is answered what the plain list answers. -/
  replies : (serveAll requests s).1 = (allOnList requests cs).1
  /-- The store holds what has become of the plain list. -/
  stored : CredentialList.stored (serveAll requests s).2 = .ok (allOnList requests cs).2
  /-- A request that fails leaves the store as it was. -/
  failed (before : List (Request ι)) (r : Request ι) (since : List (Request ι))
      (h : requests = before ++ r :: since) (e : Error)
      (he : (r.serve (serveAll before s).2).1 = .error e) :
    (r.serve (serveAll before s).2).2 = (serveAll before s).2
  /-- Where nothing goes wrong with a request, the plain list changes as it asks. -/
  unhindered (r : Request ι) (hr : r ∈ requests) (h : r.mishaps = {}) (cs' : List Credential) :
    amid r.mishaps r.change.plain cs' = r.change.plain cs'
  /-- The requests are the commands of the clients, each of which takes one turn. -/
  turns (r : Request ι) (hr : r ∈ requests) (w : Surroundings)
      (h : r.mishaps = w.fault.mishaps) (s' : σ) :
    r.change.command.advance w s' = (done (r.serve s').1, (r.serve s').2)

theorem serveAll_of_stored (requests : List (Request ι)) {s : σ} {cs : List Credential}
    (h : CredentialList.stored s = .ok cs) :
    (serveAll requests s).1 = (allOnList requests cs).1
      ∧ CredentialList.stored (serveAll requests s).2 = .ok (allOnList requests cs).2 := by
  induction requests generalizing s cs with
  | nil => exact ⟨rfl, h⟩
  | cons r later ih =>
    obtain ⟨hanswer, hstored, -⟩ := serve_of_stored r h
    obtain ⟨hanswers, hstored⟩ := ih hstored
    refine ⟨?_, hstored⟩
    simp only [serveAll, allOnList, hanswer, hanswers]

/-- **The stored credentials are a plain list**, over any number of requests, by any number of
clients and whatever goes wrong.  Nothing is asked of the store but that its list can be read when
the first request comes. -/
theorem refines_of_stored (requests : List (Request ι)) {s : σ} {cs : List Credential}
    (h : CredentialList.stored s = .ok cs) : Refines requests s cs where
  replies := (serveAll_of_stored requests h).1
  stored := (serveAll_of_stored requests h).2
  failed before r _ _ e he := by
    obtain ⟨-, hstored⟩ := serveAll_of_stored before h
    exact (serve_of_stored r hstored).2.2 e he
  unhindered r _ h cs' := by rw [h, amid_none]
  turns r _ _ h s' := r.advance_command h s'

end Request
end ListChange

namespace Sample

/-- Two clients ask in turns; the second of them finds the store locked once. -/
def requests : List (ListChange.Request (Fin 2)) :=
  [{ who := 0, change := .add home },
    { who := 1, change := .removeAll [0, 1], mishaps := WriteFault.locked.mishaps },
    { who := 1, change := .removeAt 2 },
    { who := 0, change := .removeAll [2, 0, 2] },
    { who := 1, change := .removeNamed "A" }]

end Sample

/-- The requests of the two clients refine the list of the twins, though one of them finds the store
locked.  None is left in the end. -/
theorem twins_refine_a_list :
    ListChange.Request.Refines Sample.requests Sample.twins [Sample.work, Sample.home, Sample.work]
      ∧ (ListChange.Request.allOnList Sample.requests
        [Sample.work, Sample.home, Sample.work]).2 = [] := by
  have hstored : stored Sample.twins = .ok [Sample.work, Sample.home, Sample.work] :=
    eq_ok_of_toOption (by decide +kernel)
  exact ⟨ListChange.Request.refines_of_stored Sample.requests hstored, by decide⟩

end Notekeeper
