import Notekeeper.Command.Credentials
import Notekeeper.Proofs.Store.Transaction

/-!
# Changes of the credential list

The credentials are one record, a list, and every change of them is one update: the list is read,
changed and written back.  This module tells what such an update does for a change of any kind, as
a function on lists that may fail; the modules after it put in the functions.

The update can end badly in three ways: the list cannot be read, the change refuses the list that
it finds, or the store fails.  What is found before anything is written is a function of the store
alone (`foundBy`), and the update is a match on it, after which the write takes place or does not
(`run_changing`).  From there the reply follows for every fault (`result_changing`): a store that
cannot begin says so first, then comes what was found, and a store that cannot keep the write says
so last.

An update that went well has read a list, and what the store holds now is the bytes of the changed
list in the slot and nothing else new.  An update that did not go well leaves the store as it was,
as every transaction does.  So a change takes place as it was asked for, or not at all.

* `CredentialList.stored` : the list that a store holds, empty where it holds none.
* `Command.changing` : the transaction of a change.
* `Command.result_changing` : what a change replies.
* `Command.sets_of_changing` : what the store holds after a change that went well.
-/

namespace Notekeeper

variable {σ : Type} [Backend σ] {α : Type}

/-! ## 1. The list in a store -/

namespace CredentialList

/-- **The credential list that a store holds**, empty where it holds none.  Where it cannot be read,
the error about that is given. -/
def stored (s : σ) : Except Error (List Credential) :=
  (Slot.credentials.record s).map (·.getD [])

/-- A list that was put into the store is the one that it holds. -/
theorem stored_of_sets {cs : List Credential} {s s' : σ}
    (h : Slot.credentials.Sets (Record.encode cs) s s') : stored s' = .ok cs := by
  rw [stored, Slot.record_of_held_encode h.held, ExactRecord.asWritten_eq]
  rfl

/-- Stores with the same bytes in the slot hold the same list. -/
theorem stored_congr {s s' : σ} (h : Slot.credentials.held s' = Slot.credentials.held s) :
    stored s' = stored s := by
  unfold stored Slot.record
  rw [h]

/-- The list is what the slot says. -/
theorem exists_record_of_stored {s : σ} {cs : List Credential} (h : stored s = .ok cs) :
    ∃ found, Slot.credentials.record s = .ok found ∧ found.getD [] = cs := by
  unfold stored at h
  cases hrecord : (Slot.credentials.record s : Except Error (Option (List Credential))) with
  | error e => rw [hrecord] at h; cases h
  | ok found => rw [hrecord] at h; exact ⟨found, rfl, Except.ok.inj h⟩

/-- A store holds a list where its slot says one, or none. -/
theorem exists_stored_iff {s : σ} : (∃ cs, stored s = .ok cs)
    ↔ ∃ found : Option (List Credential), Slot.credentials.record s = .ok found := by
  constructor
  · rintro ⟨cs, hcs⟩
    obtain ⟨found, hfound, -⟩ := exists_record_of_stored hcs
    exact ⟨found, hfound⟩
  · rintro ⟨found, hfound⟩
    exact ⟨found.getD [], by rw [stored, hfound]; rfl⟩

end CredentialList

namespace Command

/-! ## 2. Changes -/

/-- The transaction that changes the credential list. -/
def changing (change : List Credential → Except Error (α × List Credential)) : Transaction α := do
  let (a, left) ← .done (change (← loadCredentials))
  Slot.credentials.store left
  pure a

theorem changeCredentials_eq (change : List Credential → Except Error (α × List Credential)) :
    changeCredentials change = updated (changing change) := rfl

variable {change : List Credential → Except Error (α × List Credential)}

theorem run_loadCredentials (fault : WriteFault) (s : σ) :
    loadCredentials.run fault s = (CredentialList.stored s, s) := by
  unfold loadCredentials CredentialList.stored
  rw [Transaction.run_bind, Slot.run_load]
  cases (Slot.credentials.record s : Except Error (Option (List Credential))) <;> rfl

/-- What a change finds before it writes: its reply, and the list to be written. -/
def foundBy (change : List Credential → Except Error (α × List Credential)) (s : σ) :
    Except Error (α × List Credential) :=
  (CredentialList.stored s).bind change

theorem run_changing (fault : WriteFault) (s : σ) : (changing change).run fault s
    = match foundBy change s with
      | .error e => (.error e, s)
      | .ok (a, left) => match (Slot.credentials.store left).run fault s with
        | (.ok _, s') => (.ok a, s')
        | (.error e, s') => (.error e, s') := by
  unfold changing foundBy
  rw [Transaction.run_bind, run_loadCredentials]
  cases CredentialList.stored s with
  | error e => rfl
  | ok cs =>
    simp only [Except.bind]
    rw [Transaction.run_bind]
    cases change cs with
    | error e => rfl
    | ok found =>
      obtain ⟨a, left⟩ := found
      simp only [Transaction.run]
      rw [Transaction.run_bind]
      cases (Slot.credentials.store left).run fault s with
      | mk result s' => cases result <;> rfl

variable [LawfulBackend σ]

/-- A change where nothing is in the way. -/
theorem update_changing_none {s : σ} {a : α} {left : List Credential}
    (h : foundBy change s = .ok (a, left)) :
    ∃ s', (changing change).update .none s = (.ok a, s')
      ∧ Slot.credentials.Sets (Record.encode left) s s' := by
  obtain ⟨s', hset, hsets⟩ := Slot.run_setBytes .credentials (Record.encode left) s
  have hstore : (Slot.credentials.store left).run .none s = (.ok (), s') := hset
  have hrun : (changing change).run .none s = (.ok a, s') := by
    rw [run_changing, h]
    simp only [hstore]
  exact ⟨s', Transaction.update_of_run hrun, hsets⟩

/-- **What a change of the list replies**: first that the store is locked, if it is, then what the
change found, and last that the store cannot be written. -/
theorem result_changing (fault : WriteFault) (s : σ) :
    ((changing change).update fault s).1 = fault.replyTo ((foundBy change s).map (·.1)) := by
  cases hfound : foundBy change s with
  | error e =>
    have hrun : (changing change).run fault s = (.error e, s) := by rw [run_changing, hfound]
    cases fault with
    | locked => rfl
    | none => exact congrArg Prod.fst (Transaction.update_of_run_error (by decide) hrun)
    | refused => exact congrArg Prod.fst (Transaction.update_of_run_error (by decide) hrun)
  | ok found =>
    obtain ⟨a, left⟩ := found
    cases fault with
    | locked => rfl
    | none =>
      obtain ⟨s', hupdate, -⟩ := update_changing_none hfound
      rw [hupdate]
      rfl
    | refused =>
      have hstore : (Slot.credentials.store left).run .refused s
          = (.error WriteFault.refusedError, s) := Slot.run_setBytes_refused _ _ _
      have hrun : (changing change).run .refused s = (.error WriteFault.refusedError, s) := by
        rw [run_changing, hfound]
        simp only [hstore]
      exact congrArg Prod.fst (Transaction.update_of_run_error (by decide) hrun)

/-- **The list after a change that went well** is what the change made of the one before. -/
theorem sets_of_changing {fault : WriteFault} {s : σ} {a : α}
    (h : ((changing change).update fault s).1 = .ok a) :
    ∃ cs left, CredentialList.stored s = .ok cs ∧ change cs = .ok (a, left)
      ∧ Slot.credentials.Sets (Record.encode left) s ((changing change).update fault s).2 := by
  rw [result_changing, WriteFault.replyTo_eq_ok] at h
  obtain ⟨rfl, hreply⟩ := h
  obtain ⟨left, hfound⟩ : ∃ left, foundBy change s = .ok (a, left) := by
    cases hfound : foundBy change s with
    | error e => rw [hfound] at hreply; cases hreply
    | ok found => rw [hfound] at hreply; cases hreply; exact ⟨found.2, rfl⟩
  obtain ⟨s', hupdate, hsets⟩ := update_changing_none hfound
  cases hstored : CredentialList.stored s with
  | error e =>
    rw [foundBy, hstored] at hfound
    cases hfound
  | ok cs =>
    rw [foundBy, hstored] at hfound
    exact ⟨cs, left, rfl, hfound, by rwa [hupdate]⟩

end Command
end Notekeeper
