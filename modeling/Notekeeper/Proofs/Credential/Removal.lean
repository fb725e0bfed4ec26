import Mathlib.Data.List.Basic
import Notekeeper.Client
import Notekeeper.Proofs.Command.Report
import Notekeeper.Proofs.Credential.Changing

/-!
# Removing the credential at a place

A single credential is looked up by its place and then taken out by equality, while several are
taken out by position.  Asked for the one place twice, the second way removes the same credential
as the first one does, and so the two can be compared on every list.

Credentials that are equal cannot be told apart, so both ways give the same answer, and what is left
are the same credentials.  The order need not be the same.  Taking out by equality takes the first
one that is equal, and where an earlier twin stands, it goes in place of the one that was asked for.
When the order is the same is a question about lists: `as.erase a = as.eraseIdx i`, where `a` is the
item at `i`.  By induction on the list it comes down to this: the first twin may stand in front
only if nothing but twins stand between the two (`erase_eq_eraseIdx_iff`).

The rest follows the code.  The place is made an index, or it is the least number and has none; the
index is checked against the length; the list is read and changed in one update.  Both ways do this
alike, so that they fail alike and with the same error.  What they then do to the list is what the
question above was about.

* `CredentialList.erase_eq_eraseIdx_iff` : when the order is the same.
* `RemovalsCompare` : how the two ways go on one store.
* `removal_of_one_or_many` : this is how they go, on every store and for every place.
* `single_removal_takes_earlier_twin` : a list on which they differ.
-/

namespace Notekeeper

namespace CredentialList

/-! ## 1. Items taken out of a list

These are facts about any lists with decidable equality. -/

section Items

variable {α : Type}

theorem takeAt?_eq (as : List α) (i : Nat) :
    takeAt? i as = as[i]?.map fun a => (a, as.eraseIdx i) := by
  induction as generalizing i with
  | nil => cases i <;> rfl
  | cons a rest ih =>
    cases i with
    | zero => rfl
    | succ i =>
      simp only [takeAt?, ih, List.getElem?_cons_succ, List.eraseIdx_cons_succ, Option.map_map]
      rfl

/-- The item at a position comes first again once it is taken out, just when nothing else stood in
front of it. -/
theorem eq_cons_eraseIdx_iff {as : List α} {i : Nat} {a : α} (h : as[i]? = some a) :
    as = a :: as.eraseIdx i ↔ ∀ b ∈ as.take i, b = a := by
  induction as generalizing i with
  | nil => cases h
  | cons c rest ih =>
    cases i with
    | zero =>
      obtain rfl : c = a := Option.some.inj h
      simp
    | succ i =>
      have hrest := ih (i := i) h
      constructor
      · intro he
        rw [List.eraseIdx_cons_succ] at he
        obtain ⟨rfl, htail⟩ := List.cons.inj he
        intro b hb
        rcases List.mem_cons.1 hb with rfl | hb
        · rfl
        · exact hrest.1 htail b hb
      · intro hall
        obtain rfl : c = a := hall c List.mem_cons_self
        have htail := hrest.2 fun b hb => hall b (List.mem_cons_of_mem c hb)
        rw [List.eraseIdx_cons_succ, ← htail]

variable [DecidableEq α]

theorem takeFirst?_eq_of_mem {as : List α} {a : α} (h : a ∈ as) :
    takeFirst? (· == a) as = some (a, as.erase a) := by
  induction as with
  | nil => cases h
  | cons b rest ih =>
    by_cases hb : b = a
    · simp [takeFirst?, hb]
    · have hrest : a ∈ rest := (List.mem_cons.1 h).resolve_left fun he => hb he.symm
      simp [takeFirst?, hb, ih hrest]

/-- **When taking out the first of equal items leaves the same list** as taking out the one at a
position: when from the first one up to that position all items are equal. -/
theorem erase_eq_eraseIdx_iff {as : List α} {i : Nat} {a : α} (h : as[i]? = some a) :
    as.erase a = as.eraseIdx i ↔ ∀ b ∈ (as.take i).dropWhile (· ≠ a), b = a := by
  induction as generalizing i with
  | nil => cases h
  | cons c rest ih =>
    cases i with
    | zero =>
      obtain rfl : c = a := Option.some.inj h
      simp
    | succ i =>
      have hitem : rest[i]? = some a := h
      by_cases hc : c = a
      · -- The first of the equal items is here.
        subst hc
        have hfront := eq_cons_eraseIdx_iff hitem
        simpa using hfront
      · have hrest := ih hitem
        simpa [List.erase_cons, hc] using hrest

end Items

/-! ## 2. An index given once and given twice

Given twice, an index is one of several and the removal by position is used; it is still one index
once the indices are put in order. -/

theorem ascending_pair (i : Int) : ascending [i, i] = [i] := by
  simp [ascending, insertAscending]

theorem position_eq_ok {index : Int} {length n : Nat} :
    position index length = .ok n ↔ index = n ∧ n < length := by
  unfold position
  split <;> [skip; split] <;> simp <;> omega

variable {index : Int} {n : Nat} {c : Credential} {cs : List Credential}

/-- A single index is checked before anything is looked up. -/
theorem removeAt_of_error {e : Error} (h : position index cs.length = .error e) :
    removeAt index cs = .error e := by
  unfold removeAt
  rw [h]
  rfl

/-- The credential at a single index is taken out by equality. -/
theorem removeAt_of_position (h : position index cs.length = .ok n) (hc : cs[n]? = some c) :
    removeAt index cs = .ok (c, cs.erase c) := by
  have hmem : c ∈ cs := List.mem_of_getElem? hc
  unfold removeAt removeFirst
  rw [h]
  simp only [bind, Except.bind, hc, takeFirst?_eq_of_mem hmem]

theorem removeAll_pair (index : Int) (cs : List Credential) :
    removeAll [index, index] cs = match position index cs.length with
      | .error e => .error e
      | .ok n => match cs[n]? with
        | some c => .ok ([c], cs.eraseIdx n)
        | none => .error .indexTooBig := by
  unfold removeAll
  rw [ascending_pair]
  cases h : position index cs.length with
  | error e => simp [bind, Except.bind, h]
  | ok n =>
    cases hc : cs[n]? <;>
      simp [bind, Except.bind, pure, Except.pure, h, hc, takeAll?, takeAt?_eq]

/-- Both ways answer the same, with errors as well. -/
theorem map_removeAt (index : Int) (cs : List Credential) :
    (removeAt index cs).map (fun found => [found.1])
      = (removeAll [index, index] cs).map (·.1) := by
  rw [removeAll_pair]
  cases h : position index cs.length with
  | error e => rw [removeAt_of_error h]; rfl
  | ok n =>
    obtain ⟨-, hn⟩ := position_eq_ok.1 h
    have hc : cs[n]? = some cs[n] := List.getElem?_eq_getElem hn
    rw [removeAt_of_position h hc]
    simp only [hc]
    rfl

end CredentialList

/-! ## 3. A place in the list of a store -/

open CredentialList Command

variable {σ : Type} [Backend σ]

theorem run_removePlace (world : Nat → Surroundings) (tick : Nat) (s : σ) (place : Int64) :
    (Client.removeCredentials [place]).run world tick s = match storeIndex place with
      | .error e => { result := .error e, store := s, events := [], tick }
      | .ok index => match (changing (removeAt index)).update (world tick).fault s with
        | (reply, s') =>
          { result := reply.map ([·]), store := s', events := [], tick := tick + 1 } := by
  change (((done (storeIndex place)).bind removeCredentialAt).bind
    fun c => done (.ok [c])).run world tick s = _
  cases storeIndex place with
  | error e => rfl
  | ok index =>
    simp only [Command.bind, removeCredentialAt, changeCredentials_eq, updated, Command.run]
    cases (changing (removeAt index)).update (world tick).fault s with
    | mk reply s' => cases reply <;> rfl

theorem run_removePlaces_pair (world : Nat → Surroundings) (tick : Nat) (s : σ) (place : Int64) :
    (Client.removeCredentials [place, place]).run world tick s = match storeIndex place with
      | .error e => { result := .error e, store := s, events := [], tick }
      | .ok index => match (changing (removeAll [index, index])).update (world tick).fault s with
        | (reply, s') => { result := reply, store := s', events := [], tick := tick + 1 } := by
  unfold Client.removeCredentials removePlaces
  cases h : storeIndex place with
  | error e => simp only [List.mapM_cons, h]; rfl
  | ok index => simp only [List.mapM_cons, List.mapM_nil, h]; rfl

/-- **Removals of the credential at a place**, the place given once and given twice: how the two
go on one store. -/
structure RemovalsCompare (place : Int64) (fault : WriteFault) (s : σ)
    (once twice : Outcome σ (List Credential)) : Prop where
  /-- The answers are the same, and so are the errors. -/
  result : once.result = twice.result
  /-- Both go well if something stands at the place, and the store can be written. -/
  goesWell : (∃ removed, once.result = .ok removed) ↔
    fault = .none ∧ ∃ cs, stored s = .ok cs ∧ 1 ≤ place.toInt ∧ place.toInt ≤ cs.length
  /-- Neither leaves a trace when it fails. -/
  fails : ∀ e, once.result = .error e → once.store = s ∧ twice.store = s
  /-- They remove the same credential, but not from the same place of the list if an earlier one
  is equal to it. -/
  removes : ∀ removed, once.result = .ok removed →
    ∃ (cs : List Credential) (n : Nat) (c : Credential),
      stored s = .ok cs ∧ place.toInt = n + 1 ∧ cs[n]? = some c ∧ removed = [c]
      ∧ stored once.store = .ok (cs.erase c) ∧ stored twice.store = .ok (cs.eraseIdx n)
      ∧ (cs.erase c).Perm (cs.eraseIdx n)
      ∧ (cs.erase c = cs.eraseIdx n ↔ ∀ d ∈ (cs.take n).dropWhile (· ≠ c), d = c)

theorem storeIndex_eq_ok {place : Int64} {index : Int} (h : storeIndex place = .ok index) :
    place.toInt = index + 1 := by
  unfold storeIndex at h
  split at h
  · cases h
  · have := Except.ok.inj h
    omega

/-- Only the least place has no index. -/
theorem storeIndex_eq_error {place : Int64} {e : Error} (h : storeIndex place = .error e) :
    place.toInt < 1 := by
  unfold storeIndex at h
  split at h
  · next hleast => rw [hleast]; decide
  · cases h

variable [LawfulBackend σ] {fault : WriteFault} {s : σ} {index : Int} {c : Credential}

/-- The two updates answer the same. -/
theorem result_removals (fault : WriteFault) (index : Int) (s : σ) :
    ((changing (removeAt index)).update fault s).1.map ([·])
      = ((changing (removeAll [index, index])).update fault s).1 := by
  have hfound : ((foundBy (removeAt index) s).map (·.1)).map ([·])
      = (foundBy (removeAll [index, index]) s).map (·.1) := by
    unfold foundBy
    cases stored s with
    | error e => rfl
    | ok cs =>
      simp only [Except.bind]
      rw [← map_removeAt]
      cases removeAt index cs <;> rfl
  rw [result_changing, result_changing, ← WriteFault.replyTo_map, hfound]

/-- What the two updates leave when they go well. -/
theorem stored_removals (h : ((changing (removeAt index)).update fault s).1 = .ok c) :
    ∃ (cs : List Credential) (n : Nat), stored s = .ok cs ∧ index = n ∧ cs[n]? = some c
      ∧ stored ((changing (removeAt index)).update fault s).2 = .ok (cs.erase c)
      ∧ stored ((changing (removeAll [index, index])).update fault s).2
        = .ok (cs.eraseIdx n) := by
  have htwice : ((changing (removeAll [index, index])).update fault s).1 = .ok [c] := by
    rw [← result_removals, h]
    rfl
  obtain ⟨cs, left, hs, hchange, hsets⟩ := sets_of_changing h
  obtain ⟨cs', left', hs', hchange', hsets'⟩ := sets_of_changing htwice
  obtain rfl : cs' = cs := Except.ok.inj (hs'.symm.trans hs)
  cases hposition : position index cs'.length with
  | error e =>
    rw [removeAt_of_error hposition] at hchange
    cases hchange
  | ok n =>
    obtain ⟨hindex, hn⟩ := position_eq_ok.1 hposition
    have hc : cs'[n]? = some cs'[n] := List.getElem?_eq_getElem hn
    rw [removeAt_of_position hposition hc] at hchange
    rw [removeAll_pair, hposition] at hchange'
    simp only [hc] at hchange'
    cases hchange
    cases hchange'
    exact ⟨cs', n, hs, hindex, hc, stored_of_sets hsets, stored_of_sets hsets'⟩

/-- When the two updates go well. -/
theorem exists_removed_iff : (∃ c, ((changing (removeAt index)).update fault s).1 = .ok c) ↔
    fault = .none ∧ ∃ cs, stored s = .ok cs ∧ 0 ≤ index ∧ index < cs.length := by
  constructor
  · rintro ⟨c, h⟩
    obtain ⟨cs, n, hs, hindex, hc, -⟩ := stored_removals h
    obtain ⟨hn, -⟩ := List.getElem?_eq_some_iff.1 hc
    rw [result_changing] at h
    exact ⟨(WriteFault.replyTo_eq_ok.1 h).1, cs, hs, by omega, by omega⟩
  · rintro ⟨hfault, cs, hs, hleast, hmost⟩
    have hposition : position index cs.length = .ok index.toNat :=
      position_eq_ok.2 ⟨by omega, by omega⟩
    have hc : cs[index.toNat]? = some cs[index.toNat] := List.getElem?_eq_getElem (by omega)
    refine ⟨cs[index.toNat], ?_⟩
    rw [result_changing, WriteFault.replyTo_eq_ok, foundBy, hs]
    refine ⟨hfault, ?_⟩
    simp only [Except.bind, removeAt_of_position hposition hc]
    rfl

/-- **Removing one credential and removing several compared**, on every store and for every place.
They answer alike and leave the same credentials, and in the same order just if no earlier twin
stands apart from the place. -/
theorem removal_of_one_or_many (world : Nat → Surroundings) (tick : Nat) (s : σ) (place : Int64) :
    RemovalsCompare place (world tick).fault s
      ((Client.removeCredentials [place]).run world tick s)
      ((Client.removeCredentials [place, place]).run world tick s) := by
  rw [run_removePlace, run_removePlaces_pair]
  cases hindex : storeIndex place with
  | error e =>
    have hplace := storeIndex_eq_error hindex
    refine ⟨rfl, ⟨nofun, ?_⟩, fun _ _ => ⟨rfl, rfl⟩, nofun⟩
    rintro ⟨-, cs, -, hleast, -⟩
    omega
  | ok index =>
    have hplace := storeIndex_eq_ok hindex
    refine ⟨result_removals _ _ _, ?goesWell, ?fails, ?removes⟩
    case goesWell =>
      have hmap : ∀ reply : Except Error Credential,
          (∃ removed, reply.map ([·]) = .ok removed) ↔ ∃ c, reply = .ok c := by
        intro reply
        cases reply <;> simp [Except.map]
      rw [hmap, exists_removed_iff, hplace]
      simp only [and_congr_right_iff]
      intro _
      refine exists_congr fun cs => and_congr_right fun _ => ?_
      omega
    case fails =>
      intro e h
      have htwice := (result_removals (world tick).fault index s).symm.trans h
      refine ⟨Transaction.update_of_error (e := e) ?_, Transaction.update_of_error htwice⟩
      cases honce : ((changing (removeAt index)).update (world tick).fault s).1 with
      | error e' => simpa [honce, Except.map] using h
      | ok c => simp [honce, Except.map] at h
    case removes =>
      intro removed h
      cases honce : ((changing (removeAt index)).update (world tick).fault s).1 with
      | error e => simp [honce, Except.map] at h
      | ok c =>
        obtain rfl : [c] = removed := by simpa [honce, Except.map] using h
        obtain ⟨cs, n, hs, rfl, hc, hleft, hleft'⟩ := stored_removals honce
        obtain ⟨hn, rfl⟩ := List.getElem?_eq_some_iff.1 hc
        exact ⟨cs, n, cs[n], hs, hplace, hc, rfl, hleft, hleft', List.erase_getElem hn,
          erase_eq_eraseIdx_iff hc⟩

namespace Sample

def work : Credential := { name := "A", secret := "a" }

def home : Credential := { name := "B", secret := "b" }

/-- A store with a list whose first and last credential are equal. -/
def twins : Buckets := ((changing fun _ => .ok ((), [work, home, work])).update .none ⟨[]⟩).2

end Sample

/-- Asked for the last of three credentials, a single removal takes out the first one, which is
equal to it.  So the one in the middle comes first afterwards, and not last. -/
theorem single_removal_takes_earlier_twin :
    let once := (Client.removeCredentials [3]).run (fun _ => Sample.calm) 0 Sample.twins
    let twice := (Client.removeCredentials [3, 3]).run (fun _ => Sample.calm) 0 Sample.twins
    (stored Sample.twins).toOption = some [Sample.work, Sample.home, Sample.work]
      ∧ (stored once.store).toOption = some [Sample.home, Sample.work]
      ∧ (stored twice.store).toOption = some [Sample.work, Sample.home]
      ∧ stored once.store ≠ stored twice.store := by
  have hlists : (stored Sample.twins).toOption = some [Sample.work, Sample.home, Sample.work]
      ∧ (stored ((Client.removeCredentials [3]).run (fun _ => Sample.calm) 0
        Sample.twins).store).toOption = some [Sample.home, Sample.work]
      ∧ (stored ((Client.removeCredentials [3, 3]).run (fun _ => Sample.calm) 0
        Sample.twins).store).toOption = some [Sample.work, Sample.home] := by decide +kernel
  obtain ⟨htwins, honce, htwice⟩ := hlists
  refine ⟨htwins, honce, htwice, fun hsame => ?_⟩
  rw [hsame, htwice] at honce
  revert honce
  decide

/-- The two ways compared there, at the place of the second twin. -/
theorem removal_compared_on_twins :
    RemovalsCompare 3 .none Sample.twins
      ((Client.removeCredentials [3]).run (fun _ => Sample.calm) 0 Sample.twins)
      ((Client.removeCredentials [3, 3]).run (fun _ => Sample.calm) 0 Sample.twins) :=
  removal_of_one_or_many (fun _ => Sample.calm) 0 Sample.twins 3

end Notekeeper
