import Notekeeper.Proofs.Credential.Positions

/-!
# Removing the credentials at several places

The user counts places from one, may give them in any order and more than once, and may give
numbers of any size.  All of them are checked before anything is taken out; then a loop takes the
credentials out front to back, each one from where it stands after the ones before it are gone.

Numbers of any size are 64 bit numbers, and counting from zero takes one off.  At the least of them
this would wrap around.  It is refused before the store is touched, and for all others the number
that comes out is the one below (`toInt_sub_one`).

What the removal does on a plain list is known for indices (`Credential/Positions`), and places say
the same with one added, so what is left to do is to restate it: which credentials stand at the
places and which are left, with the two errors.  Putting the indices in order makes one list of all
that hold the same numbers.  So neither the order of the places nor their repetition can matter
(`removePlaces_congr`).

That the loop stays in range is shown of the loop itself and not of its result.  `TakesInRange`
follows its turns, and asks of each that the subtraction does not go below zero and that the item is
there.  It holds as the positions ascend: each turn makes the list one shorter, and the least
position that may come one greater.

* `CredentialList.TakesInRange` : a run of the loop that never reaches outside of the list.
* `Command.removePlaces_congr` : only the set of places matters.
* `RemovesBatch` : what becomes of a stored list.
* `removesBatch_of_stored` : this is what becomes of every stored list, with any places.
-/

namespace Notekeeper

namespace CredentialList

/-! ## 1. The loop

The statement follows the turns of the loop, so that it would fail if any of them reached outside of
the list that is left. -/

section Loop

variable {α : Type} {taken : Nat} {positions : List Nat}

/-- **A run of the loop that stays in range**: each position is no less than the number of items
taken out so far, and there is an item where it then points to in the list that is left. -/
def TakesInRange (taken : Nat) : (positions : List Nat) → List α → Prop
  | [], _ => True
  | i :: rest, as =>
    taken ≤ i ∧ ∃ a left, takeAt? (i - taken) as = some (a, left)
      ∧ TakesInRange (taken + 1) rest left

/-- Every turn of the loop makes the list one shorter, and the least position one greater. -/
theorem takesInRange_of_pairwise (as : List α) (hsorted : positions.Pairwise (· < ·))
    (h : ∀ i ∈ positions, taken ≤ i ∧ i < taken + as.length) :
    TakesInRange taken positions as := by
  induction positions generalizing taken as with
  | nil => trivial
  | cons i rest ih =>
    obtain ⟨hfirst, hrest⟩ := List.pairwise_cons.1 hsorted
    obtain ⟨hleast, hmost⟩ := h i List.mem_cons_self
    have hi : i - taken < as.length := by omega
    have htake : takeAt? (i - taken) as = some (as[i - taken], as.eraseIdx (i - taken)) := by
      simp [takeAt?_eq, hi]
    refine ⟨hleast, _, _, htake, ih _ hrest fun j hj => ?_⟩
    have hlength := List.length_eraseIdx_of_lt hi
    have hlt := hfirst j hj
    have hbound := (h j (List.mem_cons_of_mem i hj)).2
    omega

end Loop

variable {is : List Int} {cs : List Credential}

/-- Positions that passed their checks are told by indices within the list. -/
theorem within_of_mapM_position {positions : List Nat}
    (h : (ascending is).mapM (position · cs.length) = .ok positions) :
    ∀ i ∈ is, 0 ≤ i ∧ i < cs.length := by
  intro i hi
  by_contra hbad
  have hbad' : ∃ j ∈ ascending is, j < 0 ∨ (cs.length : Int) ≤ j :=
    ⟨i, mem_ascending.2 hi, by omega⟩
  rw [mapM_position_of_bad (pairwise_ascending is) hbad'] at h
  cases h

/-- **The loop stays in range** on every list, for all positions that passed their checks.  These
are ascending, and each is less than the length of the list. -/
theorem takesInRange_of_position {positions : List Nat}
    (h : (ascending is).mapM (position · cs.length) = .ok positions) :
    TakesInRange 0 positions cs := by
  obtain ⟨positions', hmap, hsorted, hbounded, -⟩ :=
    mapM_position_ascending (within_of_mapM_position h)
  obtain rfl : positions = positions' := Except.ok.inj (h.symm.trans hmap)
  refine takesInRange_of_pairwise cs hsorted fun i hi => ⟨Nat.zero_le i, ?_⟩
  have := hbounded i hi
  omega

/-! ## 2. Places

A place is the index with one added.  The least number of 64 bits has no index, and is refused. -/

/-- The credentials at some places, counted from one, and the others: each as often as it stands
in the list, and in the order of the list. -/
def atPlaces (places : List Int64) (cs : List Credential) : List Credential × List Credential :=
  (((cs.zipIdx 1).filter fun item => (item.2 : Int) ∈ places.map Int64.toInt).map (·.1),
    ((cs.zipIdx 1).filter fun item => (item.2 : Int) ∉ places.map Int64.toInt).map (·.1))

/-- The numbers that places are turned into. -/
def indicesOf (places : List Int64) : List Int := places.map (·.toInt - 1)

theorem exists_mem_indicesOf {places : List Int64} {q : Int → Prop} :
    (∃ i ∈ indicesOf places, q i) ↔ ∃ p ∈ places, q (p.toInt - 1) := by
  simp [indicesOf]

theorem mem_indicesOf {places : List Int64} {n : Nat} :
    (n : Int) ∈ indicesOf places ↔ ((n + 1 : Nat) : Int) ∈ places.map Int64.toInt := by
  simp only [indicesOf, List.mem_map]
  refine exists_congr fun p => and_congr_right fun _ => ?_
  omega

/-- Places count from one what indices count from zero. -/
theorem atIndices_indicesOf (places : List Int64) (cs : List Credential) :
    atIndices (indicesOf places) cs = atPlaces places cs := by
  have hnumbers : cs.zipIdx 1 = cs.zipIdx.map fun item => (item.1, item.2 + 1) := List.zipIdx_succ
  simp only [atIndices, atPlaces, hnumbers, List.filter_map, List.map_map, Function.comp_def,
    mem_indicesOf]

end CredentialList

namespace Command

open CredentialList

/-- Counting from zero never wraps around. -/
theorem toInt_sub_one {place : Int64} {index : Int} (h : storeIndex place = .ok index) :
    (place - 1).toInt = index := by
  have hindex := storeIndex_eq_ok h
  have hleast : place ≠ Int64.minValue := by
    rintro rfl
    cases h
  have hleast' : place.toInt ≠ -2 ^ 63 := fun he => hleast (Int64.toInt_inj.1 he)
  have hlo := place.le_toInt
  have hhi := place.toInt_lt
  have hone : (1 : Int64).toInt = 1 := rfl
  rw [Int64.toInt_sub, hone, Int.bmod_eq_of_le] <;> omega

theorem mapM_storeIndex (places : List Int64) : places.mapM storeIndex
    = if Int64.minValue ∈ places then .error .negativeIndex else .ok (indicesOf places) := by
  induction places with
  | nil => rfl
  | cons p rest ih =>
    rw [List.mapM_cons, ih]
    by_cases hp : p = Int64.minValue
    · simp [storeIndex, hp]
      rfl
    · have hne : Int64.minValue ≠ p := fun he => hp he.symm
      by_cases hrest : Int64.minValue ∈ rest
      · simp [storeIndex, hp, hrest]
        rfl
      · simp [storeIndex, hp, hne, hrest, indicesOf]
        rfl

/-- The removal at indices that say the same of every number. -/
theorem removeAll_congr {is is' : List Int} (h : ∀ i, i ∈ is ↔ i ∈ is') :
    removeAll is = removeAll is' := by
  funext cs
  simp only [removeAll_eq, atIndices, h]

/-- **Only the set of places matters**, not their order and not how often one is given. -/
theorem removePlaces_congr {places places' : List Int64} (h : ∀ p, p ∈ places ↔ p ∈ places') :
    removePlaces places = removePlaces places' := by
  have hindices : ∀ i, i ∈ indicesOf places ↔ i ∈ indicesOf places' := by
    intro i
    simp only [indicesOf, List.mem_map, h]
  have hremove : removeCredentialsAt (indicesOf places) = removeCredentialsAt (indicesOf places') :=
    congrArg changeCredentials (removeAll_congr hindices)
  unfold removePlaces
  rw [mapM_storeIndex, mapM_storeIndex]
  by_cases hleast : Int64.minValue ∈ places
  · rw [if_pos hleast, if_pos ((h _).1 hleast)]
  · rw [if_neg hleast, if_neg fun hleast' => hleast ((h _).2 hleast')]
    exact hremove

end Command

/-! ## 3. Removals -/

open Command CredentialList

variable {σ : Type} [Backend σ]

theorem run_removePlaces_of_least {places : List Int64} (h : Int64.minValue ∈ places)
    (world : Nat → Surroundings) (tick : Nat) (s : σ) : (removePlaces places).run world tick s
      = { result := .error .negativeIndex, store := s, events := [], tick } := by
  unfold removePlaces
  rw [mapM_storeIndex, if_pos h]
  rfl

theorem run_removePlaces {places : List Int64} (h : Int64.minValue ∉ places)
    (world : Nat → Surroundings) (tick : Nat) (s : σ) : (removePlaces places).run world tick s
      = { result := ((changing (removeAll (indicesOf places))).update (world tick).fault s).1
          store := ((changing (removeAll (indicesOf places))).update (world tick).fault s).2
          events := []
          tick := tick + 1 } := by
  unfold removePlaces
  rw [mapM_storeIndex, if_neg h]
  rfl

/-- The error for places that are not all in a list. -/
def badPlace (places : List Int64) : Error :=
  if ∃ p ∈ places, p.toInt < 1 then .negativeIndex else .indexTooBig

/-- **What becomes of a stored list**, when the credentials at some places are to be removed.  The
last two fields are about the arithmetic on the way there. -/
structure RemovesBatch (places : List Int64) (cs : List Credential) (fault : WriteFault) (s : σ)
    (o : Outcome σ (List Credential)) : Prop where
  /-- It goes well if every place is in the list, and the store can be written. -/
  succeeds : (∃ removed, o.result = .ok removed)
    ↔ fault = .none ∧ ∀ p ∈ places, 1 ≤ p.toInt ∧ p.toInt ≤ cs.length
  /-- The credentials at the places are given back, each once and in ascending order, and exactly
  the others are left, in their order. -/
  removes : ∀ removed, o.result = .ok removed →
    removed = (atPlaces places cs).1 ∧ stored o.store = .ok (atPlaces places cs).2
  /-- A place outside of the list is told of, and first of all one in front of the list. -/
  refuses : fault ≠ .locked → (∃ p ∈ places, p.toInt < 1 ∨ cs.length < p.toInt) →
    o.result = .error (badPlace places)
  /-- No failure leaves a trace. -/
  fails : ∀ e, o.result = .error e → o.store = s
  /-- Counting from zero is done without wrapping around. -/
  counts : ∀ p ∈ places, ∀ index, storeIndex p = .ok index → (p - 1).toInt = index
  /-- The loop over the checked places never reaches outside of the list. -/
  inRange : ∀ indices positions, places.mapM storeIndex = .ok indices →
    (ascending indices).mapM (position · cs.length) = .ok positions → TakesInRange 0 positions cs

variable {places : List Int64} {cs : List Credential} {s : σ}

/-- What is found of the places, before anything is written. -/
theorem removeAll_indicesOf (places : List Int64) (cs : List Credential) :
    removeAll (indicesOf places) cs
      = if ∃ p ∈ places, p.toInt < 1 ∨ cs.length < p.toInt then .error (badPlace places)
        else .ok (atPlaces places cs) := by
  have hneg : (∃ i ∈ indicesOf places, i < 0) ↔ ∃ p ∈ places, p.toInt < 1 := by
    simp only [exists_mem_indicesOf]
    exact exists_congr fun p => and_congr_right fun _ => by omega
  have hbig : (∃ i ∈ indicesOf places, (cs.length : Int) ≤ i)
      ↔ ∃ p ∈ places, cs.length < p.toInt := by
    simp only [exists_mem_indicesOf]
    exact exists_congr fun p => and_congr_right fun _ => by omega
  rw [removeAll_eq, atIndices_indicesOf, badPlace]
  simp only [hneg, hbig, and_or_left, exists_or]
  by_cases h : ∃ p ∈ places, p.toInt < 1
  · simp only [h, true_or, if_true]
  · simp only [h, false_or, if_false]

/-- A list has a place for each of these places, or one of them is outside of it. -/
theorem within_iff : (∀ p ∈ places, 1 ≤ p.toInt ∧ p.toInt ≤ cs.length)
    ↔ ¬ ∃ p ∈ places, p.toInt < 1 ∨ cs.length < p.toInt := by
  constructor
  · rintro hwithin ⟨p, hp, hbad⟩
    have := hwithin p hp
    omega
  · intro hgood p hp
    by_contra hbad
    exact hgood ⟨p, hp, by omega⟩

variable [LawfulBackend σ] {fault : WriteFault}

theorem result_removeAll (hstored : stored s = .ok cs) :
    ((changing (removeAll (indicesOf places))).update fault s).1
      = fault.replyTo (if ∃ p ∈ places, p.toInt < 1 ∨ cs.length < p.toInt then
          .error (badPlace places) else .ok (atPlaces places cs).1) := by
  have hfound : foundBy (removeAll (indicesOf places)) s = removeAll (indicesOf places) cs := by
    rw [foundBy, hstored]
    rfl
  rw [result_changing, hfound, removeAll_indicesOf]
  split <;> rfl

/-- What is given back and what is left, when the removal goes well. -/
theorem removed_of_result (hstored : stored s = .ok cs) {removed : List Credential}
    (h : ((changing (removeAll (indicesOf places))).update fault s).1 = .ok removed) :
    removed = (atPlaces places cs).1
      ∧ stored ((changing (removeAll (indicesOf places))).update fault s).2
        = .ok (atPlaces places cs).2 := by
  obtain ⟨cs', left, hstored', hchange, hsets⟩ := sets_of_changing h
  obtain rfl : cs' = cs := Except.ok.inj (hstored'.symm.trans hstored)
  have hpair := hchange.symm.trans (removeAll_indicesOf places cs')
  split at hpair
  · cases hpair
  · rw [← Except.ok.inj hpair]
    exact ⟨rfl, stored_of_sets hsets⟩

/-- **Removing the credentials at several places**, from every stored list and for places of any
number, order and size.  Other places that are the same numbers in another order, or more often, do
the very same. -/
theorem removesBatch_of_stored (world : Nat → Surroundings) (tick : Nat) (places : List Int64)
    (hstored : stored s = .ok cs) : RemovesBatch places cs (world tick).fault s
      ((removePlaces places).run world tick s)
    ∧ ∀ places', (∀ p, p ∈ places' ↔ p ∈ places) →
      (removePlaces places').run world tick s = (removePlaces places).run world tick s := by
  refine ⟨?_, fun places' h => by rw [removePlaces_congr h]⟩
  have hcounts : ∀ p ∈ places, ∀ index, storeIndex p = .ok index → (p - 1).toInt = index :=
    fun p _ index h => toInt_sub_one h
  have hrange : ∀ indices positions, places.mapM storeIndex = .ok indices →
      (ascending indices).mapM (position · cs.length) = .ok positions →
      TakesInRange 0 positions cs := fun _ _ _ h => takesInRange_of_position h
  by_cases hleast : Int64.minValue ∈ places
  · -- The least place has no index, so the list is not even looked at.
    have hneg : ∃ p ∈ places, p.toInt < 1 := ⟨_, hleast, by decide⟩
    have hbad : ∃ p ∈ places, p.toInt < 1 ∨ cs.length < p.toInt := hneg.imp fun _ => .imp_right .inl
    rw [run_removePlaces_of_least hleast]
    refine ⟨⟨nofun, fun h => absurd hbad (within_iff.1 h.2)⟩, nofun, fun _ _ => ?_,
      fun _ _ => rfl, hcounts, hrange⟩
    rw [badPlace, if_pos hneg]
  · have hresult : ((changing (removeAll (indicesOf places))).update (world tick).fault s).1 = _ :=
      result_removeAll hstored
    rw [run_removePlaces hleast]
    refine ⟨⟨?goes, ?within⟩, ?removes, ?refuses, ?fails, hcounts, hrange⟩
    case goes =>
      rintro ⟨removed, h⟩
      obtain ⟨hfault, hfound⟩ := WriteFault.replyTo_eq_ok.1 (hresult.symm.trans h)
      refine ⟨hfault, within_iff.2 fun hbad => ?_⟩
      rw [if_pos hbad] at hfound
      cases hfound
    case within =>
      rintro ⟨hfault, hwithin⟩
      rw [if_neg (within_iff.1 hwithin), hfault] at hresult
      exact ⟨_, by rw [hfault]; exact hresult⟩
    case removes => exact fun removed h => removed_of_result hstored h
    case refuses =>
      intro hfault hbad
      rw [if_pos hbad] at hresult
      refine hresult.trans ?_
      cases hworld : (world tick).fault with
      | none => rfl
      | locked => exact absurd hworld hfault
      | refused => rfl
    case fails => exact fun e h => Transaction.update_of_error h

namespace Sample

/-- A store with four credentials, the first of which comes again. -/
def drawer : Buckets :=
  ((changing fun _ => .ok ((), [work, home, work, { name := "D", secret := "d" }])).update .none
    ⟨[]⟩).2

end Sample

/-- The second and the fourth credential are removed, whatever the order of their places, and the
first one and its twin stay. -/
theorem batch_removed_from_drawer :
    let cs := [Sample.work, Sample.home, Sample.work, { name := "D", secret := "d" }]
    RemovesBatch [4, 2, 4] cs .none Sample.drawer
        ((removePlaces [4, 2, 4]).run (fun _ => Sample.calm) 0 Sample.drawer)
      ∧ (removePlaces [2, 4]).run (fun _ => Sample.calm) 0 Sample.drawer
        = (removePlaces [4, 2, 4]).run (fun _ => Sample.calm) 0 Sample.drawer
      ∧ atPlaces [4, 2, 4] cs
        = ([Sample.home, { name := "D", secret := "d" }], [Sample.work, Sample.work]) := by
  intro cs
  have hstored : stored Sample.drawer = .ok cs := eq_ok_of_toOption (by decide +kernel)
  obtain ⟨hremoves, hsame⟩ :=
    removesBatch_of_stored (fun _ => Sample.calm) 0 [4, 2, 4] hstored
  exact ⟨hremoves, hsame [2, 4] (by simp), by decide⟩

end Notekeeper
