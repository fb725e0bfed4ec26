import Notekeeper.Proofs.Credential.Removal

/-!
# Taking items out of a list

Items are taken out of the credential list by a property or by their positions, with loops of the
program's own.  Here each loop is told by functions of plain lists, for which there are lemmas to
work with.

By a property, what is found and what is left are `find?` and `eraseP`.  By positions it takes more.
The loop goes through ascending positions and takes each item out of the list that the earlier turns
left, so that in that list it stands as many places further in front as items have been taken.
The number of items taken, `taken`, is the invariant: no position that is still to come is less.
In each turn either the front item has that number and is taken, or all positions are greater and
the front item is passed over (`takeAll?_cons_of_lt`).  So by induction on the list the items
found are those whose number is among the positions, and the items left are the others, in their
order (`takeAll?_eq`).

Positions come from indices that the user gave.  The indices are put in ascending order, each once,
and then checked one by one.  If all are within the list, they are the positions that they say.  If
one is not, the first bad one in this order gives the error, and since negative ones come first
the error tells whether any is negative.

* `CredentialList.takeFirst?_eq` : the first item with a property.
* `CredentialList.takeAll?_eq` : the items at ascending positions.
* `CredentialList.pairwise_ascending` : ascending indices are in order, each once.
* `CredentialList.removeAt_eq`, `CredentialList.removeAll_eq` : what the removals at one index and
  at some indices answer and leave.
-/

namespace Notekeeper.CredentialList

/-! ## 1. By a property -/

theorem takeFirst?_eq {α : Type} (p : α → Bool) (as : List α) :
    takeFirst? p as = (as.find? p).map fun a => (a, as.eraseP p) := by
  induction as with
  | nil => rfl
  | cons a rest ih =>
    cases h : p a with
    | true => simp [takeFirst?, h]
    | false =>
      simp only [takeFirst?, h, ih, List.find?_cons_of_neg, List.eraseP_cons_of_neg,
        Bool.false_eq_true, if_false, not_false_eq_true, Option.map_map]
      rfl

theorem removeFirst_eq (p : Credential → Bool) (cs : List Credential) : removeFirst p cs
    = match cs.find? p with
      | some c => .ok (c, cs.eraseP p)
      | none => .error .noMatchingCredential := by
  rw [removeFirst, takeFirst?_eq]
  cases cs.find? p <;> rfl

theorem removeFirst_beq (c : Credential) (cs : List Credential) :
    (removeFirst (· == c) cs).map ((), ·.2)
      = if c ∈ cs then .ok ((), cs.erase c) else .error .noMatchingCredential := by
  unfold removeFirst
  by_cases h : c ∈ cs
  · rw [takeFirst?_eq_of_mem h, if_pos h]
    rfl
  · have hnone : cs.find? (· == c) = none :=
      List.find?_eq_none.2 fun d hd he => h (eq_of_beq he ▸ hd)
    rw [takeFirst?_eq, hnone, if_neg h]
    rfl

/-! ## 2. By positions

The loop is a recursion on the list with the number of the item in front.  It is told for ascending
positions, each once, which is all that it is ever given. -/

section Positions

variable {α : Type} {taken : Nat} {positions : List Nat}

/-- An item in front of all positions is passed over. -/
theorem takeAll?_cons_of_lt (a : α) (as : List α) (hsorted : positions.Pairwise (· < ·))
    (h : ∀ i ∈ positions, taken < i) : takeAll? taken positions (a :: as)
      = (takeAll? (taken + 1) positions as).map fun (found, left) => (found, a :: left) := by
  induction positions generalizing taken as with
  | nil => rfl
  | cons i rest ih =>
    obtain ⟨hfirst, hrest⟩ := List.pairwise_cons.1 hsorted
    have hi : taken < i := h i List.mem_cons_self
    obtain ⟨n, hn⟩ : ∃ n, i - taken = n + 1 := ⟨i - taken - 1, by omega⟩
    have hn' : i - (taken + 1) = n := by omega
    simp only [takeAll?, hn, hn', takeAt?]
    cases takeAt? n as with
    | none => rfl
    | some found =>
      obtain ⟨b, left⟩ := found
      have hlater : ∀ j ∈ rest, taken + 1 < j := fun j hj => by
        have := hfirst j hj
        omega
      change (takeAll? (taken + 1) rest (a :: left)).bind _ = _
      rw [ih left hrest hlater]
      change _ = ((takeAll? (taken + 1 + 1) rest left).bind _).map _
      cases takeAll? (taken + 1 + 1) rest left <;> rfl

/-- Where ascending positions begin at the least one that they may be. -/
theorem exists_eq_cons_of_mem (hsorted : positions.Pairwise (· < ·))
    (h : ∀ i ∈ positions, taken ≤ i) (hmem : taken ∈ positions) :
    ∃ rest, positions = taken :: rest := by
  cases positions with
  | nil => cases hmem
  | cons i rest =>
    rcases List.mem_cons.1 hmem with rfl | hlater
    · exact ⟨rest, rfl⟩
    · have hlt := (List.pairwise_cons.1 hsorted).1 taken hlater
      have hle := h i List.mem_cons_self
      omega

/-- **The items at ascending positions**: those whose number is among them are found, and the
others are left, in their order. -/
theorem takeAll?_eq (as : List α) (hsorted : positions.Pairwise (· < ·))
    (h : ∀ i ∈ positions, taken ≤ i ∧ i < taken + as.length) :
    takeAll? taken positions as = some
      (((as.zipIdx taken).filter (·.2 ∈ positions)).map (·.1),
        ((as.zipIdx taken).filter (·.2 ∉ positions)).map (·.1)) := by
  induction as generalizing taken positions with
  | nil =>
    cases positions with
    | nil => rfl
    | cons i rest =>
      have hi := h i List.mem_cons_self
      simp only [List.length_nil] at hi
      omega
  | cons a as ih =>
    simp only [List.length_cons] at h
    by_cases hhere : taken ∈ positions
    · obtain ⟨rest, rfl⟩ := exists_eq_cons_of_mem hsorted (fun i hi => (h i hi).1) hhere
      obtain ⟨hfirst, hrest⟩ := List.pairwise_cons.1 hsorted
      have hbounds : ∀ i ∈ rest, taken + 1 ≤ i ∧ i < taken + 1 + as.length := fun i hi => by
        have hlt := hfirst i hi
        have hle := (h i (List.mem_cons_of_mem _ hi)).2
        omega
      -- The numbers of the other items are greater than the first position.
      have hmem : ∀ item ∈ as.zipIdx (taken + 1), (item.2 ∈ taken :: rest ↔ item.2 ∈ rest) :=
        fun item hitem => by
          have hlt : taken < item.2 := List.le_snd_of_mem_zipIdx hitem
          rw [List.mem_cons, or_iff_right (Nat.ne_of_gt hlt)]
      have hfound : (as.zipIdx (taken + 1)).filter (·.2 ∈ taken :: rest)
          = (as.zipIdx (taken + 1)).filter (·.2 ∈ rest) :=
        List.filter_congr fun item hitem => by simp only [hmem item hitem]
      have hleft : (as.zipIdx (taken + 1)).filter (·.2 ∉ taken :: rest)
          = (as.zipIdx (taken + 1)).filter (·.2 ∉ rest) :=
        List.filter_congr fun item hitem => by simp only [hmem item hitem]
      simp only [takeAll?, Nat.sub_self, takeAt?, ih hrest hbounds, List.zipIdx_cons,
        List.filter_cons, hfound, hleft, List.mem_cons_self, not_true_eq_false, decide_true,
        decide_false, if_true, Bool.false_eq_true, if_false, List.map_cons, bind, Option.bind]
    · have hlater : ∀ i ∈ positions, taken < i := fun i hi =>
        Nat.lt_of_le_of_ne (h i hi).1 fun he => hhere (he ▸ hi)
      have hbounds : ∀ i ∈ positions, taken + 1 ≤ i ∧ i < taken + 1 + as.length := fun i hi => by
        have hlt := hlater i hi
        have hle := (h i hi).2
        omega
      rw [takeAll?_cons_of_lt a as hsorted hlater, ih hsorted hbounds]
      simp [List.zipIdx_cons, hhere]

end Positions

/-! ## 3. By indices

Indices are integers that came from a user.  They may be negative, too large, out of order or given
twice. -/

theorem removeAt_eq (index : Int) (cs : List Credential) : removeAt index cs
    = if index < 0 then .error .negativeIndex
      else match cs[index.toNat]? with
        | some c => .ok (c, cs.erase c)
        | none => .error .indexTooBig := by
  by_cases hneg : index < 0
  · have hposition : position index cs.length = .error .negativeIndex := if_pos hneg
    rw [removeAt_of_error hposition, if_pos hneg]
  · rw [if_neg hneg]
    by_cases hbig : cs.length ≤ index.toNat
    · have hposition : position index cs.length = .error .indexTooBig := by
        rw [position, if_neg hneg, if_pos hbig]
      rw [removeAt_of_error hposition, List.getElem?_eq_none hbig]
    · have hposition : position index cs.length = .ok index.toNat := by
        rw [position, if_neg hneg, if_neg hbig]
      have hc : cs[index.toNat]? = some cs[index.toNat] := List.getElem?_eq_getElem (by omega)
      rw [removeAt_of_position hposition hc, hc]

theorem mem_insertAscending {i j : Int} {is : List Int} :
    j ∈ insertAscending i is ↔ j = i ∨ j ∈ is := by
  induction is with
  | nil => simp [insertAscending]
  | cons k rest ih =>
    unfold insertAscending
    split
    · simp
    · split
      · next h => simp [h]
      · simp only [List.mem_cons, ih]
        exact or_left_comm

theorem mem_ascending {i : Int} {is : List Int} : i ∈ ascending is ↔ i ∈ is := by
  induction is with
  | nil => rfl
  | cons j rest ih =>
    change i ∈ insertAscending j (ascending rest) ↔ _
    rw [mem_insertAscending, ih, List.mem_cons]

theorem pairwise_insertAscending (i : Int) {is : List Int} (h : is.Pairwise (· < ·)) :
    (insertAscending i is).Pairwise (· < ·) := by
  induction is with
  | nil => exact List.pairwise_singleton _ _
  | cons k rest ih =>
    obtain ⟨hk, hrest⟩ := List.pairwise_cons.1 h
    unfold insertAscending
    split
    · next hlt =>
      refine List.pairwise_cons.2 ⟨fun j hj => ?_, h⟩
      rcases List.mem_cons.1 hj with rfl | hj
      · exact hlt
      · exact Int.lt_trans hlt (hk j hj)
    · split
      · exact h
      · refine List.pairwise_cons.2 ⟨fun j hj => ?_, ih hrest⟩
        rcases mem_insertAscending.1 hj with rfl | hj
        · omega
        · exact hk j hj

/-- **Ascending indices** are in order, each once. -/
theorem pairwise_ascending (is : List Int) : (ascending is).Pairwise (· < ·) := by
  induction is with
  | nil => exact List.Pairwise.nil
  | cons i rest ih => exact pairwise_insertAscending i ih

/-- Indices within a length are the positions that they say. -/
theorem mapM_position {is : List Int} {length : Nat} (h : ∀ i ∈ is, 0 ≤ i ∧ i < length) :
    is.mapM (position · length) = .ok (is.map Int.toNat) := by
  induction is with
  | nil => rfl
  | cons i rest ih =>
    have hi := h i List.mem_cons_self
    have hhere : position i length = .ok i.toNat := by
      rw [position, if_neg (by omega), if_neg (by omega)]
    rw [List.mapM_cons, hhere, ih fun j hj => h j (List.mem_cons_of_mem i hj)]
    rfl

/-- Of ascending indices the first bad one says what is wrong, and it is negative if any is. -/
theorem mapM_position_of_bad {is : List Int} {length : Nat} (hsorted : is.Pairwise (· < ·))
    (h : ∃ i ∈ is, i < 0 ∨ (length : Int) ≤ i) : is.mapM (position · length)
      = .error (if ∃ i ∈ is, i < 0 then .negativeIndex else .indexTooBig) := by
  induction is with
  | nil => obtain ⟨i, hi, -⟩ := h; cases hi
  | cons i rest ih =>
    obtain ⟨hfirst, hrest⟩ := List.pairwise_cons.1 hsorted
    rw [List.mapM_cons]
    by_cases hneg : i < 0
    · rw [position, if_pos hneg, if_pos ⟨i, List.mem_cons_self, hneg⟩]
      rfl
    · have hnone : ¬ ∃ j ∈ rest, j < 0 := by
        rintro ⟨j, hj, hlt⟩
        have := hfirst j hj
        omega
      have hnone' : ¬ ∃ j ∈ i :: rest, j < 0 := by
        rintro ⟨j, hj, hlt⟩
        rcases List.mem_cons.1 hj with rfl | hj
        · exact hneg hlt
        · exact hnone ⟨j, hj, hlt⟩
      rw [if_neg hnone']
      by_cases hbig : length ≤ i.toNat
      · rw [position, if_neg hneg, if_pos hbig]
        rfl
      · have hlater : ∃ j ∈ rest, j < 0 ∨ (length : Int) ≤ j := by
          obtain ⟨j, hj, hbad⟩ := h
          rcases List.mem_cons.1 hj with rfl | hj
          · omega
          · exact ⟨j, hj, hbad⟩
        rw [position, if_neg hneg, if_neg hbig, ih hrest hlater, if_neg hnone]
        rfl

/-- The items of a list whose number is among indices, and the others. -/
def atIndices (is : List Int) (cs : List Credential) : List Credential × List Credential :=
  ((cs.zipIdx.filter fun item => (item.2 : Int) ∈ is).map (·.1),
    (cs.zipIdx.filter fun item => (item.2 : Int) ∉ is).map (·.1))

variable {is : List Int} {cs : List Credential}

/-- Good indices in ascending order are ascending positions. -/
theorem mapM_position_ascending (h : ∀ i ∈ is, 0 ≤ i ∧ i < cs.length) :
    ∃ positions, (ascending is).mapM (position · cs.length) = .ok positions
      ∧ positions.Pairwise (· < ·) ∧ (∀ n ∈ positions, n < cs.length)
      ∧ ∀ n : Nat, n ∈ positions ↔ (n : Int) ∈ is := by
  have hgood : ∀ i ∈ ascending is, 0 ≤ i ∧ i < cs.length := fun i hi => h i (mem_ascending.1 hi)
  refine ⟨(ascending is).map Int.toNat, mapM_position hgood, ?sorted, ?bounded, fun n => ?_⟩
  case sorted =>
    refine List.pairwise_map.2 ((pairwise_ascending is).imp_of_mem fun {i j} hi hj hlt => ?_)
    have hi := hgood i hi
    omega
  case bounded =>
    intro n hn
    obtain ⟨i, hi, rfl⟩ := List.mem_map.1 hn
    have hi := hgood i hi
    omega
  rw [List.mem_map]
  constructor
  · rintro ⟨i, hi, rfl⟩
    rw [Int.toNat_of_nonneg (hgood i hi).1]
    exact mem_ascending.1 hi
  · exact fun hn => ⟨n, mem_ascending.2 hn, rfl⟩

theorem removeAll_of_within (h : ∀ i ∈ is, 0 ≤ i ∧ i < cs.length) :
    removeAll is cs = .ok (atIndices is cs) := by
  obtain ⟨positions, hmap, hsorted, hbounded, hmem⟩ := mapM_position_ascending h
  have hwithin : ∀ n ∈ positions, 0 ≤ n ∧ n < 0 + cs.length := fun n hn =>
    ⟨Nat.zero_le n, by simpa using hbounded n hn⟩
  have htake := takeAll?_eq cs hsorted hwithin
  unfold removeAll
  rw [hmap]
  simp only [bind, Except.bind, htake, hmem, atIndices]

theorem removeAll_of_bad (h : ∃ i ∈ is, i < 0 ∨ (cs.length : Int) ≤ i) :
    removeAll is cs = .error (if ∃ i ∈ is, i < 0 then .negativeIndex else .indexTooBig) := by
  have hbad : ∃ i ∈ ascending is, i < 0 ∨ (cs.length : Int) ≤ i := by
    simpa only [mem_ascending] using h
  unfold removeAll
  rw [mapM_position_of_bad (pairwise_ascending is) hbad]
  simp only [mem_ascending]
  rfl

/-- **What the removal at some indices answers and leaves.**  A negative index is told of before one
that is too large, whatever their order. -/
theorem removeAll_eq (is : List Int) (cs : List Credential) : removeAll is cs
    = if ∃ i ∈ is, i < 0 then .error .negativeIndex
      else if ∃ i ∈ is, (cs.length : Int) ≤ i then .error .indexTooBig
      else .ok (atIndices is cs) := by
  by_cases hneg : ∃ i ∈ is, i < 0
  · obtain ⟨i, hi, hlt⟩ := hneg
    rw [removeAll_of_bad ⟨i, hi, .inl hlt⟩, if_pos ⟨i, hi, hlt⟩, if_pos ⟨i, hi, hlt⟩]
  · rw [if_neg hneg]
    by_cases hbig : ∃ i ∈ is, (cs.length : Int) ≤ i
    · obtain ⟨i, hi, hle⟩ := hbig
      rw [removeAll_of_bad ⟨i, hi, .inr hle⟩, if_neg hneg, if_pos ⟨i, hi, hle⟩]
    · rw [if_neg hbig]
      refine removeAll_of_within fun i hi => ⟨?_, ?_⟩
      · exact Int.not_lt.1 fun hlt => hneg ⟨i, hi, hlt⟩
      · exact Int.not_le.1 fun hle => hbig ⟨i, hi, hle⟩

end Notekeeper.CredentialList
