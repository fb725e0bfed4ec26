import Notekeeper.Text.Search

/-!
# Where a piece of a text is found

A search for a piece of a text finds its first occurrence, or its last one, and fails only if there
is none.  An occurrence is a way to cut the text into what stands before the piece, the piece, and
what stands behind it.  Occurrences may overlap, and what stands before one of them tells it from
the others: two cuts with fronts of one length are the same (`cut_inj`).

So the first occurrence is the one with the shortest front and the last one that with the longest,
and either is unique.  That a search gives it is shown by recursion on the text, which is how the
searches go.  The search from the front tries the piece at the front first; if it does not stand
there, every cut takes the first character into its front.  The search from the end looks in the
rest of the text first, and only if the piece is not found there tries it at the front.

The two equivalences are all that later modules use of the searches: whoever knows where a piece
occurs knows what the search gives, and the other way round.

* `FirstAt`, `LastAt` : a text that is cut at the first or the last occurrence of a piece.
* `splitFirst_eq_some_iff`, `splitLast_eq_some_iff` : which occurrence is found.
* `splitFirst_eq_none_iff`, `splitLast_eq_none_iff` : when there is none.
* `lastAt_end` : a piece at the end of a text is the last one.
-/

namespace Notekeeper.Text

variable {piece text before after : List Char}

/-! ## 1. Marks -/

/-- A text is split at the mark between a part without it and the rest. -/
theorem splitAt_append {mark : Char} {before : List Char} (h : mark ∉ before)
    (after : List Char) : splitAt mark (before ++ mark :: after) = some (before, after) := by
  induction before with
  | nil => simp [splitAt]
  | cons c cs ih =>
    have hc : c ≠ mark := fun he => h (he ▸ List.mem_cons_self)
    have hcs : mark ∉ cs := fun hm => h (List.mem_cons_of_mem c hm)
    simp [splitAt, hc, ih hcs]

/-! ## 2. First occurrences -/

/-- **Whether a text is cut at the first occurrence of a piece.** -/
structure FirstAt (piece text before after : List Char) : Prop where
  cut : text = before ++ piece ++ after
  /-- No other occurrence begins earlier. -/
  first (before' after' : List Char) (h : text = before' ++ piece ++ after') :
    before.length ≤ before'.length

/-- Two cuts of a text at places of one length are the same. -/
theorem cut_inj {before' after' : List Char}
    (h : before ++ piece ++ after = before' ++ piece ++ after')
    (hlength : before.length = before'.length) : before = before' ∧ after = after' := by
  rw [List.append_assoc, List.append_assoc] at h
  obtain ⟨hbefore, hrest⟩ := List.append_inj h hlength
  exact ⟨hbefore, List.append_cancel_left hrest⟩

theorem FirstAt.unique {before' after' : List Char} (h : FirstAt piece text before after)
    (h' : FirstAt piece text before' after') : before = before' ∧ after = after' := by
  have hle := h.first before' after' h'.cut
  have hge := h'.first before after h.cut
  exact cut_inj (h.cut.symm.trans h'.cut) (by omega)

/-- **A search from the front fails only where the piece does not occur.** -/
theorem splitFirst_eq_none_iff :
    splitFirst piece text = none ↔ ∀ before after, text ≠ before ++ piece ++ after := by
  constructor
  · intro h before
    induction text generalizing before with
    | nil =>
      intro after hcut
      simp only [splitFirst, Option.map_eq_none_iff] at h
      obtain ⟨rfl, rfl, rfl⟩ : before = [] ∧ piece = [] ∧ after = [] := by
        simpa using hcut.symm
      cases h
    | cons c cs ih =>
      intro after hcut
      simp only [splitFirst] at h
      split at h
      · cases h
      · next hdrop =>
        cases before with
        | nil =>
          have hfront := dropPrefix?_eq_some.2 hcut
          cases hdrop.symm.trans hfront
        | cons b before =>
          obtain ⟨-, hcs⟩ := List.cons.inj hcut
          exact ih (Option.map_eq_none_iff.1 h) before after hcs
  · intro h
    cases hsplit : splitFirst piece text with
    | none => rfl
    | some found => exact absurd (splitFirst_eq_some hsplit) (h found.1 found.2)

theorem firstAt_of_splitFirst (h : splitFirst piece text = some (before, after)) :
    FirstAt piece text before after := by
  refine ⟨splitFirst_eq_some h, fun before' after' hcut => ?_⟩
  induction text generalizing before before' with
  | nil =>
    obtain ⟨_, -, hfound⟩ := Option.map_eq_some_iff.1 h
    cases hfound
    exact Nat.zero_le _
  | cons c cs ih =>
    simp only [splitFirst] at h
    split at h
    · cases h
      exact Nat.zero_le _
    · next hdrop =>
      obtain ⟨⟨b, a⟩, hfound, he⟩ := Option.map_eq_some_iff.1 h
      cases he
      -- The piece does not stand in front, so every cut comes after the first character.
      cases before' with
      | nil =>
        have hfront := dropPrefix?_eq_some.2 hcut
        cases hdrop.symm.trans hfront
      | cons b' before' =>
        obtain ⟨-, hcs⟩ := List.cons.inj hcut
        exact Nat.succ_le_succ (ih hfound before' hcs)

/-- **A search from the front finds the first occurrence**, and what it gives are the two parts
around it. -/
theorem splitFirst_eq_some_iff :
    splitFirst piece text = some (before, after) ↔ FirstAt piece text before after := by
  constructor
  · exact firstAt_of_splitFirst
  · intro h
    cases hsplit : splitFirst piece text with
    | none => exact absurd h.cut (splitFirst_eq_none_iff.1 hsplit before after)
    | some found =>
      obtain ⟨rfl, rfl⟩ := h.unique (firstAt_of_splitFirst hsplit)
      rfl

/-! ## 3. Last occurrences -/

/-- **Whether a text is cut at the last occurrence of a piece.** -/
structure LastAt (piece text before after : List Char) : Prop where
  cut : text = before ++ piece ++ after
  /-- No other occurrence begins later. -/
  last (before' after' : List Char) (h : text = before' ++ piece ++ after') :
    before'.length ≤ before.length

theorem LastAt.unique {before' after' : List Char} (h : LastAt piece text before after)
    (h' : LastAt piece text before' after') : before = before' ∧ after = after' := by
  have hge := h.last before' after' h'.cut
  have hle := h'.last before after h.cut
  exact cut_inj (h.cut.symm.trans h'.cut) (by omega)

/-- A piece at the end of a text is the last one. -/
theorem lastAt_end (piece text : List Char) : LastAt piece (text ++ piece) text [] := by
  refine ⟨(List.append_nil _).symm, fun before' after' h => ?_⟩
  have hlength := congrArg List.length h
  simp only [List.length_append] at hlength
  omega

/-- **A search from the end fails only where the piece does not occur.** -/
theorem splitLast_eq_none_iff :
    splitLast piece text = none ↔ ∀ before after, text ≠ before ++ piece ++ after := by
  constructor
  · intro h before
    induction text generalizing before with
    | nil =>
      intro after hcut
      simp only [splitLast, Option.map_eq_none_iff] at h
      obtain ⟨rfl, rfl, rfl⟩ : before = [] ∧ piece = [] ∧ after = [] := by
        simpa using hcut.symm
      cases h
    | cons c cs ih =>
      intro after hcut
      simp only [splitLast] at h
      split at h
      · cases h
      · next hrest =>
        cases before with
        | nil =>
          have hfront := dropPrefix?_eq_some.2 hcut
          cases (Option.map_eq_none_iff.1 h).symm.trans hfront
        | cons b before =>
          obtain ⟨-, hcs⟩ := List.cons.inj hcut
          exact ih hrest before after hcs
  · intro h
    cases hsplit : splitLast piece text with
    | none => rfl
    | some found => exact absurd (splitLast_eq_some hsplit) (h found.1 found.2)

theorem lastAt_of_splitLast (h : splitLast piece text = some (before, after)) :
    LastAt piece text before after := by
  refine ⟨splitLast_eq_some h, fun before' after' hcut => ?_⟩
  induction text generalizing before before' with
  | nil =>
    obtain ⟨rfl, -, -⟩ : before' = [] ∧ piece = [] ∧ after' = [] := by
      simpa using hcut.symm
    exact Nat.zero_le _
  | cons c cs ih =>
    cases before' with
    | nil => exact Nat.zero_le _
    | cons b' before' =>
      obtain ⟨-, hcs⟩ := List.cons.inj hcut
      simp only [splitLast] at h
      split at h
      · next b a hfound =>
        cases h
        exact Nat.succ_le_succ (ih hfound before' hcs)
      · next hrest => exact absurd hcs (splitLast_eq_none_iff.1 hrest before' after')

/-- **A search from the end finds the last occurrence**, which is the first one only if there are no
others. -/
theorem splitLast_eq_some_iff :
    splitLast piece text = some (before, after) ↔ LastAt piece text before after := by
  constructor
  · exact lastAt_of_splitLast
  · intro h
    cases hsplit : splitLast piece text with
    | none => exact absurd h.cut (splitLast_eq_none_iff.1 hsplit before after)
    | some found =>
      obtain ⟨rfl, rfl⟩ := h.unique (lastAt_of_splitLast hsplit)
      rfl

end Notekeeper.Text
