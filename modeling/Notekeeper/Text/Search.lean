/-!
# Finding a piece of a text

A search splits a text at an occurrence of a piece: what stands before it and what follows it.

* `splitFirst_eq_some` , `splitLast_eq_some` : the two parts and the piece make up the text.
-/

namespace Notekeeper.Text

/-- What remains of a text that starts with `piece`. -/
def dropPrefix? : (piece text : List Char) → Option (List Char)
  | [], text => some text
  | _ :: _, [] => none
  | p :: ps, c :: cs => if p = c then dropPrefix? ps cs else none

/-- The text before and after the first occurrence of `piece`. -/
def splitFirst (piece : List Char) : List Char → Option (List Char × List Char)
  | [] => (dropPrefix? piece []).map ([], ·)
  | c :: cs =>
    match dropPrefix? piece (c :: cs) with
    | some rest => some ([], rest)
    | none => (splitFirst piece cs).map fun (before, after) => (c :: before, after)

/-- The text before and after the last occurrence of `piece`. -/
def splitLast (piece : List Char) : List Char → Option (List Char × List Char)
  | [] => (dropPrefix? piece []).map ([], ·)
  | c :: cs =>
    match splitLast piece cs with
    | some (before, after) => some (c :: before, after)
    | none => (dropPrefix? piece (c :: cs)).map ([], ·)

/-- The text before and after the first character `mark`. -/
def splitAt (mark : Char) : List Char → Option (List Char × List Char)
  | [] => none
  | c :: cs =>
    if c = mark then some ([], cs)
    else (splitAt mark cs).map fun (before, after) => (c :: before, after)

/-- A text cut at every character `mark`. -/
def cutAll (mark : Char) : List Char → List (List Char)
  | [] => [[]]
  | c :: cs =>
    match cutAll mark cs with
    | [] => []
    | piece :: pieces => if c = mark then [] :: piece :: pieces else (c :: piece) :: pieces

/-- The parts of a text between the characters `mark`. -/
def parts (mark : Char) (s : String) : List String := (cutAll mark s.toList).map String.ofList

/-- Whether `piece` occurs in a text. -/
def contains (piece text : List Char) : Bool := (splitFirst piece text).isSome

/-! ## What a split says -/

theorem dropPrefix?_eq_some {piece text rest : List Char} :
    dropPrefix? piece text = some rest ↔ text = piece ++ rest := by
  induction piece generalizing text with
  | nil => simp [dropPrefix?, eq_comm]
  | cons p ps ih =>
    cases text with
    | nil => simp [dropPrefix?]
    | cons c cs =>
      by_cases h : p = c
      · simp [dropPrefix?, h, ih]
      · simp [dropPrefix?, h, eq_comm]

theorem splitFirst_eq_some {piece text before after : List Char}
    (h : splitFirst piece text = some (before, after)) : text = before ++ piece ++ after := by
  induction text generalizing before with
  | nil =>
    simp only [splitFirst, Option.map_eq_some_iff] at h
    obtain ⟨rest, hr, he⟩ := h
    cases he
    simpa using dropPrefix?_eq_some.1 hr
  | cons c cs ih =>
    simp only [splitFirst] at h
    split at h
    · next rest hr =>
      cases h
      simpa using dropPrefix?_eq_some.1 hr
    · obtain ⟨⟨b, a⟩, hb, he⟩ := Option.map_eq_some_iff.1 h
      cases he
      simp [ih hb]

theorem splitLast_eq_some {piece text before after : List Char}
    (h : splitLast piece text = some (before, after)) : text = before ++ piece ++ after := by
  induction text generalizing before with
  | nil =>
    simp only [splitLast, Option.map_eq_some_iff] at h
    obtain ⟨rest, hr, he⟩ := h
    cases he
    simpa using dropPrefix?_eq_some.1 hr
  | cons c cs ih =>
    simp only [splitLast] at h
    split at h
    · next b a hb =>
      cases h
      simp [ih hb]
    · obtain ⟨rest, hr, he⟩ := Option.map_eq_some_iff.1 h
      cases he
      simpa using dropPrefix?_eq_some.1 hr

theorem splitAt_eq_some {mark : Char} {text before after : List Char}
    (h : splitAt mark text = some (before, after)) :
    text = before ++ mark :: after ∧ mark ∉ before := by
  induction text generalizing before with
  | nil => simp [splitAt] at h
  | cons c cs ih =>
    simp only [splitAt] at h
    split at h
    · next hc => cases h; simp [hc]
    · next hc =>
      obtain ⟨⟨b, a⟩, hb, he⟩ := Option.map_eq_some_iff.1 h
      cases he
      obtain ⟨h1, h2⟩ := ih hb
      simp [h1, h2, Ne.symm hc]

theorem splitAt_eq_none {mark : Char} {text : List Char} :
    splitAt mark text = none ↔ mark ∉ text := by
  induction text with
  | nil => simp [splitAt]
  | cons c cs ih =>
    by_cases hc : c = mark
    · simp [splitAt, hc]
    · simp [splitAt, hc, ih, Ne.symm hc]

/-- What follows the first `mark` is shorter than the text. -/
theorem length_of_splitAt {mark : Char} {text before after : List Char}
    (h : splitAt mark text = some (before, after)) : after.length < text.length := by
  rw [(splitAt_eq_some h).1]
  simp
  omega

end Notekeeper.Text
