import Notekeeper.Proofs.Markup.Forest
import Notekeeper.Proofs.Markup.PlainText

/-!
# Markup read at offsets

Markup is kept as bytes.  It is read by looking for a bracket, an ampersand or a semicolon, and by
cutting the text at the offset where that is found or right behind it.  A text cannot be cut at an
offset that is past its end or inside of a character, but no such offset is ever met.

The reading in `Notekeeper.Markup.PlainText` goes character by character and has no offsets, so the
loop over offsets is written out here, with `none` for a cut that is not possible, and the two are
proved equal.  The loop keeps what it has read so far, and each of its turns looks for a bracket or
an ampersand in what is left, cuts there, and deals with the tag or the entity.

Why are all cuts possible?  An offset that was found is the size of the text in front of the
character that was looked for, and so a cut is possible there (`cutAt?_eq_some_iff`).  The four
characters that are looked for have one byte each, so that the offset right behind one is that of
the next character, and the piece between two of them can be cut out (`Encloses`).  An entity that
is too long, or that has no such name, is passed over by one byte, which is the ampersand.

The invariant of the loop is about one turn: it does what the scan does with the text at hand, and
what it leaves is shorter (`turn?_performs`).  By induction on the length the whole loop reads what
is scanned, and comes to every end that the scan comes to.

* `Text.cutAt?_eq_some_iff` : where a text can be cut.
* `PlainText.turn?_performs` : what one turn of the loop does, whatever text it has got to.
* `PlainText.readFrom_eq` : the whole loop reads what is scanned.
* `PlainText.fails_just_at_open_tag` : it fails at a tag that never ends, and never otherwise.
-/

namespace Notekeeper

/-! ## 1. Offsets

An offset counts bytes, and characters have one to four of them.  Cutting a text at an offset is
partial here, so that a cut inside of a character, or past the end, is something that can be seen.
-/

namespace Text

/-- The number of bytes of a character. -/
def width (c : Char) : Nat := Utf8.size [c]

theorem width_pos (c : Char) : 0 < width c := by
  unfold width Utf8.size Utf8.encode
  simp only [List.flatMap_cons, List.flatMap_nil, List.append_nil, Utf8.encodeChar]
  repeat' split
  all_goals exact Nat.succ_pos _

theorem size_cons (c : Char) (cs : List Char) : Utf8.size (c :: cs) = width c + Utf8.size cs := by
  simp [width, Utf8.size, Utf8.encode]

theorem size_append (before after : List Char) :
    Utf8.size (before ++ after) = Utf8.size before + Utf8.size after := by
  simp [Utf8.size, Utf8.encode]

/-- **A text cut at an offset**, which is counted in bytes; none if that is past the end or inside
of a character. -/
def cutAt? (offset : Nat) : List Char → Option (List Char × List Char)
  | [] => if offset = 0 then some ([], []) else none
  | c :: cs =>
    if offset = 0 then some ([], c :: cs)
    else if width c ≤ offset then
      (cutAt? (offset - width c) cs).map fun (before, after) => (c :: before, after)
    else none

/-- **A text can be cut** just where a part of it ends that is made of whole characters. -/
theorem cutAt?_eq_some_iff {offset : Nat} {cs before after : List Char} :
    cutAt? offset cs = some (before, after) ↔ cs = before ++ after ∧ Utf8.size before = offset := by
  induction cs generalizing offset before with
  | nil =>
    rw [cutAt?]
    constructor
    · intro h
      split at h
      · next hzero =>
        cases h
        exact ⟨rfl, hzero.symm⟩
      · cases h
    · rintro ⟨hcut, rfl⟩
      obtain ⟨rfl, rfl⟩ := List.append_eq_nil_iff.1 hcut.symm
      rfl
  | cons c cs ih =>
    rw [cutAt?]
    constructor
    · intro h
      split at h
      · next hzero =>
        cases h
        exact ⟨rfl, hzero.symm⟩
      · split at h
        · next hfits =>
          obtain ⟨⟨front, back⟩, hfront, he⟩ := Option.map_eq_some_iff.1 h
          cases he
          obtain ⟨rfl, hsize⟩ := ih.1 hfront
          refine ⟨rfl, ?_⟩
          rw [size_cons]
          omega
        · cases h
    · rintro ⟨hcut, rfl⟩
      cases before with
      | nil =>
        cases hcut
        rfl
      | cons b before =>
        obtain ⟨rfl, hcs⟩ := List.cons.inj hcut
        have hpos := width_pos c
        rw [size_cons, if_neg (by omega), if_pos (by omega), Nat.add_sub_cancel_left,
          ih.2 ⟨hcs, rfl⟩]
        rfl

/-- The offset of the first character of this kind. -/
def offsetOf? (p : Char → Bool) : List Char → Option Nat
  | [] => none
  | c :: cs => if p c then some 0 else (offsetOf? p cs).map (width c + ·)

/-- The offset of a character is where the text in front of it ends. -/
theorem exists_of_offsetOf? {p : Char → Bool} {cs : List Char} {offset : Nat}
    (h : offsetOf? p cs = some offset) :
    ∃ before c after, cs = before ++ c :: after ∧ Utf8.size before = offset
      ∧ p c = true ∧ ∀ d ∈ before, p d = false := by
  induction cs generalizing offset with
  | nil => cases h
  | cons c cs ih =>
    rw [offsetOf?] at h
    split at h
    · next hc =>
      cases h
      exact ⟨[], c, cs, rfl, rfl, hc, by simp⟩
    · next hc =>
      obtain ⟨offset, hoffset, rfl⟩ := Option.map_eq_some_iff.1 h
      obtain ⟨before, d, after, rfl, rfl, hd, hbefore⟩ := ih hoffset
      refine ⟨c :: before, d, after, rfl, size_cons c before, hd, ?_⟩
      intro e he
      rcases List.mem_cons.1 he with rfl | he
      · exact Bool.not_eq_true _ ▸ hc
      · exact hbefore e he

theorem forall_of_offsetOf?_eq_none {p : Char → Bool} {cs : List Char}
    (h : offsetOf? p cs = none) : ∀ c ∈ cs, p c = false := by
  induction cs with
  | nil => simp
  | cons c cs ih =>
    rw [offsetOf?] at h
    split at h
    · cases h
    · next hc =>
      intro d hd
      rcases List.mem_cons.1 hd with rfl | hd
      · exact Bool.not_eq_true _ ▸ hc
      · exact ih (Option.map_eq_none_iff.1 h) d hd

/-- **What stands between two offsets** of a text; none if it cannot be cut there, or if the second
one comes first. -/
def slice? (start stop : Nat) (cs : List Char) : Option (List Char) :=
  if start ≤ stop then
    (cutAt? stop cs).bind fun (front, _) => (cutAt? start front).map fun (_, middle) => middle
  else none

theorem slice?_append (before middle after : List Char) :
    slice? (Utf8.size before) (Utf8.size (before ++ middle)) (before ++ middle ++ after)
      = some middle := by
  have hle : Utf8.size before ≤ Utf8.size (before ++ middle) := by
    rw [size_append]
    exact Nat.le_add_right _ _
  have hfront : cutAt? (Utf8.size before) (before ++ middle) = some (before, middle) :=
    cutAt?_eq_some_iff.2 ⟨rfl, rfl⟩
  rw [slice?, if_pos hle, cutAt?_eq_some_iff.2 ⟨rfl, rfl⟩, Option.bind_some]
  simp only [hfront, Option.map_some]

/-- **A text whose first character, of one byte, encloses a piece of it** with another one. -/
structure Encloses (opener closer : Char) (cs inside after : List Char) (stop : Nat) : Prop where
  parts : cs = opener :: (inside ++ closer :: after)
  closed : closer ∉ inside
  offset : stop = 1 + Utf8.size inside
  /-- The piece can be cut out of the text, at the offsets next to it. -/
  slice : slice? 1 stop cs = some inside
  /-- So can what follows it. -/
  rest : cutAt? (stop + 1) cs = some (opener :: inside ++ [closer], after)

/-- The first closing character encloses what stands in front of it. -/
theorem exists_encloses {opener closer : Char} {tail : List Char} {stop : Nat}
    (hopener : width opener = 1) (hcloser : width closer = 1) (hne : opener ≠ closer)
    (h : offsetOf? (· = closer) (opener :: tail) = some stop) :
    ∃ inside after, Encloses opener closer (opener :: tail) inside after stop := by
  obtain ⟨before, c, after, hparts, rfl, hc, hbefore⟩ := exists_of_offsetOf? h
  obtain rfl : c = closer := of_decide_eq_true hc
  cases before with
  | nil => exact absurd (List.cons.inj hparts).1 hne
  | cons b inside =>
    obtain rfl : opener = b := (List.cons.inj hparts).1
    have hslice : slice? 1 (Utf8.size (opener :: inside)) (opener :: inside ++ c :: after)
        = some inside := by
      have hinside := slice?_append [opener] inside (c :: after)
      rwa [show Utf8.size [opener] = 1 from hopener] at hinside
    have hrest : cutAt? (Utf8.size (opener :: inside) + 1) (opener :: inside ++ c :: after)
        = some (opener :: inside ++ [c], after) := by
      refine cutAt?_eq_some_iff.2 ⟨by simp, ?_⟩
      rw [size_append]
      exact congrArg _ hcloser
    refine ⟨inside, after, hparts, fun hmem => ?_, ?_, hparts ▸ hslice, hparts ▸ hrest⟩
    · simpa using hbefore c (List.mem_cons_of_mem _ hmem)
    · rw [size_cons, hopener]

end Text

namespace PlainText

open Text

/-! ## 2. One turn

A turn looks for the next bracket or ampersand.  What stands in front of it is text, and the three
definitions for what comes then are the branches of the loop. -/

/-- **What a turn of the loop comes to.** -/
inductive Turn
  /-- There is nothing more to look for, and this is the last text. -/
  | ends (text : List Char)
  | fails (e : Error)
  /-- There is this much text, and more to read. -/
  | goesOn (text rest : List Char)

/-- The turn at a tag, which stands behind `text`. -/
def tagTurn? (text rest : List Char) : Option Turn :=
  match offsetOf? (· = '>') rest with
  | none => some (.fails unterminated)
  | some stop =>
    (slice? 1 stop rest).bind fun tag =>
      (cutAt? (stop + 1) rest).map fun (_, after) =>
        .goesOn (text ++ lineBreak (breaksLine tag = true)) after

/-- The turn at an ampersand that is text itself. -/
def ampersandTurn? (text rest : List Char) : Option Turn :=
  (cutAt? 1 rest).map fun (_, after) => .goesOn (text ++ ['&']) after

/-- The turn at an ampersand, which stands behind `text`. -/
def entityTurn? (text rest : List Char) : Option Turn :=
  match (offsetOf? (· = ';') rest).filter (· ≤ maxEntityLength + 1) with
  | none => ampersandTurn? text rest
  | some stop =>
    (slice? 1 stop rest).bind fun name =>
      match entity? name with
      | none => ampersandTurn? text rest
      | some c => (cutAt? (stop + 1) rest).map fun (_, after) => .goesOn (text ++ [c]) after

/-- **One turn of the loop**; none if the text cannot be cut at an offset that the turn comes to. -/
def turn? (cs : List Char) : Option Turn :=
  match offsetOf? (fun c => c = '<' ∨ c = '&') cs with
  | none => some (.ends cs)
  | some offset =>
    (cutAt? offset cs).bind fun (text, rest) =>
      if rest.head? = some '<' then tagTurn? text rest else entityTurn? text rest

/-- **Whether a turn does what the scan does**, with the text at hand.  A turn that goes on leaves
less, which is what the loop ends by. -/
inductive Performs (cs : List Char) : Turn → Prop
  | ends (hscan : scan cs = .ok cs) : Performs cs (.ends cs)
  | fails {e : Error} (hscan : scan cs = .error e) : Performs cs (.fails e)
  | goesOn {text rest : List Char} (hshorter : rest.length < cs.length)
      (hscan : scan cs = (scan rest).map (text ++ ·)) : Performs cs (.goesOn text rest)

/-- Text without a bracket or an ampersand is read as it is. -/
theorem scan_plain {text : List Char} (h : ∀ c ∈ text, c ≠ '<' ∧ c ≠ '&') (rest : List Char) :
    scan (text ++ rest) = (scan rest).map (text ++ ·) := by
  induction text with
  | nil => cases hscan : scan rest <;> simp [hscan, Except.map]
  | cons c text ih =>
    obtain ⟨hlt, hamp⟩ := h c List.mem_cons_self
    have htext : ∀ d ∈ text, d ≠ '<' ∧ d ≠ '&' := fun d hd => h d (List.mem_cons_of_mem c hd)
    rw [List.cons_append, scan, ih htext]
    · exact map_append_map [c] text _
    · exact hlt
    · exact hamp

/-- An ampersand that begins no entity is text. -/
theorem scan_ampersand {rest : List Char} (h : readEntity rest = none) :
    scan ('&' :: rest) = (scan rest).map (['&'] ++ ·) := by
  rw [scan]
  split
  · next c after hsome => cases h.symm.trans hsome
  · rfl

section Turns

variable {text : List Char} (htext : ∀ c ∈ text, c ≠ '<' ∧ c ≠ '&') (tail : List Char)
include htext

theorem tagTurn?_performs :
    ∃ turn, tagTurn? text ('<' :: tail) = some turn ∧ Performs (text ++ '<' :: tail) turn := by
  unfold tagTurn?
  cases hstop : offsetOf? (· = '>') ('<' :: tail) with
  | none =>
    have hopen : '>' ∉ tail := fun hmem => by
      simpa using forall_of_offsetOf?_eq_none hstop '>' (List.mem_cons_of_mem _ hmem)
    have hfails : scan ('<' :: tail) = .error unterminated :=
      scan_eq_error_iff.2 ⟨rfl, [], tail, rfl, hopen⟩
    refine ⟨_, rfl, .fails ?_⟩
    rw [scan_plain htext, hfails]
    rfl
  | some stop =>
    obtain ⟨inside, after, hencloses⟩ := exists_encloses (by rfl) (by rfl) (by decide) hstop
    have hscan : scan ('<' :: tail)
        = (scan after).map (lineBreak (breaksLine inside = true) ++ ·) := by
      have hbracketed := scan_bracketed after hencloses.closed
      rw [hencloses.parts]
      simpa [bracketed] using hbracketed
    simp only [hencloses.slice, hencloses.rest, Option.bind_some, Option.map_some]
    refine ⟨_, rfl, .goesOn ?_ ?_⟩
    · have hlength := congrArg List.length hencloses.parts
      simp only [List.length_append, List.length_cons] at hlength ⊢
      omega
    · rw [scan_plain htext, hscan, map_append_map]

theorem ampersandTurn?_performs (h : readEntity tail = none) :
    ∃ turn, ampersandTurn? text ('&' :: tail) = some turn
      ∧ Performs (text ++ '&' :: tail) turn := by
  have hcut : cutAt? 1 ('&' :: tail) = some (['&'], tail) := cutAt?_eq_some_iff.2 ⟨rfl, rfl⟩
  unfold ampersandTurn?
  rw [hcut]
  refine ⟨_, rfl, .goesOn ?_ ?_⟩
  · simp only [List.length_append, List.length_cons]
    omega
  · rw [scan_plain htext, scan_ampersand h, map_append_map]

theorem entityTurn?_performs :
    ∃ turn, entityTurn? text ('&' :: tail) = some turn ∧ Performs (text ++ '&' :: tail) turn := by
  unfold entityTurn?
  cases hstop : offsetOf? (· = ';') ('&' :: tail) with
  | none =>
    have hnone : ';' ∉ tail := fun hmem => by
      simpa using forall_of_offsetOf?_eq_none hstop ';' (List.mem_cons_of_mem _ hmem)
    refine ampersandTurn?_performs htext tail ?_
    rw [readEntity, splitAt_eq_none.2 hnone]
  | some stop =>
    obtain ⟨name, after, hencloses⟩ := exists_encloses (by rfl) (by rfl) (by decide) hstop
    obtain rfl : tail = name ++ ';' :: after := (List.cons.inj hencloses.parts).2
    have hsplit : splitAt ';' (name ++ ';' :: after) = some (name, after) :=
      splitAt_append hencloses.closed after
    have hstop' := hencloses.offset
    by_cases hlong : maxEntityLength < Utf8.size name
    · -- A name that is too long is not even looked at.
      rw [Option.filter_some, decide_eq_false (by omega)]
      refine ampersandTurn?_performs htext _ ?_
      rw [readEntity, hsplit]
      exact if_neg (by omega)
    · rw [Option.filter_some, decide_eq_true (by omega)]
      simp only [if_true, hencloses.slice, Option.bind_some]
      cases hentity : entity? name with
      | none =>
        refine ampersandTurn?_performs htext _ ?_
        rw [readEntity, hsplit]
        simp [hentity]
      | some c =>
        simp only [hencloses.rest, Option.map_some]
        refine ⟨_, rfl, .goesOn ?_ ?_⟩
        · simp only [List.length_append, List.length_cons]
          omega
        · rw [scan_plain htext, scan_entity after name hencloses.closed (by omega) hentity,
            map_append_map]

end Turns

/-- **Every turn cuts the text where it can be cut**, and does what the scan does. -/
theorem turn?_performs (cs : List Char) : ∃ turn, turn? cs = some turn ∧ Performs cs turn := by
  unfold turn?
  cases hoffset : offsetOf? (fun c => c = '<' ∨ c = '&') cs with
  | none =>
    have hplain : ∀ c ∈ cs, c ≠ '<' ∧ c ≠ '&' := fun c hc => by
      simpa using forall_of_offsetOf?_eq_none hoffset c hc
    refine ⟨_, rfl, .ends ?_⟩
    have hscan := scan_plain hplain []
    rw [List.append_nil, scan] at hscan
    rw [hscan]
    simp [Except.map]
  | some offset =>
    obtain ⟨text, c, tail, rfl, rfl, hc, hbefore⟩ := exists_of_offsetOf? hoffset
    have htext : ∀ c ∈ text, c ≠ '<' ∧ c ≠ '&' := fun c hc => by
      simpa using hbefore c hc
    have hcut : cutAt? (Utf8.size text) (text ++ c :: tail) = some (text, c :: tail) :=
      cutAt?_eq_some_iff.2 ⟨rfl, rfl⟩
    simp only [hcut, Option.bind_some, List.head?_cons]
    rcases of_decide_eq_true hc with rfl | rfl
    · exact tagTurn?_performs htext tail
    · exact entityTurn?_performs htext tail

/-! ## 3. The loop

The loop ends because every turn that goes on leaves less, which is part of what a turn is shown to
do. -/

theorem performs_of_turn? {cs : List Char} {turn : Turn} (h : turn? cs = some turn) :
    Performs cs turn := by
  obtain ⟨turn', hturn, hperforms⟩ := turn?_performs cs
  cases hturn.symm.trans h
  exact hperforms

/-- Every turn that is not the last one leaves less to read. -/
theorem length_of_turn? {cs text rest : List Char} (h : turn? cs = some (.goesOn text rest)) :
    rest.length < cs.length := by
  cases performs_of_turn? h with
  | goesOn hshorter _ => exact hshorter

/-- **The loop**, with the text that it has read so far; none if the text cannot be cut at an
offset that it comes to. -/
def readFrom (out cs : List Char) : Option (Except Error (List Char)) :=
  match h : turn? cs with
  | none => none
  | some (.ends text) => some (.ok (out ++ text))
  | some (.fails e) => some (.error e)
  | some (.goesOn text rest) =>
    have : rest.length < cs.length := length_of_turn? h
    readFrom (out ++ text) rest
termination_by cs.length

/-- **The loop reads what is scanned**, and comes to every end that the scan comes to. -/
theorem readFrom_eq (out cs : List Char) :
    readFrom out cs = some ((scan cs).map (out ++ ·)) := by
  fun_induction readFrom out cs with
  | case1 out cs hnone =>
    obtain ⟨turn, hturn, -⟩ := turn?_performs cs
    cases hnone.symm.trans hturn
  | case2 out cs text hturn =>
    cases performs_of_turn? hturn with
    | ends hscan => rw [hscan]; rfl
  | case3 out cs e hturn =>
    cases performs_of_turn? hturn with
    | fails hscan => rw [hscan]; rfl
  | case4 out cs text rest hturn hshorter ih =>
    cases performs_of_turn? hturn with
    | goesOn _ hscan => rw [ih, hscan, map_append_map]

/-- The plain text of markup, read at offsets. -/
def readAtOffsets (body : String) : Option (Except Error String) :=
  (readFrom [] body.toList).map (·.map fun text => String.ofList (trimWhile (· = '\n') text))

theorem readAtOffsets_eq (body : String) : readAtOffsets body = some (read body) := by
  rw [readAtOffsets, readFrom_eq, read]
  cases scan body.toList <;> rfl

/-- **Reading markup fails just at a tag that never ends**, and always comes to an end.  Whatever
else is in the markup, it is never cut where it cannot be cut. -/
theorem fails_just_at_open_tag (body : String) :
    readAtOffsets body = some (read body)
    ∧ (∀ e, read body = .error e ↔ e = unterminated ∧ HasOpenTag body.toList)
    ∧ ((∃ text, read body = .ok text) ↔ ¬ HasOpenTag body.toList) := by
  refine ⟨readAtOffsets_eq body, fun e => read_eq_error_iff, ?_⟩
  constructor
  · rintro ⟨text, htext⟩ hopen
    cases htext.symm.trans (read_eq_error_iff.2 ⟨rfl, hopen⟩)
  · intro hclosed
    cases hread : read body with
    | ok text => exact ⟨text, rfl⟩
    | error e => exact absurd (read_eq_error_iff.1 hread).2 hclosed

end PlainText
end Notekeeper
