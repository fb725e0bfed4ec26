import Notekeeper.Json.Parser
import Notekeeper.Json.Printer
import Notekeeper.Proofs.Text.Numeral

/-!
# JSON read back

A value that is written out is parsed as that value.  The induction goes over the value, and each
part is read with whatever may follow it: the mark that parts it from the next one, or nothing.

What may follow matters to numbers alone, which end where no digit, point or exponent stands; a text
ends at its quote, an array and an object at their brackets.  So `Stops` says what may stand behind
a value, and is as true behind the last item of an array as behind the whole text.  A character of a
text is written in one of three ways, as a letter behind a backslash, by its number, or as it is,
and reads back in each of them without a look at what follows.

The parser takes fuel, since an array may hold arrays.  A value needs less of it than its text is
long (`ReadsBack`), and the parser starts with as much, so that the fuel never runs out on a text
that was written.

* `Plain` : the values that this is true of.
* `value?_write` : a value, with text that follows.
* `parse?_write` : a value that is a whole text.
-/

namespace Notekeeper.Json

open Text

/-! ## 1. Values that are written in full -/

/-- **A value that its written form tells in full**: it has no number and no text of the kinds
that are kept without their content. -/
inductive Plain : Json → Prop
  | null : Plain null
  | bool (b : Bool) : Plain (bool b)
  | natural (n : Nat) : Plain (natural n)
  | text (s : String) : Plain (text s)
  | array {items : List Json} (h : ∀ j ∈ items, Plain j) : Plain (array items)
  | object {fields : List (String × Json)} (h : ∀ f ∈ fields, Plain f.2) : Plain (record fields)

/-! ## 2. Blanks and marks -/

/-- The characters that a value is written with at its front. -/
def startsValue (c : Char) : Bool :=
  c == 'n' || c == 't' || c == 'f' || c == '"' || c == '[' || c == '\x7b' || isDecimal c

/-- What may stand behind a value: nothing, or the mark that parts it from the next one. -/
def Stops (rest : Symbols) : Prop :=
  ∀ s ∈ rest.head?, s = some ',' ∨ s = some ']' ∨ s = some '\x7d'

theorem skipBlanks_of_startsValue {c : Char} (h : startsValue c = true) (s : Symbols) :
    skipBlanks (some c :: s) = some c :: s := by
  rw [skipBlanks, if_neg]
  rintro (rfl | rfl | rfl | rfl) <;> exact absurd h (by decide)

/-- No digit, point or exponent stands behind a value. -/
theorem Stops.head_cases {rest : Symbols} (h : Stops rest) :
    rest = [] ∨ ∃ c tail, rest = some c :: tail ∧ (c = ',' ∨ c = ']' ∨ c = '\x7d') := by
  cases rest with
  | nil => exact Or.inl rfl
  | cons s tail =>
    rcases h s rfl with rfl | rfl | rfl
    · exact Or.inr ⟨_, tail, rfl, Or.inl rfl⟩
    · exact Or.inr ⟨_, tail, rfl, Or.inr (Or.inl rfl)⟩
    · exact Or.inr ⟨_, tail, rfl, Or.inr (Or.inr rfl)⟩

/-! ## 3. Numbers -/

theorem digits_append {ds : List Char} {rest : Symbols} (hds : ∀ c ∈ ds, isDecimal c = true)
    (hrest : Stops rest) : digits (ds.map some ++ rest) = (ds, rest) := by
  induction ds with
  | nil =>
    rcases hrest.head_cases with rfl | ⟨c, tail, rfl, rfl | rfl | rfl⟩ <;> rfl
  | cons d ds ih =>
    have hd : isDecimal d = true := hds d List.mem_cons_self
    have := ih fun c hc => hds c (List.mem_cons_of_mem d hc)
    simp [digits, hd, this]

theorem number?_decimal (n : Nat) {rest : Symbols} (hrest : Stops rest) :
    number? ((decimal n).map some ++ rest) = some (natural n, rest) := by
  have hds : ∀ c ∈ decimal n, isDecimal c = true := fun _ hc => isDecimal_of_mem_decimal hc
  have hf : fraction? rest = some (false, rest) := by
    rcases hrest.head_cases with rfl | ⟨c, tail, rfl, rfl | rfl | rfl⟩ <;> rfl
  have he : exponent? rest = some (false, rest) := by
    rcases hrest.head_cases with rfl | ⟨c, tail, rfl, rfl | rfl | rfl⟩ <;> rfl
  obtain ⟨c, cs, hc⟩ := List.exists_cons_of_ne_nil (decimal_ne_nil n)
  have hminus : c ≠ '-' := by
    rintro rfl
    exact absurd (hds '-' (hc ▸ List.mem_cons_self)) (by decide)
  by_cases h0 : c = '0'
  · subst h0
    obtain ⟨rfl, rfl⟩ := decimal_cons_zero hc
    have hz : digits? 10 ['0'] = some 0 := by decide
    simp [hc, number?, hz, hf, he]
  · have hall := digits_append hds hrest
    have hn := digits?_decimal n
    rw [hc] at hall hn ⊢
    simp only [List.map_cons, List.cons_append] at hall ⊢
    simp [number?, hminus, h0, hall, hn, hf, he]

/-! ## 4. Texts -/

theorem digit?_hexDigit (n : Nat) : digit? 16 (hexDigit n) = some (n % 16) := by
  have h : ∀ d < 16, digit? 16 (Char.ofNat (if d < 10 then 48 + d else 87 + d)) = some d := by
    decide
  exact h (n % 16) (Nat.mod_lt n (by decide))

/-- **The three ways to write a character**: by a letter, by its number, or as it is. -/
theorem writeChar_cases (c : Char) :
    (∃ e, e ≠ 'u' ∧ escape? e = some c ∧ writeChar c = ['\\', e])
      ∨ (c.toNat < 0x20 ∧ writeChar c
          = ['\\', 'u', '0', '0', hexDigit (c.toNat / 16), hexDigit c.toNat])
      ∨ (c ≠ '"' ∧ c ≠ '\\' ∧ ¬ c.toNat < 0x20 ∧ writeChar c = [c]) := by
  have letter {d e : Char} (hc : c = d) (he : e ≠ 'u' ∧ escape? e = some d) :
      ∃ e', e' ≠ 'u' ∧ escape? e' = some c ∧ (['\\', e] : List Char) = ['\\', e'] :=
    ⟨e, he.1, hc ▸ he.2, rfl⟩
  unfold writeChar
  repeat' split
  all_goals first
    | next hc => exact Or.inl (letter hc (by decide))
    | next hc => exact Or.inr (Or.inl ⟨hc, rfl⟩)
    | next hq hb _ _ _ _ _ hl => exact Or.inr (Or.inr ⟨hq, hb, hl, rfl⟩)

/-- **A written character reads back as that character.** -/
theorem pieces?_writeChar (c : Char) (rest : Symbols) :
    pieces? ((writeChar c).map some ++ rest)
      = (pieces? rest).map fun (ps, rest') => (.char c :: ps, rest') := by
  rcases writeChar_cases c with ⟨e, hu, he, hw⟩ | ⟨hl, hw⟩ | ⟨hq, hb, hl, hw⟩
  · rw [hw]
    simp only [List.map_cons, List.map_nil, List.cons_append, List.nil_append]
    rw [pieces?.eq_def]
    simp [hu, he]
  · have hz : digit? 16 '0' = some 0 := by decide
    have hd : digits? 16 ['0', '0', hexDigit (c.toNat / 16), hexDigit c.toNat]
        = some c.toNat := by
      simp only [digits?, digitsFrom, digit?_hexDigit, hz]
      congr 1
      omega
    have hu : unit c.toNat = .char c := by
      rw [unit, if_neg (by omega), Char.ofNat_toNat]
    rw [hw]
    simp only [List.map_cons, List.map_nil, List.cons_append, List.nil_append, pieces?, hd, hu]
  · rw [hw]
    simp only [List.map_cons, List.map_nil, List.cons_append, List.nil_append]
    rw [pieces?.eq_def]
    simp [hb, hl]

theorem pieces?_flatMap (cs : List Char) (rest : Symbols) :
    pieces? ((cs.flatMap writeChar).map some ++ some '"' :: rest)
      = some (cs.map .char, rest) := by
  induction cs with
  | nil => simp [pieces?]
  | cons c cs ih =>
    rw [List.flatMap_cons, List.map_append, List.append_assoc, pieces?_writeChar, ih]
    rfl

theorem joined?_map_char (cs : List Char) : joined? (cs.map .char) = some cs := by
  induction cs with
  | nil => rfl
  | cons c cs ih => simp [joined?, ih]

/-- **A written text reads back**, once its opening quote has been taken off. -/
theorem text?_writeText (s : String) (rest : Symbols) :
    text? ((s.toList.flatMap writeChar ++ ['"']).map some ++ rest) = some (some s, rest) := by
  rw [List.map_append, List.append_assoc]
  simp [text?, pieces?_flatMap, joined?_map_char]

/-! ## 5. Values -/

theorem startsValue_of_isDecimal {c : Char} (h : isDecimal c = true) :
    startsValue c = true := by
  simp [startsValue, h]

/-- A value is written with one of its characters at the front. -/
theorem Plain.exists_cons {j : Json} (h : Plain j) :
    ∃ c cs, j.write = c :: cs ∧ startsValue c = true := by
  cases h with
  | null => exact ⟨_, _, rfl, rfl⟩
  | bool b => cases b <;> exact ⟨_, _, rfl, rfl⟩
  | natural n =>
    obtain ⟨c, cs, hc⟩ := List.exists_cons_of_ne_nil (decimal_ne_nil n)
    exact ⟨c, cs, hc, startsValue_of_isDecimal (isDecimal_of_mem_decimal (hc ▸ List.mem_cons_self))⟩
  | text s => exact ⟨_, _, rfl, rfl⟩
  | array h => exact ⟨_, _, rfl, rfl⟩
  | object h => exact ⟨_, _, rfl, rfl⟩

/-- **What reading a value amounts to**, with any fuel above the length of its written form.  What
stands behind a value may follow, as in an array or an object. -/
def ReadsBack (j : Json) : Prop :=
  ∀ (fuel : Nat) (rest : Symbols), j.write.length < fuel → Stops rest →
    value? fuel (j.write.map some ++ rest) = some (j, rest)

theorem stops_cons {c : Char} (h : c = ',' ∨ c = ']' ∨ c = '\x7d') (rest : Symbols) :
    Stops (some c :: rest) := by
  intro s hs
  cases hs
  rcases h with rfl | rfl | rfl
  · exact Or.inl rfl
  · exact Or.inr (Or.inl rfl)
  · exact Or.inr (Or.inr rfl)

/-- The items of an array read back, up to and with its closing bracket. -/
theorem items?_writeItems {items : List Json} (hne : items ≠ [])
    (h : ∀ j ∈ items, ReadsBack j) (fuel : Nat) (rest : Symbols)
    (hf : (writeItems items).length + 1 < fuel) :
    items? fuel ((writeItems items).map some ++ some ']' :: rest) = some (items, rest) := by
  induction items generalizing fuel with
  | nil => exact absurd rfl hne
  | cons item items ih =>
    obtain ⟨fuel, rfl⟩ := Nat.exists_eq_succ_of_ne_zero (Nat.ne_zero_of_lt hf)
    have hitem := h item List.mem_cons_self
    cases items with
    | nil =>
      have hv := hitem fuel (some ']' :: rest) (by simp only [writeItems] at hf; omega)
        (stops_cons (by decide) rest)
      simp [writeItems, items?, hv, skipBlanks]
    | cons item' items =>
      simp only [writeItems, List.length_append, List.length_cons] at hf
      have hv := hitem fuel (some ',' :: ((writeItems (item' :: items)).map some
        ++ some ']' :: rest)) (by omega) (stops_cons (by decide) _)
      have hi := ih (List.cons_ne_nil _ _) (fun j hj => h j (List.mem_cons_of_mem _ hj)) fuel
        (by omega)
      simp [writeItems, items?, hv, skipBlanks, hi]

/-- The fields of an object as they are kept: each under its name. -/
abbrev named (fields : List (String × Json)) : List (Option String × Json) :=
  fields.map fun (name, value) => (some name, value)

/-- The fields of an object read back, up to and with its closing brace. -/
theorem members?_writeFields {fields : List (String × Json)} (hne : fields ≠ [])
    (h : ∀ f ∈ fields, ReadsBack f.2) (fuel : Nat) (rest : Symbols)
    (hf : (writeFields (named fields)).length + 1 < fuel) :
    members? fuel ((writeFields (named fields)).map some ++ some '\x7d' :: rest)
      = some (named fields, rest) := by
  induction fields generalizing fuel with
  | nil => exact absurd rfl hne
  | cons f fields ih =>
    obtain ⟨fuel, rfl⟩ := Nat.exists_eq_succ_of_ne_zero (Nat.ne_zero_of_lt hf)
    obtain ⟨name, value⟩ := f
    have hvalue : ReadsBack value := h (name, value) List.mem_cons_self
    cases fields with
    | nil =>
      simp only [named, List.map_cons, List.map_nil, writeFields, List.length_append,
        List.length_cons] at hf
      have hv := hvalue fuel (some '\x7d' :: rest) (by omega) (stops_cons (by decide) rest)
      have ht := text?_writeText name
        (some ':' :: (value.write.map some ++ some '\x7d' :: rest))
      simp only [List.map_append, List.map_cons, List.map_nil, List.append_assoc,
        List.cons_append, List.nil_append] at ht
      simp [writeFields, writeText, members?, skipBlanks, ht, hv]
    | cons f' fields =>
      simp only [named, List.map_cons, writeFields, List.length_append, List.length_cons] at hf
      have hv := hvalue fuel (some ',' :: ((writeFields (named (f' :: fields))).map some
        ++ some '\x7d' :: rest)) (by omega) (stops_cons (by decide) _)
      have hi := ih (List.cons_ne_nil _ _) (fun g hg => h g (List.mem_cons_of_mem _ hg)) fuel
        (by simp only [named, List.map_cons]; omega)
      have ht := text?_writeText name (some ':' :: (value.write.map some ++ some ','
        :: ((writeFields (named (f' :: fields))).map some ++ some '\x7d' :: rest)))
      simp only [named, List.map_append, List.map_cons, List.map_nil, List.append_assoc,
        List.cons_append, List.nil_append] at ht hv hi
      simp [writeFields, writeText, members?, skipBlanks, ht, hv, hi]

/-- The items of an array are written with the front of a value first. -/
theorem exists_cons_writeItems {item : Json} (h : item.Plain) (items : List Json) :
    ∃ c cs, writeItems (item :: items) = c :: cs ∧ startsValue c = true := by
  obtain ⟨c, cs, hc, hstart⟩ := h.exists_cons
  cases items with
  | nil => exact ⟨c, cs, hc, hstart⟩
  | cons item' items =>
    refine ⟨c, cs ++ ',' :: writeItems (item' :: items), ?_, hstart⟩
    rw [writeItems, hc, List.cons_append]
    exact List.cons_ne_nil _ _

/-- The fields of an object are written with the quote of the first name first. -/
theorem exists_cons_writeFields (f : String × Json) (fields : List (String × Json)) :
    ∃ cs, writeFields (named (f :: fields)) = '"' :: cs := by
  cases fields with
  | nil => exact ⟨_, rfl⟩
  | cons f' fields => exact ⟨_, rfl⟩

/-- **A written value reads back**, given fuel above its length.  The induction is on the value, and
each array and object is read with less fuel. -/
theorem value?_write {j : Json} (h : j.Plain) : ReadsBack j := by
  induction h with
  | null =>
    intro fuel rest hf _
    obtain ⟨fuel, rfl⟩ := Nat.exists_eq_succ_of_ne_zero (Nat.ne_zero_of_lt hf)
    simp [write, value?, skipBlanks, word?]
  | bool b =>
    intro fuel rest hf _
    obtain ⟨fuel, rfl⟩ := Nat.exists_eq_succ_of_ne_zero (Nat.ne_zero_of_lt hf)
    cases b <;> simp [write, value?, skipBlanks, word?]
  | natural n =>
    intro fuel rest hf hrest
    obtain ⟨fuel, rfl⟩ := Nat.exists_eq_succ_of_ne_zero (Nat.ne_zero_of_lt hf)
    have hn := number?_decimal n hrest
    obtain ⟨c, cs, hc⟩ := List.exists_cons_of_ne_nil (decimal_ne_nil n)
    have hd : isDecimal c = true := isDecimal_of_mem_decimal (hc ▸ List.mem_cons_self)
    have hother : c ≠ 'n' ∧ c ≠ 't' ∧ c ≠ 'f' ∧ c ≠ '"' ∧ c ≠ '[' ∧ c ≠ '\x7b' := by
      refine ⟨?_, ?_, ?_, ?_, ?_, ?_⟩ <;> rintro rfl <;> exact absurd hd (by decide)
    rw [hc] at hn
    simp only [List.map_cons, List.cons_append] at hn
    simp only [write, hc, List.map_cons, List.cons_append, value?,
      skipBlanks_of_startsValue (startsValue_of_isDecimal hd)]
    split <;> simp_all
  | text s =>
    intro fuel rest hf _
    obtain ⟨fuel, rfl⟩ := Nat.exists_eq_succ_of_ne_zero (Nat.ne_zero_of_lt hf)
    have ht := text?_writeText s rest
    simp only [List.map_append, List.map_cons, List.map_nil, List.append_assoc,
      List.cons_append, List.nil_append] at ht
    simp [write, writeText, value?, skipBlanks, ht]
  | @array items h ih =>
    intro fuel rest hf _
    obtain ⟨fuel, rfl⟩ := Nat.exists_eq_succ_of_ne_zero (Nat.ne_zero_of_lt hf)
    cases items with
    | nil => simp [write, writeItems, value?, skipBlanks]
    | cons item items =>
      obtain ⟨c, tail, hc, hstart⟩ := exists_cons_writeItems (h item List.mem_cons_self) items
      have hclose : c ≠ ']' := by
        rintro rfl
        exact absurd hstart (by decide)
      simp only [write, List.length_append, List.length_cons, List.length_nil] at hf
      have hi := items?_writeItems (List.cons_ne_nil item items) ih fuel rest (by omega)
      rw [hc] at hi
      simp only [List.map_cons, List.cons_append] at hi
      have hopen : startsValue '[' = true := by decide
      simp [write, hc, value?, skipBlanks_of_startsValue hopen, skipBlanks_of_startsValue hstart,
        hclose, hi]
  | @object fields h ih =>
    intro fuel rest hf _
    obtain ⟨fuel, rfl⟩ := Nat.exists_eq_succ_of_ne_zero (Nat.ne_zero_of_lt hf)
    cases fields with
    | nil => simp [record, write, writeFields, value?, skipBlanks]
    | cons f fields =>
      obtain ⟨tail, hc⟩ := exists_cons_writeFields f fields
      simp only [record, write, List.length_append, List.length_cons, List.length_nil] at hf
      have hm := members?_writeFields (List.cons_ne_nil f fields) ih fuel rest
        (by simp only [named]; omega)
      rw [hc] at hm
      simp only [List.map_cons, List.cons_append] at hm
      simp only [record, write]
      rw [hc]
      simp [value?, skipBlanks, hm]

/-- **What is written parses back** to the same value.  The fuel that parsing begins with is always
enough, as it is above the length of the text. -/
theorem parse?_write {j : Json} (h : j.Plain) : parse? (j.write.map some) = some j := by
  have hv := value?_write h (j.write.length + 1) [] (Nat.lt_succ_self _) (by simp [Stops])
  rw [List.append_nil] at hv
  rw [parse?, List.length_map, hv]
  rfl

end Notekeeper.Json
