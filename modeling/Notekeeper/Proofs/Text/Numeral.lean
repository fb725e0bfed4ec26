import Notekeeper.Text.Numeral

/-!
# Numerals read back

A number is written in decimal in two ways.  By itself it takes as many digits as it needs; as a
part of a date or a time it is padded with zeros to a fixed width.  Either way it is read back as
itself.  Reading goes digit by digit with an accumulator, so the lemmas about it are about digits
behind a number that was read already (`digitsFrom_append`), and the induction is on the number that
is written, by taking off its last digit.

What is read may be followed by other text.  A reader that takes digits off the front takes all of
them, and no more than its limit, which is what separates a padded numeral from the digits that may
follow it (`takeDigits_append`).

Conversely, a whole text is read as a number only if it is a numeral: at least one digit, perhaps
behind a plus sign, and nothing else.  There is no bound on its length, as it may have any number of
zeros in front; the only bound is on the number.  A minus sign is no digit, and neither are the
letters that larger bases would use.

* `digits?_decimal`, `digits?_padded` : the two ways to write a number.
* `takeDigits_append` : where the digits of a numeral end.
* `Numeral` : the texts that are numerals, and of which number.
* `unsigned?_eq_some_iff` : which texts are read as which numbers.
-/

namespace Notekeeper.Text

theorem digit?_decimalDigit (n : Nat) : digit? 10 (decimalDigit n) = some (n % 10) := by
  have h : ∀ d < 10, digit? 10 (Char.ofNat (48 + d)) = some d := by decide
  exact h (n % 10) (Nat.mod_lt n (by decide))

theorem isDecimal_decimalDigit (n : Nat) : isDecimal (decimalDigit n) = true := by
  rw [isDecimal, digit?_decimalDigit]
  rfl

theorem digitsFrom_append (base acc : Nat) (xs ys : List Char) :
    digitsFrom base acc (xs ++ ys)
      = (digitsFrom base acc xs).bind fun n => digitsFrom base n ys := by
  induction xs generalizing acc with
  | nil => rfl
  | cons c cs ih =>
    simp only [List.cons_append, digitsFrom]
    cases digit? base c with
    | none => rfl
    | some d => exact ih (acc * base + d)

theorem digits?_of_ne_nil {base : Nat} {cs : List Char} (h : cs ≠ []) :
    digits? base cs = digitsFrom base 0 cs := by
  cases cs with
  | nil => exact absurd rfl h
  | cons c cs => rfl

/-! ## 1. Numerals without leading zeros -/

theorem decimal_ne_nil (n : Nat) : decimal n ≠ [] := by
  rw [decimal]
  split <;> simp

theorem isDecimal_of_mem_decimal {n : Nat} {c : Char} (h : c ∈ decimal n) :
    isDecimal c = true := by
  fun_induction decimal n with
  | case1 n hn =>
    rw [List.mem_singleton.1 h]
    exact isDecimal_decimalDigit n
  | case2 n hn ih =>
    rcases List.mem_append.1 h with h | h
    · exact ih h
    · rw [List.mem_singleton.1 h]
      exact isDecimal_decimalDigit n

theorem digitsFrom_decimal (n : Nat) : digitsFrom 10 0 (decimal n) = some n := by
  fun_induction decimal n with
  | case1 n hn =>
    simp only [digitsFrom, digit?_decimalDigit]
    congr 1
    omega
  | case2 n hn ih =>
    rw [digitsFrom_append, ih, Option.bind_some]
    simp only [digitsFrom, digit?_decimalDigit]
    congr 1
    omega

theorem digits?_decimal (n : Nat) : digits? 10 (decimal n) = some n := by
  rw [digits?_of_ne_nil (decimal_ne_nil n), digitsFrom_decimal]

/-- Only zero is written with a zero in front. -/
theorem decimal_cons_zero {n : Nat} {cs : List Char} (h : decimal n = '0' :: cs) :
    n = 0 ∧ cs = [] := by
  fun_induction decimal n generalizing cs with
  | case1 n hn =>
    have hd : ∀ d < 10, decimalDigit d = '0' → d = 0 := by decide
    obtain ⟨h0, hcs⟩ := List.cons.inj h
    exact ⟨hd n hn h0, hcs.symm⟩
  | case2 n hn ih =>
    obtain ⟨c, cs', hc⟩ := List.exists_cons_of_ne_nil (decimal_ne_nil (n / 10))
    rw [hc, List.cons_append] at h
    obtain ⟨h0, -⟩ := List.cons.inj h
    rw [h0] at hc
    have := (ih hc).1
    omega

/-! ## 2. Numerals of fixed width -/

theorem length_padded (width n : Nat) : (padded width n).length = width := by
  induction width generalizing n with
  | zero => rfl
  | succ width ih => simp [padded, ih]

theorem isDecimal_of_mem_padded {width n : Nat} {c : Char} (h : c ∈ padded width n) :
    isDecimal c = true := by
  induction width generalizing n with
  | zero => simp [padded] at h
  | succ width ih =>
    rcases List.mem_append.1 h with h | h
    · exact ih h
    · rw [List.mem_singleton.1 h]
      exact isDecimal_decimalDigit n

theorem digitsFrom_padded {width n : Nat} (h : n < Nat.pow 10 width) :
    digitsFrom 10 0 (padded width n) = some n := by
  induction width generalizing n with
  | zero =>
    have : n = 0 := Nat.lt_one_iff.1 h
    rw [this]
    rfl
  | succ width ih =>
    have hd : n / 10 < Nat.pow 10 width := by
      change n < Nat.pow 10 width * 10 at h
      omega
    rw [padded, digitsFrom_append, ih hd, Option.bind_some]
    simp only [digitsFrom, digit?_decimalDigit]
    congr 1
    omega

theorem digits?_padded {width n : Nat} (hw : 0 < width) (h : n < Nat.pow 10 width) :
    digits? 10 (padded width n) = some n := by
  have hne : padded width n ≠ [] := by
    intro he
    have hl := length_padded width n
    rw [he, List.length_nil] at hl
    omega
  rw [digits?_of_ne_nil hne, digitsFrom_padded h]

/-- The digits in front are all taken when no more than `limit` follow one another. -/
theorem takeDigits_append {limit : Nat} {ds rest : List Char}
    (hds : ∀ c ∈ ds, isDecimal c = true) (hl : ds.length ≤ limit)
    (hrest : ds.length = limit ∨ ∀ c ∈ rest.head?, isDecimal c = false) :
    takeDigits limit (ds ++ rest) = (ds, rest) := by
  induction ds generalizing limit with
  | nil =>
    cases limit with
    | zero => rfl
    | succ limit =>
      cases rest with
      | nil => rfl
      | cons c cs =>
        have hc : isDecimal c = false := by simpa using hrest
        simp [takeDigits, hc]
  | cons d ds ih =>
    cases limit with
    | zero => simp at hl
    | succ limit =>
      have hd : isDecimal d = true := hds d List.mem_cons_self
      have hl' : ds.length ≤ limit := by simpa using hl
      have htail := ih (fun c hc => hds c (List.mem_cons_of_mem d hc)) hl' (by simpa using hrest)
      simp [takeDigits, hd, htail]

/-! ## 3. Texts that are numerals

Digits are told by their value, so that zeros in front change nothing. -/

/-- **Whether a text is a run of digits** that denotes a number: the digits `0` to `9`, at least one
of them, and as many zeros in front as there may be. -/
structure Digits (ds : List Char) (n : Nat) : Prop where
  ne_nil : ds ≠ []
  isDigit : ∀ d ∈ ds, d.isDigit = true
  value : Nat.ofDigitChars 10 ds 0 = n

/-- **Whether a text is the numeral of a number**: digits, or one plus sign and digits. -/
inductive Numeral : List Char → Nat → Prop
  | plain {ds : List Char} {n : Nat} (h : Digits ds n) : Numeral ds n
  | signed {ds : List Char} {n : Nat} (h : Digits ds n) : Numeral ('+' :: ds) n

/-- The digits of base ten are `0` to `9`, and each has its place among them for a value. -/
theorem digit?_ten (c : Char) :
    digit? 10 c = if c.isDigit then some (c.toNat - '0'.toNat) else none := by
  have hten : c.isDigit = true ↔ 48 ≤ c.toNat ∧ c.toNat ≤ 57 := Char.isDigit_iff_toNat
  by_cases hc : 48 ≤ c.toNat ∧ c.toNat ≤ 57
  · have hsmall : c.toNat - 48 < 10 := by omega
    have hzero : '0'.toNat = 48 := rfl
    rw [if_pos (hten.2 hc), hzero, digit?, digitValue?, if_pos hc]
    exact Option.filter_eq_some_iff.2 ⟨rfl, decide_eq_true hsmall⟩
  · rw [if_neg (mt hten.1 hc)]
    -- What is left are the letters, which stand for ten and more.
    refine Option.filter_eq_none_iff.2 fun d hd => ?_
    simp only [digitValue?, if_neg hc] at hd
    grind

theorem isDecimal_eq (c : Char) : isDecimal c = c.isDigit := by
  rw [isDecimal, digit?_ten]
  cases c.isDigit <;> rfl

/-- A text of digits alone is read digit by digit, however many there are. -/
theorem digitsFrom_ten_eq_some_iff {acc n : Nat} {cs : List Char} :
    digitsFrom 10 acc cs = some n
      ↔ (∀ c ∈ cs, c.isDigit = true) ∧ Nat.ofDigitChars 10 cs acc = n := by
  induction cs generalizing acc with
  | nil => simp [digitsFrom]
  | cons c cs ih =>
    rw [digitsFrom, digit?_ten, List.forall_mem_cons, Nat.ofDigitChars_cons, Nat.mul_comm]
    cases hc : c.isDigit with
    | false => simp
    | true => simpa using ih

theorem digits?_ten_eq_some_iff {ds : List Char} {n : Nat} :
    digits? 10 ds = some n ↔ Digits ds n := by
  constructor
  · intro h
    have hne : ds ≠ [] := by
      rintro rfl
      cases h
    rw [digits?_of_ne_nil hne] at h
    obtain ⟨hds, hvalue⟩ := digitsFrom_ten_eq_some_iff.1 h
    exact ⟨hne, hds, hvalue⟩
  · intro h
    rw [digits?_of_ne_nil h.ne_nil]
    exact digitsFrom_ten_eq_some_iff.2 ⟨h.isDigit, h.value⟩

/-- No run of digits begins with a sign. -/
theorem not_digits_plus {ds : List Char} {n : Nat} : ¬ Digits ('+' :: ds) n := by
  intro h
  have hplus : '+'.isDigit = true := h.isDigit '+' List.mem_cons_self
  exact absurd hplus (by decide)

/-- **A text is read as a number below a bound** just when it is the number's numeral.  The bound is
on the number and not on the length of the text. -/
theorem unsigned?_eq_some_iff {bound n : Nat} {cs : List Char} :
    unsigned? 10 bound cs = some n ↔ Numeral cs n ∧ n < bound := by
  have hbound (read : Option Nat) :
      read.filter (· < bound) = some n ↔ read = some n ∧ n < bound := by
    rw [Option.filter_eq_some_iff, decide_eq_true_iff]
  unfold unsigned?
  rw [hbound]
  refine and_congr_left fun _ => ?_
  split
  · next ds =>
    rw [digits?_ten_eq_some_iff]
    constructor
    · exact .signed
    · intro h
      cases h with
      | plain h => exact absurd h not_digits_plus
      | signed h => exact h
  · next hplus =>
    rw [digits?_ten_eq_some_iff]
    constructor
    · exact .plain
    · intro h
      cases h with
      | plain h => exact h
      | signed h => exact absurd rfl (hplus _)

/-- A number's own numeral is one. -/
theorem numeral_decimal (n : Nat) : Numeral (decimal n) n :=
  .plain (digits?_ten_eq_some_iff.1 (digits?_decimal n))

end Notekeeper.Text
