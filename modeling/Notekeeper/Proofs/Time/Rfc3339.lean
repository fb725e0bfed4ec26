import Notekeeper.Proofs.Text.Numeral
import Notekeeper.Proofs.Time.Calendar
import Notekeeper.Time.Rfc3339

/-!
# Timestamps read back

A timestamp is read back from its text to the nanosecond.  That goes for years of more than four
digits too, and for those before the first; and for a leap second at the end of a minute, which is
written as second 60.

The text is read part by part, and each part is read back with whatever may follow it.  Two parts
have more than one form.  A year has four digits, or a sign and as many digits as it needs, and
either way the reader knows where it ends by the mark behind it.  A fraction of a second has no
digits, three, six or nine, and is read as nanoseconds again.  All other numbers have two digits.

There are timestamps without a text of their own.  In a leap second that ends no minute a timestamp
is written as the next second, and so it has the text of another timestamp (`write_asWritten`).
`Timestamp.asWritten` is that other one, and the one that reading gives.  It is the same timestamp
just when a leap second ends a minute there (`asWritten_eq_self_iff`).  In the other direction
nothing is lost: a reader takes second 60 for second 59, changes neither the second nor the
nanoseconds for an offset, and so never gives a timestamp that would be written otherwise.

* `readYear_writeYear`, `readFraction_writeFraction` : the two parts with more than one form.
* `read?_write` : a whole timestamp reads back as it is written.
* `asWritten_of_read?` : a timestamp that was read is written as it is.
* `Sample.strayLeap` : a timestamp that reads back as a later one.
-/

namespace Notekeeper.Text

/-- The decimal digits are the characters `0` to `9`. -/
theorem toNat_of_isDecimal {c : Char} (h : isDecimal c = true) :
    48 ≤ c.toNat ∧ c.toNat ≤ 57 := by
  rw [isDecimal_eq] at h
  exact Char.isDigit_iff_toNat.1 h

theorem isBlank_of_isDecimal {c : Char} (h : isDecimal c = true) : isBlank c = false := by
  have := toNat_of_isDecimal h
  simp only [isBlank, Bool.or_eq_false_iff, Bool.and_eq_false_iff, decide_eq_false_iff_not,
    beq_eq_false_iff_ne]
  omega

theorem trimStart_of_isDecimal {c : Char} (h : isDecimal c = true) (cs : List Char) :
    trimStart (c :: cs) = c :: cs := by
  simp [trimStart, isBlank_of_isDecimal h]

end Notekeeper.Text

namespace Notekeeper.Timestamp

open Text

theorem trimStart_append {ds rest : List Char} (hne : ds ≠ [])
    (hds : ∀ c ∈ ds, isDecimal c = true) : trimStart (ds ++ rest) = ds ++ rest := by
  obtain ⟨c, cs, rfl⟩ := List.exists_cons_of_ne_nil hne
  exact trimStart_of_isDecimal (hds c List.mem_cons_self) _

theorem padded_ne_nil {width : Nat} (hw : 0 < width) (n : Nat) : padded width n ≠ [] := by
  intro h
  have hl := length_padded width n
  rw [h, List.length_nil] at hl
  omega

theorem readNumber_padded {width n : Nat} (hw : 0 < width) (hn : n < Nat.pow 10 width)
    (rest : List Char) : readNumber width (padded width n ++ rest) = some (n, rest) := by
  have hds : ∀ c ∈ padded width n, isDecimal c = true := fun _ hc => isDecimal_of_mem_padded hc
  have hl := length_padded width n
  rw [readNumber, trimStart_append (padded_ne_nil hw n) hds,
    takeDigits_append hds (Nat.le_of_eq hl) (Or.inl hl)]
  simp [digits?_padded hw hn]

theorem readMark_cons {mark : Char} (h : isBlank mark = false) (rest : List Char) :
    readMark mark (mark :: rest) = some rest := by
  simp [readMark, trimStart, h]

/-! ## 1. Years -/

/-- The digits of a year are taken up to the mark behind them. -/
theorem takeDigits_year {ds : List Char} (hds : ∀ c ∈ ds, isDecimal c = true)
    (rest : List Char) :
    takeDigits (ds ++ '-' :: rest).length (ds ++ '-' :: rest) = (ds, '-' :: rest) := by
  refine takeDigits_append hds ?_ (Or.inr ?_)
  · rw [List.length_append]
    exact Nat.le_add_right _ _
  · intro c hc
    cases hc
    decide

/-- A year with a sign reads back, whatever digits it has. -/
theorem readYear_signed {ds : List Char} {n : Nat} (hds : ∀ c ∈ ds, isDecimal c = true)
    (hn : digits? 10 ds = some n) (rest : List Char) :
    readYear ('-' :: (ds ++ '-' :: rest)) = some (-(n : Int), '-' :: rest)
      ∧ readYear ('+' :: (ds ++ '-' :: rest)) = some ((n : Int), '-' :: rest) := by
  have ht := takeDigits_year hds rest
  have hminus : trimStart ('-' :: (ds ++ '-' :: rest)) = '-' :: (ds ++ '-' :: rest) := rfl
  have hplus : trimStart ('+' :: (ds ++ '-' :: rest)) = '+' :: (ds ++ '-' :: rest) := rfl
  constructor
  · simp only [readYear, hminus, ht, hn]
    rfl
  · simp only [readYear, hplus, ht, hn]
    rfl

/-- The digits of a year outside four digits, or short of them behind a sign. -/
theorem digits?_year (n : Nat) :
    let ds := if n < 10000 then padded 4 n else decimal n
    (∀ c ∈ ds, isDecimal c = true) ∧ digits? 10 ds = some n := by
  simp only
  split
  · next h => exact ⟨fun _ hc => isDecimal_of_mem_padded hc, digits?_padded (by decide) h⟩
  · exact ⟨fun _ hc => isDecimal_of_mem_decimal hc, digits?_decimal n⟩

theorem readYear_writeYear (year : Int) (rest : List Char) :
    readYear (writeYear year ++ '-' :: rest) = some (year, '-' :: rest) := by
  unfold writeYear
  split
  · next h =>
    have hds : ∀ c ∈ padded 4 year.toNat, isDecimal c = true :=
      fun _ hc => isDecimal_of_mem_padded hc
    have hfour : 0 < 4 := by decide
    have hsmall : year.toNat < 10000 := by omega
    have hn := readNumber_padded hfour hsmall ('-' :: rest)
    obtain ⟨c, cs, hc⟩ := List.exists_cons_of_ne_nil (padded_ne_nil hfour year.toNat)
    have hd : isDecimal c = true := hds c (hc ▸ List.mem_cons_self)
    have hsign : c ≠ '-' ∧ c ≠ '+' := by
      constructor <;> rintro rfl <;> exact absurd hd (by decide)
    rw [hc] at hn ⊢
    simp only [List.cons_append] at hn ⊢
    have hy : ((year.toNat : Nat) : Int) = year := Int.toNat_of_nonneg h.1
    simp [readYear, trimStart_of_isDecimal hd, hsign, hn, hy]
  · next h =>
    obtain ⟨hds, hn⟩ := digits?_year year.natAbs
    obtain ⟨hminus, hplus⟩ := readYear_signed hds hn rest
    by_cases hneg : year < 0
    · have hy : -((year.natAbs : Nat) : Int) = year := by omega
      rw [if_pos hneg, List.cons_append, hminus, hy]
    · have hy : ((year.natAbs : Nat) : Int) = year := by omega
      rw [if_neg hneg, List.cons_append, hplus, hy]

/-! ## 2. Fractions of a second -/

theorem readFraction_writeFraction {nanos : Nat} (h : nanos < nanosPerSecond) :
    readFraction (writeFraction nanos ++ ['Z']) = some (nanos, ['Z']) := by
  have h : nanos < 1000000000 := h
  have hZ : ['Z'].dropWhile isDecimal = ['Z'] := by decide
  -- `width` digits of the number of units of `10 ^ (9 - width)` nanoseconds
  have digits {width n : Nat} (hw : 0 < width) (hw9 : width ≤ 9) (hn : n < Nat.pow 10 width)
      (hunit : n * Nat.pow 10 (9 - width) = nanos) :
      readFraction ('.' :: (padded width n ++ ['Z'])) = some (nanos, ['Z']) := by
    have hl := length_padded width n
    have ht : takeDigits 9 (padded width n ++ ['Z']) = (padded width n, ['Z']) :=
      takeDigits_append (fun _ hc => isDecimal_of_mem_padded hc) (by omega)
        (Or.inr (by simp only [List.head?_cons, Option.mem_some_iff]; rintro c rfl; decide))
    simp only [readFraction, ht, digits?_padded hw hn, hl, hZ, hunit, Option.map_some]
  unfold writeFraction
  split
  · next h0 => subst h0; rfl
  split
  · exact digits (by decide) (by decide) (show nanos / 1000000 < 1000 by omega)
      (show nanos / 1000000 * 1000000 = nanos by omega)
  split
  · exact digits (by decide) (by decide) (show nanos / 1000 < 1000000 by omega)
      (show nanos / 1000 * 1000 = nanos by omega)
  · exact digits (by decide) (by decide) h (Nat.mul_one nanos)

/-! ## 3. Whole timestamps -/

theorem shiftMinutes?_zero (t : Timestamp) : t.shiftMinutes? 0 = some t := by
  have hh := t.hour_lt
  have hm := t.minute_lt
  have hlo : ¬ (t.hour * 60 + t.minute : Int) + 0 < 0 := by omega
  have hhi : (t.hour * 60 + t.minute : Int) + 0 < 1440 := by omega
  have htotal : (((t.hour * 60 + t.minute : Int) + 0) % 1440).toNat = t.hour * 60 + t.minute := by
    omega
  have hhour : (t.hour * 60 + t.minute) / 60 = t.hour := by omega
  have hminute : (t.hour * 60 + t.minute) % 60 = t.minute := by omega
  simp only [shiftMinutes?, if_neg hlo, if_pos hhi, htotal, hhour, hminute, Option.bind_some,
    dif_pos hh]

/-- A timestamp is told by a text of its own just when a leap second ends a minute there. -/
theorem asWritten_eq_self_iff {t : Timestamp} : t.asWritten = t ↔ t.LeapEndsMinute := by
  constructor
  · intro h
    exact h ▸ t.leapEndsMinute_asWritten
  · intro h
    exact dif_neg fun hleap => hleap.2 (h hleap.1)

@[simp] theorem asWritten_asWritten (t : Timestamp) : t.asWritten.asWritten = t.asWritten :=
  asWritten_eq_self_iff.2 t.leapEndsMinute_asWritten

/-- A leap second that does not end a minute is written as the second after. -/
theorem asWritten_of_leap {t : Timestamp} (hleap : t.isLeap = true) (hsecond : t.second ≠ 59) :
    t.asWritten.second = t.second + 1 ∧ t.asWritten.nanos = t.nanos - nanosPerSecond
      ∧ t.asWritten.isLeap = false := by
  rw [asWritten, dif_pos ⟨hleap, hsecond⟩]
  refine ⟨rfl, rfl, decide_eq_false ?_⟩
  have hnanos := t.nanos_lt
  simp only
  omega

/-- The date, the hour and the minute are written as they are. -/
theorem clock_asWritten (t : Timestamp) :
    t.asWritten.date = t.date ∧ t.asWritten.hour = t.hour ∧ t.asWritten.minute = t.minute := by
  unfold asWritten
  split <;> exact ⟨rfl, rfl, rfl⟩

/-- **A timestamp has the same text as its written form.**  So the two cannot be told apart once
they are stored. -/
@[simp] theorem write_asWritten (t : Timestamp) : t.asWritten.write = t.write := by
  by_cases h : t.LeapEndsMinute
  · rw [asWritten_eq_self_iff.2 h]
  · obtain ⟨hleap, hsecond⟩ := Classical.not_imp.1 h
    obtain ⟨hdate, hhour, hminute⟩ := t.clock_asWritten
    obtain ⟨hnext, hnanos, hnot⟩ := asWritten_of_leap hleap hsecond
    simp only [write, hdate, hhour, hminute, hnext, hnanos, hnot, hleap, if_true,
      Bool.false_eq_true, if_false]

/-- The second and the nanoseconds of a timestamp as they are written: a leap second is one second
more, and it is read as such where it ends a minute. -/
theorem of?_written (t : Timestamp) :
    let (second, nanos) :=
      if t.isLeap then (t.second + 1, t.nanos - nanosPerSecond) else (t.second, t.nanos)
    second < 100 ∧ nanos < nanosPerSecond
      ∧ Timestamp.of? t.date t.hour t.minute second nanos = some t.asWritten := by
  obtain ⟨date, hour, minute, second, nanos, hh, hm, hs, hn⟩ := t
  by_cases hl : nanosPerSecond ≤ nanos
  · obtain ⟨-, hlt⟩ := hn.resolve_left (Nat.not_lt.2 hl)
    have hless : nanos - nanosPerSecond < nanosPerSecond := by omega
    simp only [isLeap, hl, decide_true, if_true]
    refine ⟨by omega, hless, ?_⟩
    by_cases hend : second = 59
    · have hback : nanos - nanosPerSecond + nanosPerSecond = nanos := Nat.sub_add_cancel hl
      simp [Timestamp.of?, asWritten, hend, hback, hh, hm, hl, hlt]
    · have hnext : second + 1 < 60 := by omega
      simp [Timestamp.of?, asWritten, isLeap, hend, hl, hh, hm, hless, hnext]
  · have hs60 : second ≠ 60 := by omega
    have hlt : nanos < nanosPerSecond := Nat.not_le.1 hl
    simp only [isLeap, hl, decide_false, Bool.false_eq_true, if_false]
    refine ⟨by omega, hlt, ?_⟩
    simp [Timestamp.of?, asWritten, isLeap, hl, hs60, hh, hm, hs, hlt]

/-- A reader that goes on after a part that was read. -/
theorem bind_of_read {α β : Type} {part : Option α} {a : α} {next : α → Option β}
    (h : part = some a) : (part >>= next) = next a := by
  rw [h]
  rfl

/-- **A timestamp is read back as it was written.**  A stray leap second is written as the second
after it, and no other timestamp is changed. -/
theorem read?_write (t : Timestamp) : read? t.write = some t.asWritten := by
  have hwritten := of?_written t
  have hmonth := t.date.month_mem
  have hday := t.date.day_mem
  have hdays := Date.daysInMonth_le t.date.year t.date.month
  have hdate : Date.of? t.date.year t.date.month t.date.day = some t.date :=
    Date.of?_of_mem t.date.year_mem hmonth hday
  have hhour := t.hour_lt
  have hminute := t.minute_lt
  unfold write
  generalize (if t.isLeap then (t.second + 1, t.nanos - nanosPerSecond)
    else (t.second, t.nanos)) = p at hwritten ⊢
  obtain ⟨second, nanos⟩ := p
  obtain ⟨hsecond, hnanos, hof⟩ := hwritten
  simp only [List.append_assoc, List.cons_append]
  have hdash : isBlank '-' = false := by decide
  have hcolon : isBlank ':' = false := by decide
  have htwo {n : Nat} (hn : n < 100) (rest : List Char) :
      readNumber 2 (padded 2 n ++ rest) = some (n, rest) := readNumber_padded (by decide) hn rest
  have hutc : readOffset (trimStart ['Z']) = some (0, []) := by decide
  -- The parts of the text, one after another, and then what they are put together to.
  calc read? _
      = _ := bind_of_read (readYear_writeYear _ _)
    _ = _ := bind_of_read (readMark_cons hdash _)
    _ = _ := bind_of_read (htwo (by omega) _)
    _ = _ := bind_of_read (readMark_cons hdash _)
    _ = _ := bind_of_read (htwo (by omega) _)
    _ = _ := bind_of_read (htwo (by omega) _)
    _ = _ := bind_of_read (readMark_cons hcolon _)
    _ = _ := bind_of_read (htwo (by omega) _)
    _ = _ := bind_of_read (readMark_cons hcolon _)
    _ = _ := bind_of_read (htwo hsecond _)
    _ = _ := bind_of_read (readFraction_writeFraction hnanos)
    _ = _ := bind_of_read hutc
    _ = _ := bind_of_read hdate
    _ = _ := bind_of_read hof
    _ = some t.asWritten := shiftMinutes?_zero t.asWritten

/-- A timestamp that was put together from numbers has a leap second at the end of a minute. -/
theorem leapEndsMinute_of? {date : Date} {hour minute second nanos : Nat} :
    ∀ t ∈ Timestamp.of? date hour minute second nanos, t.LeapEndsMinute := by
  intro t ht
  unfold Timestamp.of? at ht
  generalize (if second = 60 then (59, nanos + nanosPerSecond) else (second, nanos)) = p at ht
  obtain ⟨second, nanos⟩ := p
  obtain ⟨hfit, hsome⟩ := Option.dite_none_right_eq_some.1 ht
  cases hsome
  intro hleap
  have hnanos := of_decide_eq_true hleap
  rcases hfit.2.2.2 with hlt | ⟨hend, -⟩
  · exact absurd hnanos (Nat.not_le.2 hlt)
  · exact hend

/-- An offset changes neither the second nor the nanoseconds. -/
theorem leapEndsMinute_shiftMinutes? {t : Timestamp} (h : t.LeapEndsMinute) (minutes : Int) :
    ∀ t' ∈ t.shiftMinutes? minutes, t'.LeapEndsMinute := by
  intro t' ht'
  obtain ⟨date, -, hshift⟩ := Option.bind_eq_some_iff.1 ht'
  obtain ⟨_, hsome⟩ := Option.dite_none_right_eq_some.1 hshift
  cases hsome
  exact h

/-- What holds of whatever a reader goes on to, holds of what it reads. -/
theorem forall_mem_bind {α β : Type} {P : β → Prop} {part : Option α} {next : α → Option β}
    (h : ∀ a ∈ part, ∀ b ∈ next a, P b) : ∀ b ∈ part >>= next, P b := by
  intro b hb
  obtain ⟨a, ha, hnext⟩ := Option.bind_eq_some_iff.1 hb
  exact h a ha b hnext

/-- **No text tells a timestamp that is written otherwise.**  So what was read from a text reads
back as itself from then on. -/
theorem asWritten_of_read? {cs : List Char} {t : Timestamp} (h : read? cs = some t) :
    t.asWritten = t := by
  apply asWritten_eq_self_iff.2
  revert t h
  change ∀ t ∈ read? cs, t.LeapEndsMinute
  unfold read?
  refine forall_mem_bind fun ⟨year, cs⟩ _ => ?_
  refine forall_mem_bind fun cs _ => ?_
  refine forall_mem_bind fun ⟨month, cs⟩ _ => ?_
  refine forall_mem_bind fun cs _ => ?_
  refine forall_mem_bind fun ⟨day, cs⟩ _ => ?_
  dsimp only
  split
  · split
    · refine forall_mem_bind fun cs _ => ?_
      refine forall_mem_bind fun ⟨hour, cs⟩ _ => ?_
      refine forall_mem_bind fun cs _ => ?_
      refine forall_mem_bind fun ⟨minute, cs⟩ _ => ?_
      refine forall_mem_bind fun cs _ => ?_
      refine forall_mem_bind fun ⟨second, cs⟩ _ => ?_
      refine forall_mem_bind fun ⟨nanos, cs⟩ _ => ?_
      refine forall_mem_bind fun ⟨offset, cs⟩ _ => ?_
      dsimp only
      split
      · refine forall_mem_bind fun date _ => ?_
        exact forall_mem_bind fun t ht => leapEndsMinute_shiftMinutes? (leapEndsMinute_of? t ht) _
      · exact fun _ hnone => nomatch hnone
    · exact forall_mem_bind fun _ hnone => nomatch hnone
  · exact forall_mem_bind fun _ hnone => nomatch hnone

end Notekeeper.Timestamp

namespace Notekeeper.Sample

/-- A third of a second into a leap second that ends no minute. -/
def strayLeap : Timestamp :=
  { Timestamp.epoch with
    date := ⟨2024, 5, 17, by decide, by decide, by decide⟩
    hour := 12
    second := 4
    nanos := 1333333333
    hour_lt := by decide
    second_lt := by decide
    nanos_lt := .inr ⟨by decide, by decide⟩ }

example : (Timestamp.read? strayLeap.write).map Timestamp.write
    = some "2024-05-17T12:00:05.333333333Z".toList := by decide

end Notekeeper.Sample
