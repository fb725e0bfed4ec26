import Notekeeper.Time.Date

/-!
# Days of the calendar

Days are numbered so that the days between two dates are a difference.  The numbers follow the
calendar: they grow with year, month and day, and a day has the number after that of the day
before it.

That the numbers grow is shown from the inside out.  A day of a month is counted by the end of the
month, a month is over before any later one begins, and the same goes for the years.  So a date that
comes before another one by year, month and day has a lower number; and since one of two dates
comes before the other unless they are the same, the converse follows, and no two dates share a
number.  The successor of a date is defined on the calendar, by cases on the last day of a month and
of a year, and its number is one more in each of them.  Going on day after day is then adding to the
number, as long as the calendar lasts.

* `Date.dayNumber_lt_iff` : a date with a lower number comes before, by year, month and day.
* `Date.dayNumber_next?` : the day after has the next number.
* `Date.daysOn_eq_some_iff` : so many days after a date comes the one with its number so much
  higher.
-/

namespace Notekeeper.Date

/-! ## 1. Months and years -/

theorem one_le_daysInMonth (year : Int) (month : Nat) : 1 ≤ daysInMonth year month := by
  unfold daysInMonth
  repeat' split
  all_goals omega

theorem daysInMonth_le (year : Int) (month : Nat) : daysInMonth year month ≤ 31 := by
  unfold daysInMonth
  repeat' split
  all_goals omega

/-- The number of days in a year. -/
def daysInYear (year : Int) : Nat := if isLeapYear year then 366 else 365

theorem daysBeforeMonth_succ {year : Int} {month : Nat} (h : 1 ≤ month) :
    daysBeforeMonth year (month + 1) = daysBeforeMonth year month + daysInMonth year month := by
  obtain ⟨month, rfl⟩ := Nat.exists_eq_add_of_le' h
  rfl

/-- The months make up the year. -/
theorem daysBeforeMonth_thirteen (year : Int) : daysBeforeMonth year 13 = daysInYear year := by
  cases hleap : isLeapYear year <;>
    simp [daysBeforeMonth, daysInMonth, daysInYear, hleap]

/-- A month is over before any later one begins. -/
theorem daysBeforeMonth_add_le {year : Int} {month month' : Nat} (h : 1 ≤ month)
    (hlt : month < month') :
    daysBeforeMonth year month + daysInMonth year month ≤ daysBeforeMonth year month' := by
  rw [← daysBeforeMonth_succ h]
  induction hlt with
  | refl => exact Nat.le_refl _
  | @step month' hlt ih =>
    rw [daysBeforeMonth_succ (Nat.le_trans h (Nat.le_of_lt hlt))]
    exact Nat.le_trans ih (Nat.le_add_right _ _)

/-- The years follow each other. -/
theorem daysBeforeYear_succ (year : Int) :
    daysBeforeYear (year + 1) = daysBeforeYear year + daysInYear year := by
  have hleap : isLeapYear year = true ↔ year % 4 = 0 ∧ (year % 100 ≠ 0 ∨ year % 400 = 0) := by
    simp [isLeapYear]
  unfold daysInYear daysBeforeYear
  split
  · next h =>
    have hdivides := hleap.1 h
    omega
  · next h =>
    have hdivides := mt hleap.2 h
    omega

theorem daysBeforeYear_mono {year year' : Int} (h : year ≤ year') :
    daysBeforeYear year ≤ daysBeforeYear year' := by
  unfold daysBeforeYear
  omega

/-! ## 2. Dates in order -/

/-- **Whether a date comes before another one**: by year, month and day. -/
def Before (d d' : Date) : Prop :=
  d.year < d'.year ∨ d.year = d'.year ∧ (d.month < d'.month ∨ d.month = d'.month ∧ d.day < d'.day)

/-- Every day of a year is counted by the end of the year. -/
theorem dayOfYear_le (d : Date) : daysBeforeMonth d.year d.month + d.day ≤ daysInYear d.year := by
  have hday := d.day_mem
  have hover : daysBeforeMonth d.year d.month + daysInMonth d.year d.month
      ≤ daysBeforeMonth d.year 13 :=
    daysBeforeMonth_add_le d.month_mem.1 (Nat.lt_succ_of_le d.month_mem.2)
  rw [daysBeforeMonth_thirteen] at hover
  omega

/-- A later date has a higher number. -/
theorem dayNumber_lt_of_before {d d' : Date} (h : d.Before d') : d.dayNumber < d'.dayNumber := by
  have hday := d.day_mem
  have hday' := d'.day_mem
  unfold dayNumber
  rcases h with hyear | ⟨hyear, hmonth | ⟨hmonth, hlt⟩⟩
  · have hend := d.dayOfYear_le
    have hyears : daysBeforeYear (d.year + 1) ≤ daysBeforeYear d'.year :=
      daysBeforeYear_mono hyear
    rw [daysBeforeYear_succ] at hyears
    omega
  · have hmonths : daysBeforeMonth d.year d.month + daysInMonth d.year d.month
        ≤ daysBeforeMonth d.year d'.month := daysBeforeMonth_add_le d.month_mem.1 hmonth
    rw [← hyear]
    omega
  · rw [← hyear, ← hmonth]
    omega

/-- Of two dates one comes before the other, or they are the same. -/
theorem before_trichotomy (d d' : Date) : d.Before d' ∨ d = d' ∨ d'.Before d := by
  by_cases hsame : d.year = d'.year ∧ d.month = d'.month ∧ d.day = d'.day
  · obtain ⟨hyear, hmonth, hday⟩ := hsame
    cases d
    cases d'
    simp_all
  · unfold Before
    omega

/-- **The date with a lower number comes before.** -/
theorem dayNumber_lt_iff {d d' : Date} : d.dayNumber < d'.dayNumber ↔ d.Before d' := by
  refine ⟨fun hlt => ?_, dayNumber_lt_of_before⟩
  rcases before_trichotomy d d' with h | rfl | h
  · exact h
  · omega
  · have hgt := dayNumber_lt_of_before h
    omega

theorem dayNumber_inj {d d' : Date} : d.dayNumber = d'.dayNumber ↔ d = d' := by
  refine ⟨fun heq => ?_, congrArg dayNumber⟩
  rcases before_trichotomy d d' with h | h | h
  · have hlt := dayNumber_lt_of_before h
    omega
  · exact h
  · have hgt := dayNumber_lt_of_before h
    omega

/-! ## 3. Day after day -/

theorem of?_of_mem {year : Int} {month day : Nat} (hy : minYear ≤ year ∧ year ≤ maxYear)
    (hm : 1 ≤ month ∧ month ≤ 12) (hd : 1 ≤ day ∧ day ≤ daysInMonth year month) :
    of? year month day = some ⟨year, month, day, hy, hm, hd⟩ := by
  rw [of?, dif_pos hy, dif_pos hm, dif_pos hd]

theorem of?_eq_some {year : Int} {month day : Nat} {d : Date} (h : of? year month day = some d) :
    d.year = year ∧ d.month = month ∧ d.day = day := by
  unfold of? at h
  split at h
  · split at h
    · split at h
      · cases h
        exact ⟨rfl, rfl, rfl⟩
      · cases h
    · cases h
  · cases h

/-- **The day after has the next number.** -/
theorem dayNumber_next? {d d' : Date} (h : d.next? = some d') :
    d'.dayNumber = d.dayNumber + 1 := by
  have hmonth := d.month_mem
  have hday := d.day_mem
  unfold dayNumber
  unfold next? at h
  split at h
  · obtain ⟨hyear', hmonth', hday'⟩ := of?_eq_some h
    rw [hyear', hmonth', hday']
    omega
  · split at h
    · obtain ⟨hyear', hmonth', hday'⟩ := of?_eq_some h
      rw [hyear', hmonth', hday', daysBeforeMonth_succ hmonth.1]
      omega
    · obtain ⟨hyear', hmonth', hday'⟩ := of?_eq_some h
      have hover : daysBeforeMonth d.year (d.month + 1) = _ := daysBeforeMonth_succ hmonth.1
      have hlast : d.month + 1 = 13 := by omega
      rw [hlast, daysBeforeMonth_thirteen] at hover
      rw [hyear', hmonth', hday', daysBeforeYear_succ, hover]
      simp only [daysBeforeMonth]
      omega

/-- A date that another one comes after is not the last day of the calendar. -/
theorem exists_next? {d d' : Date} (h : d.Before d') : ∃ e, d.next? = some e := by
  have hyear := d.year_mem
  have hmonth := d.month_mem
  have hday := d.day_mem
  unfold next?
  split
  · next hlt => exact ⟨_, of?_of_mem hyear hmonth ⟨by omega, hlt⟩⟩
  · next hlast =>
    split
    · next hlt =>
      exact ⟨_, of?_of_mem hyear ⟨by omega, hlt⟩ ⟨Nat.le_refl 1, one_le_daysInMonth _ _⟩⟩
    · -- the last day of its year: what comes after it is in a later year
      have hyears : d.year < d'.year := by
        rcases h with hlt | ⟨hsame, hlt | ⟨hsame', hlt⟩⟩
        · exact hlt
        · have hmonth' := d'.month_mem
          omega
        · have hday' := d'.day_mem
          rw [← hsame, ← hsame'] at hday'
          omega
      have hyear' := d'.year_mem
      exact ⟨_, of?_of_mem ⟨by omega, by omega⟩ (by decide)
        ⟨Nat.le_refl 1, one_le_daysInMonth _ _⟩⟩

/-- **The date so many days after another one**, if the calendar goes on for so long. -/
def daysOn : Nat → Date → Option Date
  | 0, d => some d
  | n + 1, d => d.next?.bind (daysOn n)

/-- **So many days after a date** comes the one whose number is so much higher. -/
theorem daysOn_eq_some_iff {n : Nat} {d d' : Date} :
    daysOn n d = some d' ↔ d'.dayNumber = d.dayNumber + n := by
  induction n generalizing d with
  | zero =>
    rw [daysOn, Option.some.injEq, ← dayNumber_inj]
    omega
  | succ n ih =>
    rw [daysOn, Option.bind_eq_some_iff]
    constructor
    · rintro ⟨e, hnext, hrest⟩
      have hnumber := dayNumber_next? hnext
      have hnumber' := ih.1 hrest
      omega
    · intro hnumber
      have hlt : d.dayNumber < d'.dayNumber := by omega
      obtain ⟨e, hnext⟩ := exists_next? (dayNumber_lt_iff.1 hlt)
      have hnumber' := dayNumber_next? hnext
      exact ⟨e, hnext, ih.2 (by omega)⟩

/-- The first of March of a leap year comes two days after the 28th of February. -/
example : (of? 2024 2 28).bind (daysOn 2) = of? 2024 3 1 := by decide

end Notekeeper.Date
