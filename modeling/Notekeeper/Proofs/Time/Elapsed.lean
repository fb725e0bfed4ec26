import Notekeeper.Proofs.Time.Calendar
import Notekeeper.Time.Duration

/-!
# Elapsed time and limits

The calendar is short enough that the time between any two timestamps can be compared with a
limit.  So a limit counts as exceeded exactly when more time has elapsed.

The time between two timestamps is computed from the numbers of their days and the seconds of the
day.  What it ought to be is said without numbers: the days from the earlier date to the later one
are gone through one after another (`Timestamp.Elapses`), and the difference in the time of day is
added.  Both are the same by what is known of day numbers, as long as neither timestamp is in a leap
second, which the computation counts in a way of its own.

A limit may be longer than the nanoseconds that a word holds.  The comparison then says that it was
not exceeded, and this is right, because the whole calendar is shorter than that.  The same bound
serves for hours whose seconds do not fit in a word: they are cut to the largest number that does,
and no time between two timestamps is longer than either.

* `Timestamp.elapsed_le` : no two timestamps are further apart than can be compared.
* `Timestamp.elapses_iff` : the time that elapses is that of the days between, counted one after
  another, and of the difference in the time of day.
* `Timestamp.elapsed_le_of_notAfter` : no less time has elapsed by a later timestamp.
* `Duration.exceededBetween_eq_false` : a limit that is not exceeded bounds the elapsed time.
* `Duration.hours_lt_iff` : an elapsed time exceeds a number of hours whether or not their seconds
  fit in 64 bits.
-/

namespace Notekeeper

/-! ## 1. The length of the calendar

The first and the last date that can be written bound every difference. -/

namespace Date

theorem daysBeforeMonth_le (year : Int) (month : Nat) :
    daysBeforeMonth year month ≤ 31 * month := by
  induction month with
  | zero => exact Nat.le_refl 0
  | succ month ih =>
    cases month with
    | zero => exact Nat.zero_le _
    | succ month =>
      have hmonth := daysInMonth_le year (month + 1)
      change daysBeforeMonth year (month + 1) + daysInMonth year (month + 1) ≤ _
      omega

/-- The calendar has less than a hundred million days on either side. -/
theorem dayNumber_mem (d : Date) : -100000000 ≤ d.dayNumber ∧ d.dayNumber ≤ 100000000 := by
  have hmonths := daysBeforeMonth_le d.year d.month
  have hdays := daysInMonth_le d.year d.month
  have hyear := d.year_mem
  have hmonth := d.month_mem
  have hday := d.day_mem
  unfold minYear maxYear at hyear
  unfold dayNumber daysBeforeYear
  omega

end Date

namespace Timestamp

theorem secondOfDay_lt (t : Timestamp) : t.secondOfDay < 86400 := by
  have hhour := t.hour_lt
  have hminute := t.minute_lt
  have hsecond := t.second_lt
  unfold secondOfDay
  omega

theorem secondsBetween_le (later earlier : Timestamp) : secondsBetween later earlier ≤ 86400 := by
  have hlater := later.secondOfDay_lt
  unfold secondsBetween
  simp only
  repeat' split
  all_goals omega

/-- **No two timestamps are further apart than can be compared with a limit.**  The calendar is far
too short for that. -/
theorem elapsed_le (later earlier : Timestamp) :
    later.elapsed earlier ≤ Duration.maxComparable := by
  have hlater := later.date.dayNumber_mem
  have hearlier := earlier.date.dayNumber_mem
  have hseconds := secondsBetween_le later earlier
  have hnanos : (later.nanos : Int) ≤ 2000000000 := by
    have hlt := later.nanos_lt
    unfold nanosPerSecond at hlt
    omega
  unfold elapsed nanosPerSecond Duration.maxComparable
  omega

/-! ## 2. Time that elapses -/

/-- The nanoseconds of a day. -/
def nanosPerDay : Nat := 86400 * nanosPerSecond

/-- The nanosecond of the day. -/
def nanosOfDay (t : Timestamp) : Nat := t.secondOfDay * nanosPerSecond + t.nanos

/-- **The nanoseconds that elapse from one timestamp to another**: those of the days between
them, gone through one after another, and of the difference in the time of day. -/
inductive Elapses (earlier later : Timestamp) : Int → Prop
  | onward {days : Nat} (h : Date.daysOn days earlier.date = some later.date) :
      Elapses earlier later (days * nanosPerDay + (later.nanosOfDay - earlier.nanosOfDay))
  | back {days : Nat} (h : Date.daysOn days later.date = some earlier.date) :
      Elapses earlier later (-(days * nanosPerDay) + (later.nanosOfDay - earlier.nanosOfDay))

variable {earlier later : Timestamp}

/-- Without leap seconds a second is a second. -/
theorem elapsed_eq (hearlier : earlier.isLeap = false) (hlater : later.isLeap = false) :
    later.elapsed earlier
      = (later.date.dayNumber - earlier.date.dayNumber) * nanosPerDay
        + (later.nanosOfDay - earlier.nanosOfDay) := by
  simp only [elapsed, secondsBetween, hearlier, hlater, Bool.false_eq_true, and_false, if_false,
    nanosOfDay, nanosPerDay, nanosPerSecond]
  omega

/-- **The time that elapses from any timestamp to any other**, by the calendar. -/
theorem elapses_iff {n : Int} (hearlier : earlier.isLeap = false)
    (hlater : later.isLeap = false) : Elapses earlier later n ↔ n = later.elapsed earlier := by
  rw [elapsed_eq hearlier hlater]
  constructor
  · rintro (@⟨days, hon⟩ | @⟨days, hon⟩)
    · have hnumber := Date.daysOn_eq_some_iff.1 hon
      have hbetween : later.date.dayNumber - earlier.date.dayNumber = days := by omega
      rw [hbetween]
    · have hnumber := Date.daysOn_eq_some_iff.1 hon
      have hbetween : later.date.dayNumber - earlier.date.dayNumber = -days := by omega
      rw [hbetween, Int.neg_mul]
  · rintro rfl
    rcases Int.le_total earlier.date.dayNumber later.date.dayNumber with hle | hle
    · obtain ⟨days, hdays⟩ := Int.eq_ofNat_of_zero_le (Int.sub_nonneg_of_le hle)
      rw [hdays]
      exact .onward (Date.daysOn_eq_some_iff.2 (by omega))
    · obtain ⟨days, hdays⟩ := Int.eq_ofNat_of_zero_le (Int.sub_nonneg_of_le hle)
      rw [← Int.neg_sub, hdays, Int.neg_mul]
      exact .back (Date.daysOn_eq_some_iff.2 (by omega))

/-- Time runs back as it runs on. -/
theorem elapsed_comm (hearlier : earlier.isLeap = false) (hlater : later.isLeap = false) :
    later.elapsed earlier = -earlier.elapsed later := by
  rw [elapsed_eq hearlier hlater, elapsed_eq hlater hearlier, ← Int.neg_sub, Int.neg_mul]
  omega

/-- **Whether a timestamp is no later than another one**: by date and time of day, and so without a
count of seconds. -/
def NotAfter (t t' : Timestamp) : Prop :=
  t.date.Before t'.date ∨ t.date = t'.date ∧ t.nanosOfDay ≤ t'.nanosOfDay

/-- A day is over before the next one begins. -/
theorem nanosOfDay_lt {t : Timestamp} (h : t.isLeap = false) : t.nanosOfDay < nanosPerDay := by
  have hsecond := t.secondOfDay_lt
  have hnanos : t.nanos < nanosPerSecond := Nat.not_le.1 (of_decide_eq_false h)
  unfold nanosOfDay nanosPerDay
  unfold nanosPerSecond at hnanos ⊢
  omega

/-- No less time has elapsed by a later timestamp. -/
theorem elapsed_le_of_notAfter {later' : Timestamp} (hearlier : earlier.isLeap = false)
    (hlater : later.isLeap = false) (hlater' : later'.isLeap = false)
    (h : later.NotAfter later') : later.elapsed earlier ≤ later'.elapsed earlier := by
  have hlt := nanosOfDay_lt hlater
  rw [elapsed_eq hearlier hlater, elapsed_eq hearlier hlater']
  unfold nanosPerDay nanosPerSecond at *
  rcases h with hbefore | ⟨hdate, hle⟩
  · have hdays := Date.dayNumber_lt_of_before hbefore
    omega
  · rw [hdate]
    omega

end Timestamp

/-! ## 3. Limits -/

namespace Duration

/-- **A limit that is not exceeded bounds the time that has elapsed**, however long it is.  No
timestamps are too far apart for this. -/
theorem exceededBetween_eq_false {limit : Duration} {earlier later : Timestamp} :
    limit.exceededBetween earlier later = false ↔ later.elapsed earlier ≤ limit.inNanos := by
  unfold exceededBetween
  split
  · rw [decide_eq_false_iff_not, Int.not_lt]
  · next h =>
    have hle := later.elapsed_le earlier
    constructor
    · intro _
      omega
    · intro _
      rfl

/-- A limit is exceeded when more time has elapsed, and only then. -/
theorem exceededBetween_eq_true {limit : Duration} {earlier later : Timestamp} :
    limit.exceededBetween earlier later = true ↔ (limit.inNanos : Int) < later.elapsed earlier := by
  rw [← Bool.not_eq_false, exceededBetween_eq_false, Int.not_le]

/-- The seconds of so many hours, where they fit in 64 bits. -/
theorem inNanos_ofHours (hours : UInt64) :
    (ofHours hours).inNanos
      = min (hours.toNat * 3600) (UInt64.size - 1) * nanosPerSecond := by
  have hfits : min (hours.toNat * 3600) (UInt64.size - 1) < UInt64.size :=
    Nat.lt_of_le_of_lt (Nat.min_le_right _ _) (by decide)
  rw [ofHours, ofSeconds, inNanos, UInt64.toNat_ofNat_of_lt' hfits, Nat.add_zero]

/-- **Hours whose seconds do not fit in 64 bits are as good as the seconds that do**: no time
that can elapse is longer than either. -/
theorem hours_lt_iff {n : Int} (hours : UInt64) (h : n ≤ maxComparable) :
    ((ofHours hours).inNanos : Int) < n ↔ (hours.toNat * 3600 * nanosPerSecond : Int) < n := by
  rw [inNanos_ofHours]
  unfold maxComparable at h
  unfold nanosPerSecond UInt64.size
  omega

end Duration
end Notekeeper
