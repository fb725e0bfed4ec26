import Notekeeper.Time.Date
/-!
# Timestamps

A point in time, to the nanosecond, by its date and time of day in UTC.  A second may hold up to
two seconds of nanoseconds; the timestamps past the first of them are in a leap second.  The
calendar has leap seconds at the end of a minute only, and a clock shows no others, but nothing
keeps a timestamp from being given its nanoseconds on another second.  Such a timestamp has no
text of its own: its text is that of the second after.

* `Timestamp.elapsed` is the time between two timestamps, in nanoseconds.
* `Timestamp.asWritten` is the timestamp that is told by the same text and has one of its own.
* `ClockTime` is a time that a clock may show.
-/

namespace Notekeeper

/-- The nanoseconds of a second. -/
def nanosPerSecond : Nat := 1000000000

/-- **A timestamp**: a date with a time of day.  Every second may hold up to two seconds of
nanoseconds, those from the second one on being in a leap second. -/
structure Timestamp where
  date : Date
  hour : Nat
  minute : Nat
  second : Nat
  nanos : Nat
  hour_lt : hour < 24
  minute_lt : minute < 60
  second_lt : second < 60
  nanos_lt : nanos < nanosPerSecond ∨ nanosPerSecond ≤ nanos ∧ nanos < 2 * nanosPerSecond
  deriving DecidableEq

namespace Timestamp

/-- The timestamp with these numbers, when they can be read as one.  Second 60 is the leap second,
and a leap second is read at the end of a minute only. -/
def of? (date : Date) (hour minute second nanos : Nat) : Option Timestamp :=
  let (second, nanos) := if second = 60 then (59, nanos + nanosPerSecond) else (second, nanos)
  if h : hour < 24 ∧ minute < 60 ∧ second < 60 ∧ (nanos < nanosPerSecond
      ∨ second = 59 ∧ nanosPerSecond ≤ nanos ∧ nanos < 2 * nanosPerSecond) then
    some ⟨date, hour, minute, second, nanos, h.1, h.2.1, h.2.2.1, h.2.2.2.imp_right And.right⟩
  else none

/-- The start of the first of January 1970. -/
def epoch : Timestamp where
  date := ⟨1970, 1, 1, by decide, by decide, by decide⟩
  hour := 0
  minute := 0
  second := 0
  nanos := 0
  hour_lt := by decide
  minute_lt := by decide
  second_lt := by decide
  nanos_lt := .inl (by decide)

/-- Whether a timestamp lies within a leap second. -/
def isLeap (t : Timestamp) : Bool := nanosPerSecond ≤ t.nanos

/-- Whether a timestamp that lies within a leap second has it at the end of a minute. -/
def LeapEndsMinute (t : Timestamp) : Prop := t.isLeap = true → t.second = 59

/-- **A timestamp as its text tells it**: a leap second is the second after, unless it ends a
minute. -/
def asWritten (t : Timestamp) : Timestamp :=
  if h : t.isLeap = true ∧ t.second ≠ 59 then
    { t with
      second := t.second + 1
      nanos := t.nanos - nanosPerSecond
      second_lt := by
        have hsecond := t.second_lt
        omega
      nanos_lt := by
        have hnanos := t.nanos_lt
        omega }
  else t

theorem leapEndsMinute_asWritten (t : Timestamp) : t.asWritten.LeapEndsMinute := by
  unfold asWritten
  split
  · intro hleap
    have hnanos := t.nanos_lt
    simp only [isLeap, decide_eq_true_eq] at hleap
    omega
  · next h =>
    intro hleap
    exact Decidable.byContradiction fun hsecond => h ⟨hleap, hsecond⟩

/-- The second of the day. -/
def secondOfDay (t : Timestamp) : Nat := t.hour * 3600 + t.minute * 60 + t.second

/-- The same second of the hour, `minutes` minutes later or earlier.  The result may fall on the
day before or after; none when the calendar ends there. -/
def shiftMinutes? (t : Timestamp) (minutes : Int) : Option Timestamp :=
  let total := (t.hour * 60 + t.minute : Int) + minutes
  let date? :=
    if total < 0 then t.date.previous? else if total < 1440 then some t.date else t.date.next?
  date?.bind fun date =>
    let m := (total % 1440).toNat
    if h : m / 60 < 24 then
      some { t with date := date, hour := m / 60, minute := m % 60, hour_lt := h,
                    minute_lt := Nat.mod_lt _ (by decide) }
    else none

/-- The seconds between two times of day, a leap second counted when the later one of them lies
behind it. -/
def secondsBetween (later earlier : Timestamp) : Int :=
  let seconds := (later.secondOfDay : Int) - earlier.secondOfDay
  if earlier.secondOfDay < later.secondOfDay ∧ earlier.isLeap then seconds + 1
  else if later.secondOfDay < earlier.secondOfDay ∧ later.isLeap then seconds - 1
  else seconds

/-- **The nanoseconds from `earlier` to `later`**, negative when `later` comes first. -/
def elapsed (later earlier : Timestamp) : Int :=
  ((later.date.dayNumber - earlier.date.dayNumber) * 86400 + secondsBetween later earlier)
      * nanosPerSecond
    + ((later.nanos : Int) - earlier.nanos)

end Timestamp

/-- **A time that a clock may show**: a leap second ends a minute there. -/
structure ClockTime where
  time : Timestamp
  leapEndsMinute : time.LeapEndsMinute

namespace ClockTime

/-- A clock that is set to a timestamp shows it as its text tells it. -/
def ofTimestamp (t : Timestamp) : ClockTime where
  time := t.asWritten
  leapEndsMinute := t.leapEndsMinute_asWritten

instance : Coe Timestamp ClockTime := ⟨ofTimestamp⟩

/-- The start of the first of January 1970. -/
def epoch : ClockTime := ⟨.epoch, nofun⟩

end ClockTime
end Notekeeper
