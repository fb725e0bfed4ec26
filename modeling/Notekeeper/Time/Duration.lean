import Notekeeper.Json.Record
import Notekeeper.Time.Timestamp
/-!
# Durations

A length of time: whole seconds in 64 bits, and nanoseconds below a second.  A duration counts as
exceeded when more time than that has elapsed between two timestamps.

* `Duration.exceededBetween` decides that in the range of signed milliseconds; a duration beyond
  that range is never exceeded, since no two timestamps are that far apart.
-/

namespace Notekeeper

/-- **A length of time.** -/
structure Duration where
  seconds : UInt64
  nanos : Nat
  nanos_lt : nanos < nanosPerSecond
  deriving DecidableEq

namespace Duration

/-- A whole number of seconds. -/
def ofSeconds (seconds : UInt64) : Duration := ⟨seconds, 0, by decide⟩

/-- No time at all. -/
def zero : Duration := ofSeconds 0

/-- A whole number of milliseconds. -/
def ofMillis (millis : UInt64) : Duration where
  seconds := millis / 1000
  nanos := (millis % 1000).toNat * 1000000
  nanos_lt := by
    have h : (millis % 1000).toNat < 1000 := by
      rw [UInt64.toNat_mod]
      exact Nat.mod_lt _ (by decide)
    simp only [nanosPerSecond]
    omega

/-- A whole number of hours, as many seconds of it as 64 bits hold. -/
def ofHours (hours : UInt64) : Duration :=
  ofSeconds (UInt64.ofNat (min (hours.toNat * 3600) (UInt64.size - 1)))

/-- The nanoseconds of a duration. -/
def inNanos (d : Duration) : Nat := d.seconds.toNat * nanosPerSecond + d.nanos

/-- The greatest number of nanoseconds that a signed count of milliseconds in 64 bits covers. -/
def maxComparable : Nat := 9223372036854775807 * 1000000

/-- **Whether more time than `limit` has elapsed between two timestamps.** -/
def exceededBetween (limit : Duration) (earlier later : Timestamp) : Bool :=
  if limit.inNanos ≤ maxComparable then limit.inNanos < later.elapsed earlier else false

/-- The duration of whole seconds and any 32-bit number of nanoseconds; none when the seconds do
not fit. -/
def of? (seconds nanos : Nat) : Option Duration :=
  let total := seconds + nanos / nanosPerSecond
  if total < UInt64.size then
    some ⟨UInt64.ofNat total, nanos % nanosPerSecond, Nat.mod_lt _ (by decide)⟩
  else none

instance : Record Duration where
  toJson d := .record [("secs", .natural d.seconds.toNat), ("nanos", .natural d.nanos)]
  ofJson? j := do
    let [seconds, nanos] ← j.fields? false [["secs"], ["nanos"]] | none
    let seconds ← Json.required (Json.below? UInt64.size) seconds
    let nanos ← Json.required (Json.below? UInt32.size) nanos
    of? seconds nanos

end Duration
end Notekeeper
