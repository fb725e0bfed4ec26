import Notekeeper.Config
import Notekeeper.Notebook.Cache
import Notekeeper.Proofs.Time.Elapsed

/-!
# When a notebook list is outdated

A cached list is outdated when more time has gone by than its limit, to the nanosecond.  That is
so for every limit: one that cannot be compared with any time, or whose hours do not fit in 64
bits as seconds, is longer than the calendar.

What is said of a list and a time to look at it is gathered in one structure.  Its fields are about
the time that has gone by, told by the calendar and not by the computation: there is such a time, it
can be compared with any limit, and the list is outdated just when it is the longer one.  From that
follow the two ways in which a list grows old, by looking at it later and by a shorter limit, and
the rule for hours that do not fit.  Each field is a result on elapsed time, put into terms of the
list.

* `NotebookCache.OutdatedExactly` : what is said of a list and a time to look at it.
* `NotebookCache.outdatedExactly` : it holds of any list and any time, leap seconds apart.
* `NotebookCache.lasting_outdatedExactly` : the longest time that there is, and a limit just below.
-/

namespace Notekeeper.NotebookCache

variable {cache : NotebookCache} {now : Timestamp}

/-- **Whether a list is outdated exactly when its limit has gone by**, in nanoseconds that are
counted on the calendar. -/
structure OutdatedExactly (cache : NotebookCache) (now : Timestamp) : Prop where
  /-- Some time has gone by since the list was taken, or has yet to. -/
  elapses : ∃ n, Timestamp.Elapses cache.timestamp now n
  /-- It is no longer, either way, than can be compared with a limit. -/
  comparable : ∀ n, Timestamp.Elapses cache.timestamp now n → n.natAbs ≤ Duration.maxComparable
  /-- The list is outdated when that time is longer than the limit, and only then. -/
  exceeded : ∀ n, Timestamp.Elapses cache.timestamp now n →
    (cache.isOutdatedAt now = true ↔ (cache.limit.inNanos : Int) < n)
  /-- So it is with a limit of hours, however many seconds those are. -/
  hours : ∀ config : Config, ∀ n, Timestamp.Elapses cache.timestamp now n →
    ({ cache with limit := config.notebookCacheLimit }.isOutdatedAt now = true ↔
      (config.notebookCacheHours.toNat * 3600 * nanosPerSecond : Int) < n)
  /-- A list that is outdated stays so. -/
  later : ∀ now' : Timestamp, now'.isLeap = false → now.NotAfter now' →
    cache.isOutdatedAt now = true → cache.isOutdatedAt now' = true
  /-- It would be so the more with a shorter limit. -/
  shorter : ∀ limit : Duration, limit.inNanos ≤ cache.limit.inNanos →
    cache.isOutdatedAt now = true → { cache with limit := limit }.isOutdatedAt now = true

/-- A list is outdated when more time than its limit has elapsed. -/
theorem isOutdatedAt_iff :
    cache.isOutdatedAt now = true ↔ (cache.limit.inNanos : Int) < now.elapsed cache.timestamp :=
  Duration.exceededBetween_eq_true

/-- **A list is outdated exactly when its limit has gone by**, whatever the limit.  At a later time
or with a shorter limit it is outdated all the more, and a limit of hours counts for that many
hours, however many. -/
theorem outdatedExactly (hcache : cache.timestamp.isLeap = false) (hnow : now.isLeap = false) :
    OutdatedExactly cache now where
  elapses := ⟨_, (Timestamp.elapses_iff hcache hnow).2 rfl⟩
  comparable n hn := by
    have hle := now.elapsed_le cache.timestamp
    have hge := cache.timestamp.elapsed_le now
    have hcomm := Timestamp.elapsed_comm hcache hnow
    rw [(Timestamp.elapses_iff hcache hnow).1 hn]
    omega
  exceeded n hn := by
    rw [(Timestamp.elapses_iff hcache hnow).1 hn]
    exact isOutdatedAt_iff
  hours config n hn := by
    rw [(Timestamp.elapses_iff hcache hnow).1 hn, isOutdatedAt_iff]
    exact Duration.hours_lt_iff _ (now.elapsed_le cache.timestamp)
  later now' hnow' hle houtdated := by
    have hmono := Timestamp.elapsed_le_of_notAfter hcache hnow hnow' hle
    exact isOutdatedAt_iff.2 (Int.lt_of_lt_of_le (isOutdatedAt_iff.1 houtdated) hmono)
  shorter limit hle houtdated := by
    have hlonger : (limit.inNanos : Int) ≤ cache.limit.inNanos := Int.ofNat_le.2 hle
    exact isOutdatedAt_iff.2 (Int.lt_of_le_of_lt hlonger (isOutdatedAt_iff.1 houtdated))

namespace Sample

/-- The first moment of the calendar, a first of January as the epoch is. -/
def dawn : Timestamp :=
  let january := Timestamp.epoch.date.month_mem
  { Timestamp.epoch with date := ⟨minYear, 1, 1, by decide, january, by decide⟩ }

/-- The last moment of the calendar. -/
def dusk : Timestamp where
  date := ⟨maxYear, 12, 31, by decide, by decide, by decide⟩
  hour := 23
  minute := 59
  second := 59
  nanos := 999999999
  hour_lt := by decide
  minute_lt := by decide
  second_lt := by decide
  nanos_lt := .inl (by decide)

/-- A list that is kept for a nanosecond less than the calendar lasts. -/
def lasting : NotebookCache := ⟨[], dawn, ⟨16544868105599, 999999998, by decide⟩⟩

end Sample

/-- The list is outdated by the last nanosecond of the calendar.  It would not be with the most
hours that can be configured. -/
theorem lasting_outdatedExactly :
    OutdatedExactly Sample.lasting Sample.dusk
    ∧ Sample.lasting.isOutdatedAt Sample.dusk = true
    ∧ { Sample.lasting with limit := .ofHours 18446744073709551615 }.isOutdatedAt Sample.dusk
        = false := by
  refine ⟨outdatedExactly (by decide) (by decide), ?_, ?_⟩ <;> decide +kernel

end Notekeeper.NotebookCache
