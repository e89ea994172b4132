import Switchboard.Columns.Time

/-! # The timer that the server runs on

A sleep ends at a whole millisecond.  It lasts no longer than the longest one, and no time
passes in one that would have to end in the past.
-/

namespace Switchboard.Columns.Runtime

/-- Thirty years of 365 days. -/
def longestSleep : Duration := .ofSeconds 946080000

/-- The last moment that a sleep can be set to end at. -/
def lastWake : Nat := (Duration.ofMillis (UInt64.size - 3)).nanos

instance : Timer where
  wake now span :=
    let due := now + min span.nanos longestSleep.nanos
    let tick := (due + 999999) / 1000000
    max now (min (Duration.ofMillis tick).nanos lastWake)

end Switchboard.Columns.Runtime
