/-! # Time

Moments and spans count nanoseconds.  How long a sleep takes is up to a timer.
-/

namespace Switchboard.Columns

structure Duration where
  nanos : Nat
deriving DecidableEq, Repr

namespace Duration

def ofMillis (ms : Nat) : Duration := ⟨ms * 1000000⟩

def ofSeconds (seconds : Nat) : Duration := ⟨seconds * 1000000000⟩

def toNat (span : Duration) : Nat := span.nanos / 1000000

/-- A plain number counts milliseconds. -/
instance : Coe Nat Duration := ⟨ofMillis⟩

instance (ms : Nat) : OfNat Duration ms := ⟨ofMillis ms⟩

end Duration

/-- What wakes a sleeper. -/
class Timer where
  /-- When a sleep ends that starts at this moment and asks for this span. -/
  wake : Nat → Duration → Nat

end Switchboard.Columns
