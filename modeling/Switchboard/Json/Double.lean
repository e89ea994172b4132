/-! # Whole numbers in double precision

A double keeps 53 significant bits.  A whole number goes to the nearest one that
has no more, at most half a unit of its last bit away, and from 2^1024 on there is
none.
-/

namespace Switchboard.Json

/-- The weight of the last of 53 significant bits; one when the number has no more of them. -/
def lastBit (n : Nat) : Nat :=
  1 <<< (n.log2 - 52)

/-- The whole number nearest to this one among those of 53 significant bits; of two equally near
the one with the even last bit. -/
def toDouble (n : Nat) : Nat :=
  let kept := n / lastBit n
  let lost := 2 * (n % lastBit n)
  if lost < lastBit n ∨ (lost = lastBit n ∧ kept % 2 = 0) then kept * lastBit n
  else (kept + 1) * lastBit n

def firstInfinite : Nat := 1 <<< 1024

end Switchboard.Json
