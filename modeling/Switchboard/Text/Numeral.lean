/-! # Decimal numerals

Whole numbers written in ASCII digits.  A reader names the range it accepts; a
numeral outside it is refused, never wrapped.
-/

namespace Switchboard.Text.Numeral

/-- The value of a non-empty run of ASCII digits; leading zeros are allowed. -/
def digits? (text : List Char) : Option Nat :=
  if !text.isEmpty && text.all Char.isDigit then some (Nat.ofDigitChars 10 text 0) else none

/-- A numeral from 0 to `limit`, with an optional plus sign. -/
def nat? (limit : Nat) (text : List Char) : Option Nat :=
  let value := match text with
    | '+' :: rest => digits? rest
    | _ => digits? text
  value.filter (· ≤ limit)

def int? (low high : Int) (text : List Char) : Option Int :=
  let value := match text with
    | '+' :: rest => (digits? rest).map Int.ofNat
    | '-' :: rest => (digits? rest).map fun n => -Int.ofNat n
    | _ => (digits? text).map Int.ofNat
  value.filter fun n => low ≤ n && n ≤ high

def uint16? (text : String) : Option UInt16 :=
  (nat? (UInt16.size - 1) text.toList).map UInt16.ofNat

def uint32? (text : String) : Option UInt32 :=
  (nat? (UInt32.size - 1) text.toList).map UInt32.ofNat

def uint64? (text : String) : Option UInt64 :=
  (nat? (UInt64.size - 1) text.toList).map UInt64.ofNat

def int32? (text : String) : Option Int32 :=
  (int? Int32.minValue.toInt Int32.maxValue.toInt text.toList).map Int32.ofInt

def ofNat (n : Nat) : String :=
  String.ofList (Nat.toDigits 10 n)

def ofInt : Int → String
  | .ofNat n => ofNat n
  | .negSucc n => String.ofList ('-' :: Nat.toDigits 10 (n + 1))

theorem digits?_toDigits (n : Nat) : digits? (Nat.toDigits 10 n) = some n := by
  have nonempty : Nat.toDigits 10 n ≠ [] := by
    rw [Nat.toDigits_eq_if (by decide)]
    split <;> simp
  have digit : (Nat.toDigits 10 n).all Char.isDigit = true := by
    rw [List.all_eq_true]
    exact fun c h => Nat.isDigit_of_mem_toDigits (by decide) (by decide) h
  simp [digits?, nonempty, digit, Nat.ofDigitChars_toDigits]

end Switchboard.Text.Numeral
