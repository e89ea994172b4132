import Switchboard.Text.Numeral

/-! # Numerals read back

The numeral that is written for a number of 32 bits, signed or not, reads back as the
number.
-/

namespace Switchboard.Text.Numeral

theorem isDigit_of_mem_toDigits {n : Nat} {c : Char} (h : c ∈ Nat.toDigits 10 n) :
    c.isDigit = true :=
  Nat.isDigit_of_mem_toDigits (by decide) (by decide) h

/-- A reader of unsigned numerals accepts the numeral of a number within its limit. -/
theorem nat?_toDigits {n limit : Nat} (h : n ≤ limit) :
    nat? limit (Nat.toDigits 10 n) = some n := by
  have hplus : ∀ rest, Nat.toDigits 10 n ≠ '+' :: rest := by
    intro rest he
    have hd := isDigit_of_mem_toDigits (n := n) (c := '+') (by simp [he])
    exact absurd hd (by decide)
  unfold nat?
  split
  · next rest he => exact absurd he (hplus rest)
  · simp [digits?_toDigits, h]

theorem uint32?_ofNat (n : UInt32) : uint32? (ofNat n.toNat) = some n := by
  have hlt := n.toNat_lt_size
  have hread : nat? (UInt32.size - 1) (Nat.toDigits 10 n.toNat) = some n.toNat :=
    nat?_toDigits (by omega)
  rw [uint32?, ofNat, String.toList_ofList, hread, Option.map_some, UInt32.ofNat_toNat]

/-- A reader of signed numerals accepts the numeral of a number within its range. -/
theorem int?_ofInt {low high n : Int} (hlow : low ≤ n) (hhigh : n ≤ high) :
    int? low high (ofInt n).toList = some n := by
  cases n with
  | ofNat n =>
      have hsign : ∀ c rest, Nat.toDigits 10 n = c :: rest → c.isDigit = true := by
        intro c rest he
        exact isDigit_of_mem_toDigits (n := n) (by simp [he])
      simp only [ofInt, ofNat, String.toList_ofList]
      unfold int?
      split
      · next rest he => exact absurd (hsign '+' rest he) (by decide)
      · next rest he => exact absurd (hsign '-' rest he) (by decide)
      · simp only [digits?_toDigits, Option.map_some]
        rw [Option.filter_some, if_pos]
        simp only [hlow, hhigh, decide_true, Bool.and_self]
  | negSucc n =>
      simp only [ofInt, String.toList_ofList]
      unfold int?
      simp only [digits?_toDigits, Option.map_some]
      rw [Option.filter_some, if_pos]
      · rfl
      · have he : -Int.ofNat (n + 1) = Int.negSucc n := rfl
        simp only [he, hlow, hhigh, decide_true, Bool.and_self]

theorem int32?_ofInt (n : Int32) : int32? (ofInt n.toInt) = some n := by
  rw [int32?, int?_ofInt (Int32.minValue_le_toInt n) (Int32.toInt_le n), Option.map_some,
    Int32.ofInt_toInt]

end Switchboard.Text.Numeral
