import Switchboard.Json.Printer
import Switchboard.Json.Reader

/-! # Text literals read back

A text is written between quotes, with escapes in it, and what is written reads back as the
text.
-/

namespace Switchboard.Json

open Switchboard.Text

variable {strict : Bool} {c : Char} {text rest after : List Char}

/-! ## One character -/

theorem literal?_of_escape (escaped : escape? strict text = some (c, after)) :
    literal? strict ('\\' :: text) =
      (literal? strict after).map fun (literal, rest) => (c :: literal, rest) := by
  rw [literal?, if_neg (by decide), if_pos rfl]
  split
  · next none => rw [escaped] at none; cases none
  · next same =>
      rw [escaped] at same
      cases same
      rfl

theorem digit?_digitChar : ∀ n < 16, digit? 16 n.digitChar = some n := by decide

theorem hexUnit?_digits {n : Nat} (small : n < 0x20) :
    hexUnit? ('0' :: '0' :: (n / 16).digitChar :: (n % 16).digitChar :: text) = some (n, text) := by
  have zero : digit? 16 '0' = some 0 := by decide
  have high := digit?_digitChar (n / 16) (by omega)
  have low := digit?_digitChar (n % 16) (by omega)
  have value : ofDigits 16 [0, 0, n / 16, n % 16] = n := by
    simp only [ofDigits, List.foldl_cons, List.foldl_nil]
    omega
  simp [hexUnit?, zero, high, low, value]

theorem escape?_hexDigits (small : c.toNat < 0x20) :
    escape? strict ('u' :: '0' :: '0' :: (c.toNat / 16).digitChar :: (c.toNat % 16).digitChar ::
      text) = some (c, text) := by
  rw [escape?, unicodeEscape?, hexUnit?_digits small]
  have shown : (!(decide (0xD800 ≤ c.toNat) && decide (c.toNat < 0xE000))) = true := by
    simp only [Bool.not_eq_true', Bool.and_eq_false_iff, decide_eq_false_iff_not]
    omega
  dsimp only
  rw [if_pos shown, Char.ofNat_toNat]

theorem escape?_shortEscape {letter : Char} (short : shortEscape? c = some letter) :
    escape? strict (letter :: text) = some (c, text) := by
  unfold shortEscape? at short
  repeat' split at short
  · next quoted =>
      cases short
      rcases quoted with rfl | rfl <;> rfl
  all_goals cases short
  all_goals subst_vars; rfl

/-- A character that needs no escape stands for itself. -/
theorem literal?_cons (plain : shortEscape? c = none) (large : ¬ c.toNat < 0x20) :
    literal? strict (c :: text) =
      (literal? strict text).map fun (literal, rest) => (c :: literal, rest) := by
  have quote : c ≠ '"' := by rintro rfl; cases plain
  have backslash : c ≠ '\\' := by rintro rfl; cases plain
  rw [literal?, if_neg quote, if_neg backslash, if_neg large]

theorem literal?_escapeChar (c : Char) (text : List Char) :
    literal? strict (escapeChar c ++ text) =
      (literal? strict text).map fun (literal, rest) => (c :: literal, rest) := by
  unfold escapeChar
  split
  · next short => exact literal?_of_escape (escape?_shortEscape short)
  · next plain =>
      split
      · next small => exact literal?_of_escape (escape?_hexDigits small)
      · next large => exact literal?_cons plain large

/-! ## The whole text -/

theorem literal?_escaped (text rest : List Char) :
    literal? strict (text.flatMap escapeChar ++ '"' :: rest) = some (text, rest) := by
  induction text with
  | nil => rw [List.flatMap_nil, List.nil_append, literal?, if_pos rfl]
  | cons c text ih =>
      rw [List.flatMap_cons, List.append_assoc, literal?_escapeChar, ih]
      rfl

theorem readValue_literal (fuel : Nat) (text : String) :
    readValue strict (fuel + 1) (literal text) = some (.str text, []) := by
  have closed : literal? strict (text.toList.flatMap escapeChar ++ ['"']) =
      some (text.toList, []) := literal?_escaped text.toList []
  have opened : readValue strict (fuel + 1) (literal text) =
      (literal? strict (text.toList.flatMap escapeChar ++ ['"'])).map
        fun (literal, rest) => (.str (String.ofList literal), rest) := by
    rw [readValue]
    rfl
  rw [opened, closed, Option.map_some]
  dsimp only
  rw [String.ofList_toList]

/-- A printed text is read as that text. -/
theorem parse?_render_str (text : String) : parse? (render (.str text)) = some (.str text) := by
  rw [render, parse?, chars, String.toList_ofList, read?, readValue_literal]
  rfl

end Switchboard.Json
