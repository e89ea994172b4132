import Switchboard.Json.Double
import Switchboard.Text.Digit

/-! # The lexical elements of JSON

Blanks, text literals and numbers.  Readers take the text from where they stand
and answer what they read and the text after it, or nothing when it is malformed.
-/

namespace Switchboard.Json

open Switchboard.Text

def isSpace (c : Char) : Bool :=
  c == ' ' || c == '\n' || c == '\t' || c == '\r'

def skipSpace (text : List Char) : List Char :=
  text.dropWhile isSpace

/-! ## Text literals -/

def hexUnit? : List Char → Option (Nat × List Char)
  | a :: b :: c :: d :: rest => do
    let digits ← [a, b, c, d].mapM (digit? 16)
    return (ofDigits 16 digits, rest)
  | _ => none

/-- The character of a code unit after `\u`, with the second half of a surrogate pair if it needs
one.  When `strict` is false a surrogate need not be part of a pair. -/
def unicodeEscape? (strict : Bool) (text : List Char) : Option (Char × List Char) :=
  match hexUnit? text with
  | none => none
  | some (unit, rest) =>
    if !(0xD800 ≤ unit && unit < 0xE000) then some (Char.ofNat unit, rest)
    else if !strict then some ('\uFFFD', rest)
    else if 0xDC00 ≤ unit then none
    else match rest with
      | '\\' :: 'u' :: second =>
        match hexUnit? second with
        | some (low, rest) =>
          if 0xDC00 ≤ low ∧ low < 0xE000 then
            some (Char.ofNat (0x10000 + (unit - 0xD800) * 0x400 + (low - 0xDC00)), rest)
          else none
        | none => none
      | _ => none

def escape? (strict : Bool) : List Char → Option (Char × List Char)
  | '"' :: rest => some ('"', rest)
  | '\\' :: rest => some ('\\', rest)
  | '/' :: rest => some ('/', rest)
  | 'b' :: rest => some ('\x08', rest)
  | 'f' :: rest => some ('\x0c', rest)
  | 'n' :: rest => some ('\n', rest)
  | 'r' :: rest => some ('\r', rest)
  | 't' :: rest => some ('\t', rest)
  | 'u' :: rest => unicodeEscape? strict rest
  | _ => none

theorem hexUnit?_length {text rest : List Char} {unit : Nat}
    (h : hexUnit? text = some (unit, rest)) : rest.length < text.length := by
  unfold hexUnit? at h
  split at h
  · simp only [Option.bind_eq_bind, Option.bind_eq_some_iff, Option.pure_def, Option.some.injEq,
      Prod.mk.injEq] at h
    obtain ⟨_, _, _, rfl⟩ := h
    simp only [List.length_cons]; omega
  · simp at h

theorem length_lt_of_some_eq {c d : Char} {rest after : List Char} {n : Nat}
    (h : some (c, rest) = some (d, after)) (short : rest.length < n) : after.length < n := by
  simp only [Option.some.injEq, Prod.mk.injEq] at h
  exact h.2 ▸ short

theorem unicodeEscape?_length {strict : Bool} {text rest : List Char} {c : Char}
    (h : unicodeEscape? strict text = some (c, rest)) : rest.length < text.length := by
  unfold unicodeEscape? at h
  split at h
  · simp at h
  · rename_i unit after hu
    have first := hexUnit?_length hu
    split at h
    · exact length_lt_of_some_eq h first
    · split at h
      · exact length_lt_of_some_eq h first
      · split at h
        · simp at h
        · split at h
          · rename_i second _
            split at h
            · rename_i low rest' hl
              have second := hexUnit?_length hl
              split at h
              · exact length_lt_of_some_eq h (by simp only [List.length_cons] at first; omega)
              · simp at h
            · simp at h
          · simp at h

theorem escape?_length {strict : Bool} {text rest : List Char} {c : Char}
    (h : escape? strict text = some (c, rest)) : rest.length < text.length := by
  unfold escape? at h
  split at h
  case h_9 => exact Nat.lt_succ_of_lt (unicodeEscape?_length h)
  case h_10 => simp at h
  all_goals exact length_lt_of_some_eq h (by simp)

def literal? (strict : Bool) : List Char → Option (List Char × List Char)
  | [] => none
  | c :: rest =>
    if c = '"' then some ([], rest)
    else if c = '\\' then
      match h : escape? strict rest with
      | none => none
      | some (escaped, after) =>
        have := escape?_length h
        (literal? strict after).map fun (literal, after) => (escaped :: literal, after)
    else if c.toNat < 0x20 then none
    else (literal? strict rest).map fun (literal, after) => (c :: literal, after)
termination_by text => text.length
decreasing_by all_goals simp only [List.length_cons]; omega

/-! ## Numbers -/

structure Number where
  negative : Bool
  whole : List Nat
  fraction : Option (List Nat)
  exponent : Option Int
deriving DecidableEq, Repr

def whole? (text : List Char) : Option (List Nat × List Char) :=
  match digitRun 10 text with
  | ([], _) => none
  | (0 :: _ :: _, _) => none
  | (digits, rest) => some (digits, rest)

def fraction? : List Char → Option (Option (List Nat) × List Char)
  | '.' :: rest =>
    match digitRun 10 rest with
    | ([], _) => none
    | (digits, rest) => some (some digits, rest)
  | text => some (none, text)

def exponent? : List Char → Option (Option Int × List Char)
  | [] => some (none, [])
  | c :: rest =>
    if c = 'e' ∨ c = 'E' then
      let (negative, digits) := match rest with
        | '-' :: digits => (true, digits)
        | '+' :: digits => (false, digits)
        | digits => (false, digits)
      match digitRun 10 digits with
      | ([], _) => none
      | (digits, rest) =>
        let size : Int := ofDigits 10 digits
        some (some (if negative then -size else size), rest)
    else some (none, c :: rest)

def number? (text : List Char) : Option (Number × List Char) := do
  let (negative, text) := match text with
    | '-' :: rest => (true, rest)
    | _ => (false, text)
  let (whole, text) ← whole? text
  let (fraction, text) ← fraction? text
  let (exponent, text) ← exponent? text
  return (⟨negative, whole, fraction, exponent⟩, text)

namespace Number

/-- The integer that a number without point and exponent writes, if 64 bits can hold it.  Minus
zero is no integer. -/
def toInt? (number : Number) : Option Int :=
  let size := ofDigits 10 number.whole
  if number.fraction.isSome || number.exponent.isSome then none
  else if number.negative then
    if 0 < size ∧ Int64.minValue.toInt ≤ -(size : Int) then some (-(size : Int)) else none
  else if size < UInt64.size then some size else none

/-- The value with as many of the digits appended as 64 bits can hold, and the digits left over. -/
def absorb (value : Nat) : List Nat → Nat × List Nat
  | [] => (value, [])
  | d :: rest =>
    if 10 * value + d < UInt64.size then absorb (10 * value + d) rest else (value, d :: rest)

/-- The digits that 64 bits can hold, and the power of ten that they are multiplied by.  Digits
left over before the point raise the power; those left over after it are dropped. -/
def scaled (number : Number) : Nat × Int :=
  let fraction := number.fraction.getD []
  let (value, beyond) := absorb 0 number.whole
  let (value, dropped) := absorb value fraction
  let point : Int := fraction.length - dropped.length
  (value, number.exponent.getD 0 + beyond.length - point)

/-- The value is too great for a double.  It is the product of two doubles, the one nearest the
digits and the one nearest the power of ten, so it can miss the double nearest the number. -/
def overflows (number : Number) : Bool :=
  let (value, scale) := number.scaled
  if value = 0 || scale < 0 then false
  else if 308 < scale then true
  else
    let product := toDouble value * toDouble (Nat.pow 10 scale.toNat)
    firstInfinite ≤ toDouble product

end Number

end Switchboard.Json
