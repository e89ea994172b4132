import Switchboard.Text.Digit

/-! # Percent escapes

An escape is a percent sign and two hexadecimal digits and stands for one byte.
A percent sign that starts no escape stands for itself.  The bytes that come out
have to be valid UTF-8.
-/

namespace Switchboard.Text.Percent

def escape? : List Char → Option (UInt8 × List Char)
  | high :: low :: rest =>
    match digit? 16 high, digit? 16 low with
    | some h, some l => some (UInt8.ofNat (16 * h + l), rest)
    | _, _ => none
  | _ => none

theorem escape?_length {text rest : List Char} {byte : UInt8}
    (h : escape? text = some (byte, rest)) : rest.length < text.length := by
  unfold escape? at h
  split at h
  · split at h
    · cases h; simp only [List.length_cons]; omega
    · simp at h
  · simp at h

def bytes : List Char → List UInt8
  | [] => []
  | c :: rest =>
    if c = '%' then
      match h : escape? rest with
      | some (byte, after) =>
        have := escape?_length h
        byte :: bytes after
      | none => '%'.toNat.toUInt8 :: bytes rest
    else (String.singleton c).toUTF8.toList ++ bytes rest
termination_by text => text.length
decreasing_by all_goals simp only [List.length_cons]; omega

/-- The text that stands behind the escapes, or `none` when its bytes are not valid UTF-8. -/
def decode? (text : String) : Option String :=
  String.fromUTF8? ⟨(bytes text.toList).toArray⟩

end Switchboard.Text.Percent
