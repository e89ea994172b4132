/-! # Blank characters and trimming

A character is blank when Unicode gives it the property `White_Space`.  Trimming
removes the blanks at both ends of a text and keeps those inside it.
-/

namespace Switchboard.Text

/-- The characters with the Unicode property `White_Space`. -/
def isBlank (c : Char) : Bool :=
  let n := c.toNat
  (9 ≤ n && n ≤ 13) || n == 0x20 || n == 0x85 || n == 0xA0 || n == 0x1680 ||
    (0x2000 ≤ n && n ≤ 0x200A) || n == 0x2028 || n == 0x2029 || n == 0x202F ||
    n == 0x205F || n == 0x3000

def dropBlanksRight : List Char → List Char
  | [] => []
  | c :: rest =>
    match dropBlanksRight rest with
    | [] => if isBlank c then [] else [c]
    | kept => c :: kept

def trimChars (text : List Char) : List Char :=
  dropBlanksRight (text.dropWhile isBlank)

def trim (text : String) : String :=
  String.ofList (trimChars text.toList)

@[simp] theorem toList_trim (text : String) : (trim text).toList = trimChars text.toList := by
  simp [trim]

end Switchboard.Text
