import Switchboard.Text.Printable

/-! # Quoted texts

A quoted text stands between double quotes.  The double quote, the backslash and
four controls have escapes of two characters; any other character without a glyph
is written as its code point in hexadecimal.  Lists and sets of texts are written
with their members quoted.
-/

namespace Switchboard.Text.Quoted

/-- The code point of a character in lower-case hexadecimal, between braces. -/
def codePoint (c : Char) : List Char :=
  '\\' :: 'u' :: '\x7b' :: Nat.toDigits 16 c.toNat ++ ['\x7d']

def escape (c : Char) : List Char :=
  if c = '"' then ['\\', '"']
  else if c = '\\' then ['\\', '\\']
  else if c = '\n' then ['\\', 'n']
  else if c = '\t' then ['\\', 't']
  else if c = '\r' then ['\\', 'r']
  else if c = '\x00' then ['\\', '0']
  else if isGlyphless c then codePoint c
  else [c]

def quote (text : String) : String :=
  String.ofList ('"' :: text.toList.flatMap escape ++ ['"'])

def list (items : List String) : String :=
  "[" ++ String.intercalate ", " (items.map quote) ++ "]"

def braced (items : List String) : String :=
  "\x7b" ++ String.intercalate ", " (items.map quote) ++ "\x7d"

end Switchboard.Text.Quoted
