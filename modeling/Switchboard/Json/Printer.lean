import Switchboard.Json.Basic

/-! # Printing JSON

The compact form: no blanks, and escapes only where they are required, the short ones where
there are any.
-/

namespace Switchboard.Json

def hexEscape (n : Nat) : List Char :=
  ['\\', 'u', '0', '0', Nat.digitChar (n / 16), Nat.digitChar (n % 16)]

def shortEscape? (c : Char) : Option Char :=
  if c = '"' ∨ c = '\\' then some c
  else if c = '\x08' then some 'b'
  else if c = '\t' then some 't'
  else if c = '\n' then some 'n'
  else if c = '\x0c' then some 'f'
  else if c = '\r' then some 'r'
  else none

def escapeChar (c : Char) : List Char :=
  match shortEscape? c with
  | some letter => ['\\', letter]
  | none => if c.toNat < 0x20 then hexEscape c.toNat else [c]

def literal (text : String) : List Char :=
  '"' :: text.toList.flatMap escapeChar ++ ['"']

mutual

def chars : Json → List Char
  | null => ['n', 'u', 'l', 'l']
  | bool true => ['t', 'r', 'u', 'e']
  | bool false => ['f', 'a', 'l', 's', 'e']
  | int value => (toString value).toList
  | real text => text.toList
  | str text => literal text
  | arr items => '[' :: itemChars items ++ [']']
  | obj fields => '\x7b' :: fieldChars fields ++ ['\x7d']

def itemChars : List Json → List Char
  | [] => []
  | [item] => chars item
  | item :: rest => chars item ++ ',' :: itemChars rest

def fieldChars : List (String × Json) → List Char
  | [] => []
  | [(name, value)] => literal name ++ ':' :: chars value
  | (name, value) :: rest => literal name ++ ':' :: chars value ++ ',' :: fieldChars rest

end

def render (json : Json) : String :=
  String.ofList (chars json)

end Switchboard.Json
