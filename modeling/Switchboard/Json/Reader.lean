import Switchboard.Json.Basic
import Switchboard.Json.Lexical

/-! # Reading JSON

A reader of one value at the start of a text.  In its lenient form it passes over
a value without checking that surrogates come in pairs.
-/

namespace Switchboard.Json

def word? : List Char → List Char → Option (List Char)
  | [], text => some text
  | c :: word, d :: text => if c = d then word? word text else none
  | _ :: _, [] => none

def ofNumber (number : Number) (text : List Char) : Json :=
  match number.toInt? with
  | some value => .int value
  | none => .real (String.ofList text)

mutual

/-- One value, read with at most `fuel` steps, and the text after it. -/
def readValue (strict : Bool) : (fuel : Nat) → List Char → Option (Json × List Char)
  | 0, _ => none
  | fuel + 1, text =>
    match skipSpace text with
    | 'n' :: rest => (word? ['u', 'l', 'l'] rest).map fun rest => (.null, rest)
    | 't' :: rest => (word? ['r', 'u', 'e'] rest).map fun rest => (.bool true, rest)
    | 'f' :: rest => (word? ['a', 'l', 's', 'e'] rest).map fun rest => (.bool false, rest)
    | '"' :: rest => (literal? strict rest).map fun (s, rest) => (.str (String.ofList s), rest)
    | '[' :: rest =>
      match skipSpace rest with
      | ']' :: rest => some (.arr [], rest)
      | rest => (readItems strict fuel rest).map fun (items, rest) => (.arr items, rest)
    | '\x7b' :: rest =>
      match skipSpace rest with
      | '\x7d' :: rest => some (.obj [], rest)
      | rest => (readFields strict fuel rest).map fun (fields, rest) => (.obj fields, rest)
    | rest =>
      (number? rest).map fun (number, after) =>
        (ofNumber number (rest.take (rest.length - after.length)), after)

def readItems (strict : Bool) : (fuel : Nat) → List Char → Option (List Json × List Char)
  | 0, _ => none
  | fuel + 1, text =>
    match readValue strict fuel text with
    | none => none
    | some (item, rest) =>
      match skipSpace rest with
      | ']' :: rest => some ([item], rest)
      | ',' :: rest =>
        (readItems strict fuel rest).map fun (items, rest) => (item :: items, rest)
      | _ => none

def readFields (strict : Bool) :
    (fuel : Nat) → List Char → Option (List (String × Json) × List Char)
  | 0, _ => none
  | fuel + 1, text =>
    match skipSpace text with
    | '"' :: rest =>
      match literal? strict rest with
      | none => none
      | some (name, rest) =>
        match skipSpace rest with
        | ':' :: rest =>
          match readValue strict fuel rest with
          | none => none
          | some (value, rest) =>
            let field := (String.ofList name, value)
            match skipSpace rest with
            | '\x7d' :: rest => some ([field], rest)
            | ',' :: rest =>
              (readFields strict fuel rest).map fun (fields, rest) => (field :: fields, rest)
            | _ => none
        | _ => none
    | _ => none

end

def read? (text : List Char) : Option (Json × List Char) :=
  readValue true (text.length + 1) text

/-- The text after one value, whose texts may hold lone surrogates. -/
def skip? (text : List Char) : Option (List Char) :=
  (readValue false (text.length + 1) text).map (·.2)

def parse? (text : String) : Option Json :=
  match read? text.toList with
  | some (value, rest) => if (skipSpace rest).isEmpty then some value else none
  | none => none

end Switchboard.Json
