/-! # JSON values

Numbers that can be held as a 64-bit integer are kept apart from all others, which
keep their text: no field of a record takes the others, so they need no value.
-/

namespace Switchboard

/-- A JSON value.  An object keeps its fields in order. -/
inductive Json where
  | null
  | bool (flag : Bool)
  /-- A number without fraction and exponent, from -2^63 to 2^64 - 1. -/
  | int (value : Int)
  /-- Any other number, as it is written. -/
  | real (text : String)
  | str (text : String)
  | arr (items : List Json)
  | obj (fields : List (String × Json))

namespace Json

/-- The value of a field of an object; of several fields with one name the last counts. -/
def field? (name : String) : Json → Option Json
  | obj fields => (fields.reverse.find? (·.1 == name)).map (·.2)
  | _ => none

/-- The values of a record with these fields in this order: those of an object that has them all,
or the items of a list of the same length. -/
def record? (names : List String) : Json → Option (List Json)
  | obj fields => names.mapM fun name => (obj fields).field? name
  | arr items => if items.length = names.length then some items else none
  | _ => none

def text? : Json → Option String
  | str text => some text
  | _ => none

def flag? : Json → Option Bool
  | bool flag => some flag
  | _ => none

def int? (low high : Int) : Json → Option Int
  | int value => if low ≤ value ∧ value ≤ high then some value else none
  | _ => none

def int32? (json : Json) : Option Int32 :=
  (json.int? Int32.minValue.toInt Int32.maxValue.toInt).map Int32.ofInt

def uint32? (json : Json) : Option UInt32 :=
  (json.int? 0 (UInt32.size - 1 : Nat)).map fun value => UInt32.ofNat value.toNat

def texts? : Json → Option (List String)
  | arr items => items.mapM text?
  | _ => none

def nat (n : Nat) : Json :=
  int n

def texts (items : List String) : Json :=
  arr (items.map str)

def option {α : Type} (f : α → Json) : Option α → Json
  | none => null
  | some value => f value

end Json

end Switchboard
