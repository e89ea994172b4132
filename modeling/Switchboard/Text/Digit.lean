/-! # Digits -/

namespace Switchboard.Text

/-- The value of a digit in a base of at most sixteen; letters of either case count from ten. -/
def digit? (base : Nat) (c : Char) : Option Nat :=
  let value :=
    if '0' ≤ c ∧ c ≤ '9' then some (c.toNat - '0'.toNat)
    else if 'a' ≤ c ∧ c ≤ 'f' then some (c.toNat - 'a'.toNat + 10)
    else if 'A' ≤ c ∧ c ≤ 'F' then some (c.toNat - 'A'.toNat + 10)
    else none
  value.filter (· < base)

/-- The digits at the start of a text, most significant first, and the text after them. -/
def digitRun (base : Nat) : List Char → List Nat × List Char
  | [] => ([], [])
  | c :: rest =>
    match digit? base c with
    | none => ([], c :: rest)
    | some d =>
      let (ds, after) := digitRun base rest
      (d :: ds, after)

def ofDigits (base : Nat) (digits : List Nat) : Nat :=
  digits.foldl (fun value d => base * value + d) 0

end Switchboard.Text
