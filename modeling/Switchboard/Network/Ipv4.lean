import Switchboard.Text.Digit
import Switchboard.Text.Numeral

/-! # IPv4 addresses

Four decimal groups between dots.  A group has at most three digits, no leading
zero unless it is the single digit zero, and a value below 256.
-/

namespace Switchboard.Network

open Switchboard.Text

/-- An IPv4 address, most significant byte first. -/
structure Ipv4 where
  first : UInt8
  second : UInt8
  third : UInt8
  fourth : UInt8
deriving DecidableEq, Repr

namespace Ipv4

def readGroup? (text : List Char) : Option (UInt8 × List Char) :=
  match digitRun 10 text with
  | ([], _) => none
  | (0 :: _ :: _, _) => none
  | (ds, rest) =>
    if ds.length ≤ 3 ∧ ofDigits 10 ds < 256 then some (UInt8.ofNat (ofDigits 10 ds), rest) else none

def readDotGroup? : List Char → Option (UInt8 × List Char)
  | '.' :: rest => readGroup? rest
  | _ => none

def read? (text : List Char) : Option (Ipv4 × List Char) := do
  let (first, rest) ← readGroup? text
  let (second, rest) ← readDotGroup? rest
  let (third, rest) ← readDotGroup? rest
  let (fourth, rest) ← readDotGroup? rest
  return (⟨first, second, third, fourth⟩, rest)

def render (address : Ipv4) : String :=
  let group (byte : UInt8) := Numeral.ofNat byte.toNat
  group address.first ++ "." ++ group address.second ++ "." ++
    group address.third ++ "." ++ group address.fourth

end Ipv4

end Switchboard.Network
