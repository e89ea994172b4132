import Switchboard.Network.Ipv6

/-! # Socket addresses

An IP address and a port.  An IPv6 address stands in brackets and may carry a
scope number after a percent sign; scope zero is not written.
-/

namespace Switchboard.Network

open Switchboard.Text

inductive SocketAddress where
  | v4 (address : Ipv4) (port : UInt16)
  | v6 (address : Ipv6) (scope : UInt32) (port : UInt16)
deriving DecidableEq

namespace SocketAddress

def readNumber? (limit : Nat) (text : List Char) : Option (Nat × List Char) :=
  match digitRun 10 text with
  | ([], _) => none
  | (ds, rest) => if ofDigits 10 ds ≤ limit then some (ofDigits 10 ds, rest) else none

def readPort? : List Char → Option UInt16
  | ':' :: text =>
    match readNumber? (UInt16.size - 1) text with
    | some (port, []) => some (UInt16.ofNat port)
    | _ => none
  | _ => none

/-- The scope number, zero when there is none, and the text after it. -/
def readScope : List Char → UInt32 × List Char
  | '%' :: text =>
    match readNumber? (UInt32.size - 1) text with
    | some (scope, rest) => (UInt32.ofNat scope, rest)
    | none => (0, '%' :: text)
  | text => (0, text)

def parseV4? (text : List Char) : Option SocketAddress := do
  let (address, rest) ← Ipv4.read? text
  return .v4 address (← readPort? rest)

def parseV6? : List Char → Option SocketAddress
  | '[' :: text => do
    let (address, rest) ← Ipv6.read? text
    match readScope rest with
    | (scope, ']' :: rest) => return .v6 address scope (← readPort? rest)
    | _ => none
  | _ => none

def parse? (text : String) : Option SocketAddress :=
  (parseV4? text.toList).or (parseV6? text.toList)

def render : SocketAddress → String
  | .v4 address port => address.render ++ ":" ++ Numeral.ofNat port.toNat
  | .v6 address scope port =>
    let zone := if scope = 0 then "" else "%" ++ Numeral.ofNat scope.toNat
    "[" ++ address.render ++ zone ++ "]:" ++ Numeral.ofNat port.toNat

end SocketAddress

end Switchboard.Network
