import Switchboard.Network.Ipv4

/-! # IPv6 addresses

Eight groups of 16 bits.  In writing, one run of zero groups may be left out as
`::`, and the last two groups may be written as an IPv4 address.  `render` gives
the canonical text: the first longest run of at least two zero groups is left
out, digits are in lower case, and an address that maps an IPv4 address shows it.
-/

namespace Switchboard.Network

open Switchboard.Text

/-- An IPv6 address, most significant group first. -/
structure Ipv6 where
  groups : List UInt16
  length_groups : groups.length = 8
deriving DecidableEq

namespace Ipv6

def embed (address : Ipv4) : List UInt16 :=
  [address.first.toUInt16 * 256 + address.second.toUInt16,
    address.third.toUInt16 * 256 + address.fourth.toUInt16]

def readGroup? (text : List Char) : Option (UInt16 × List Char) :=
  match digitRun 16 text with
  | ([], _) => none
  | (ds, rest) => if ds.length ≤ 4 then some (UInt16.ofNat (ofDigits 16 ds), rest) else none

/-- The text after the separator that a group needs in front unless it is the first one. -/
def skipSeparator? (isFirst : Bool) (text : List Char) : Option (List Char) :=
  if isFirst then some text
  else match text with
    | ':' :: rest => some rest
    | _ => none

/-- A run of at most `room` groups, read as far as it goes. -/
structure Run where
  groups : List UInt16
  /-- The run ends with an IPv4 address. -/
  endsInIpv4 : Bool
  rest : List Char

/-- Reads groups while there is room and the text goes on with one.  An IPv4 address takes the
room of two groups and ends the run. -/
def readRun : (room : Nat) → (isFirst : Bool) → List Char → Run
  | 0, _, text => ⟨[], false, text⟩
  | room + 1, isFirst, text =>
    let start := skipSeparator? isFirst text
    match if room = 0 then none else start.bind Ipv4.read? with
    | some (address, rest) => ⟨embed address, true, rest⟩
    | none =>
      match start.bind readGroup? with
      | none => ⟨[], false, text⟩
      | some (group, rest) =>
        let run := readRun room false rest
        { run with groups := group :: run.groups }

theorem length_readRun (room : Nat) (isFirst : Bool) (text : List Char) :
    (readRun room isFirst text).groups.length ≤ room := by
  induction room generalizing isFirst text with
  | zero => simp [readRun]
  | succ room ih =>
    simp only [readRun]
    split
    · rename_i h
      split at h
      · simp at h
      · simp [embed]; omega
    · split
      · simp
      · simpa using ih _ _

def fill (front back : List UInt16) : List UInt16 :=
  front ++ List.replicate (8 - (front.length + back.length)) 0 ++ back

theorem length_fill {front back : List UInt16} (h : front.length + back.length ≤ 8) :
    (fill front back).length = 8 := by
  simp [fill]; omega

/-- An address at the start of a text, and the text after it.  A gap stands for at least one
group, and no IPv4 address may stand in front of it. -/
def read? (text : List Char) : Option (Ipv6 × List Char) :=
  let front := readRun 8 true text
  if full : front.groups.length = 8 then some (⟨front.groups, full⟩, front.rest)
  else if front.endsInIpv4 then none
  else match front.rest with
    | ':' :: ':' :: rest =>
      let back := readRun (7 - front.groups.length) true rest
      have room : front.groups.length + back.groups.length ≤ 8 := by
        have hf : front.groups.length ≤ 8 := length_readRun 8 true text
        have hb : back.groups.length ≤ 7 - front.groups.length := length_readRun _ true rest
        omega
      some (⟨fill front.groups back.groups, length_fill room⟩, back.rest)
    | _ => none

/-- The IPv4 address that an address of the form `::ffff:a.b.c.d` maps. -/
def mapped? (address : Ipv6) : Option Ipv4 :=
  match address.groups with
  | [0, 0, 0, 0, 0, 0xFFFF, high, low] =>
    some ⟨(high >>> 8).toUInt8, high.toUInt8, (low >>> 8).toUInt8, low.toUInt8⟩
  | _ => none

def leadingZeros (groups : List UInt16) : Nat :=
  (groups.takeWhile (· == 0)).length

/-- Start and length of the first longest run of zero groups. -/
def longestZeros : List UInt16 → Nat × Nat
  | [] => (0, 0)
  | group :: rest =>
    let (start, size) := longestZeros rest
    let here := leadingZeros (group :: rest)
    if size ≤ here then (0, here) else (start + 1, size)

def renderGroups (groups : List UInt16) : String :=
  String.intercalate ":" (groups.map fun group => String.ofList (Nat.toDigits 16 group.toNat))

def render (address : Ipv6) : String :=
  match mapped? address with
  | some inner => "::ffff:" ++ inner.render
  | none =>
    let (start, size) := longestZeros address.groups
    if 1 < size then
      renderGroups (address.groups.take start) ++ "::" ++
        renderGroups (address.groups.drop (start + size))
    else renderGroups address.groups

end Ipv6

end Switchboard.Network
