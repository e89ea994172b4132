import Switchboard.Text.Cut

/-! # Parts of an unchecked JID

A JID has the form `node@domain/resource`, where node and resource may be left
out.  These functions cut any text at the first separators and never fail: the
directory uses them on keys it has not checked.
-/

namespace Switchboard.RawJid

open Switchboard.Text

/-- What stands before the first slash. -/
def bare (jid : String) : String :=
  String.ofList (before '/' jid.toList)

/-- What stands after the first slash, unless that is empty. -/
def resource? (jid : String) : Option String :=
  match cut? '/' jid.toList with
  | none | some (_, []) => none
  | some (_, back) => some (String.ofList back)

def resource (jid : String) : String :=
  (resource? jid).getD ""

def domain (jid : String) : String :=
  let front := before '/' jid.toList
  match cut? '@' front with
  | none => String.ofList front
  | some (_, back) => String.ofList back

/-- What stands before the first at-sign of the bare part, if it has one. -/
def node? (jid : String) : Option String :=
  (cut? '@' (before '/' jid.toList)).map fun (front, _) => String.ofList front

def full (bare resource : String) : String :=
  bare ++ "/" ++ resource

end Switchboard.RawJid
