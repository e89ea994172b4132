import Switchboard.Jid.Error
import Switchboard.Text.Blank
import Switchboard.Text.Cut

/-! # Checked JIDs

`Jid.parse` reads `node@domain/resource` with blanks around it ignored and names
the first fault it finds; `Jid.render` writes the text back.  JIDs are ordered by
node, domain and resource, a missing part before any present one.
-/

namespace Switchboard

open Switchboard.Text

structure Jid where
  node : Option String
  domain : String
  resource : Option String
deriving DecidableEq, Repr

namespace Jid

def checkDomain (whole : String) (node : Option String) (domain : List Char)
    (resource : Option String) : Except JidError Jid :=
  if domain = [] then .error (.emptyDomain whole)
  else if '@' ∈ domain then .error (.extraNodeSeparator whole)
  else .ok ⟨node, String.ofList domain, resource⟩

def parseBare (whole : String) (bare : List Char) (resource : Option String) :
    Except JidError Jid :=
  match cut? '@' bare with
  | some ([], _) => .error (.emptyNode whole)
  | some (node, domain) => checkDomain whole (some (String.ofList node)) domain resource
  | none => checkDomain whole none bare resource

/-- The JID that a text writes, or the first of its faults. -/
def parse (text : String) : Except JidError Jid :=
  let trimmed := trimChars text.toList
  let whole := String.ofList trimmed
  if trimmed = [] then .error .empty
  else match cut? '/' trimmed with
    | some (_, []) => .error (.emptyResource whole)
    | some (bare, resource) => parseBare whole bare (some (String.ofList resource))
    | none => parseBare whole trimmed none

def render (jid : Jid) : String :=
  let node := match jid.node with
    | some node => node ++ "@"
    | none => ""
  let resource := match jid.resource with
    | some resource => "/" ++ resource
    | none => ""
  node ++ jid.domain ++ resource

def toBare (jid : Jid) : Jid :=
  { jid with resource := none }

def withResource (jid : Jid) (resource : String) : Jid :=
  { jid with resource := some resource }

def isBare (jid : Jid) : Bool :=
  jid.resource.isNone

instance : Ord Jid where
  compare a b := (compare a.node b.node).then
    ((compare a.domain b.domain).then (compare a.resource b.resource))

def sortDistinct (jids : List Jid) : List Jid :=
  (jids.mergeSort fun a b => (compare a b).isLE).eraseReps

end Jid

end Switchboard
