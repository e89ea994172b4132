/-! # Why a text is no JID -/

namespace Switchboard

/-- The fault of a text that is no JID, with the text as it was read. -/
inductive JidError where
  | empty
  | emptyDomain (text : String)
  | extraNodeSeparator (text : String)
  | emptyNode (text : String)
  | emptyResource (text : String)
deriving DecidableEq, Repr

def JidError.message : JidError → String
  | .empty => "JID is empty"
  | .emptyDomain text => s!"JID [{text}] has an empty domain"
  | .extraNodeSeparator text => s!"JID [{text}] has more than one node separator"
  | .emptyNode text => s!"JID [{text}] has an empty node part"
  | .emptyResource text => s!"JID [{text}] has an empty resource"

end Switchboard
