import Switchboard.Json.Basic

/-! # HTTP requests and responses -/

namespace Switchboard.Http

inductive Method where
  | get
  | head
  | post
  | options
  | other (name : String)
deriving DecidableEq, Repr

/-- The method with this name, which is case-sensitive. -/
def Method.ofName (name : String) : Method :=
  if name = "GET" then get
  else if name = "HEAD" then head
  else if name = "POST" then post
  else if name = "OPTIONS" then options
  else other name

structure Request where
  method : Method
  /-- The path with the query, or the whole address. -/
  target : String
  headers : List (String × String) := []
  body : String := ""

/-- A character that a header value may be read with: visible ASCII, the space or the tab. -/
def isReadable (c : Char) : Bool :=
  (0x20 ≤ c.toNat && c.toNat < 0x7F) || c == '\t'

inductive RequestFault where
  /-- The escapes in the path do not make a text. -/
  | unreadablePath
  /-- The content type does not announce JSON. -/
  | unsupported
  /-- The body is longer than the server takes. -/
  | tooLarge
  /-- The text is no JSON. -/
  | malformed
  /-- The text is JSON but not the record that is wanted. -/
  | mismatched
deriving DecidableEq, Repr

def RequestFault.status : RequestFault → Nat
  | unreadablePath => 400
  | unsupported => 415
  | tooLarge => 413
  | malformed => 400
  | mismatched => 422

inductive FieldType where
  | text
  | flag
deriving DecidableEq, Repr

inductive FieldValue where
  | text (value : String)
  | flag (value : Bool)
deriving DecidableEq, Repr

structure Field where
  name : String
  type : FieldType
  /-- The value of a field that is left out; without one the field is required. -/
  fallback : Option FieldValue := none
deriving DecidableEq, Repr

inductive Body where
  | empty
  | json (value : Json)
  /-- A plain text that explains why the request could not be read. -/
  | explanation

structure Response where
  status : Nat
  headers : List (String × String) := []
  body : Body := .empty

namespace Response

def ok (value : Json) : Response :=
  { status := 200, body := .json value }

def header? (response : Response) (name : String) : Option String :=
  (response.headers.find? (·.1 == name)).map (·.2)

def withHeader (response : Response) (name value : String) : Response :=
  { response with headers := response.headers ++ [(name, value)] }

end Response

end Switchboard.Http
