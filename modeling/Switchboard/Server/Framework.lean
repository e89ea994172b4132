import Switchboard.Server.Route

/-! # What the server leaves to its HTTP library

How a header is found, how a target is cut, how a segment of a path and a body are
read, and what a browser is told that asks before it calls.
-/

namespace Switchboard.Http

/-- An HTTP library. -/
class Framework where
  /-- The first value of a header of this name, which is in lower case. -/
  header? : Request → String → Option String
  /-- The path of the target, still escaped. -/
  path : Request → String
  /-- A segment of a path without its escapes. -/
  unescape? : String → Option String
  /-- The values of these fields in order, from the body of a request. -/
  record : Request → List Field → Except RequestFault (List FieldValue)
  /-- The answer to the question which calls a page of another origin may make. -/
  preflight : Option Route → Response

namespace Request

variable [Framework]

def header? (request : Request) (name : String) : Option String :=
  Framework.header? request name

/-- The first value of a header, unless it holds a character that cannot be read. -/
def readableHeader? (request : Request) (name : String) : Option String :=
  (request.header? name).filter fun value => value.toList.all isReadable

def path (request : Request) : String :=
  Framework.path request

end Request

end Switchboard.Http
