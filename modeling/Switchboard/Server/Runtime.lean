import Switchboard.Server.Framework
import Switchboard.Server.RequestBody
import Switchboard.Text.Percent

/-! # The HTTP library that the server runs on -/

namespace Switchboard.Http.Runtime

def lowerCase (text : String) : String :=
  String.ofList (text.toList.map Char.toLower)

/-- The first value of a header; the case of its name does not count. -/
def header? (request : Request) (name : String) : Option String :=
  (request.headers.find? fun (key, _) => lowerCase key == name).map (·.2)

def contentType? (request : Request) : Option String :=
  (header? request "content-type").filter fun value => value.toList.all isReadable

def afterAuthority : List Char → List Char
  | ':' :: '/' :: '/' :: rest => rest.dropWhile fun c => c != '/' && c != '?' && c != '#'
  | _ :: rest => afterAuthority rest
  | [] => []

def path (request : Request) : String :=
  let target := request.target.toList
  let relative := if target.head? = some '/' then target else afterAuthority target
  String.ofList (relative.takeWhile fun c => c != '?' && c != '#')

def preflight (route : Option Route) : Response :=
  { status := 200
    headers :=
      (route.map fun route => ("allow", route.allowed)).toList ++
        [("access-control-allow-methods", "GET,POST,OPTIONS"),
          ("access-control-allow-headers", "*")] }

instance : Framework where
  header? := header?
  path := path
  unescape? := Text.Percent.decode?
  record request := RequestBody.record (contentType? request) request.body
  preflight := preflight

end Switchboard.Http.Runtime
