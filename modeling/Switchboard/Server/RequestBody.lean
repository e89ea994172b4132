import Switchboard.Json.Reader
import Switchboard.Server.Http
import Switchboard.Server.MediaType

/-! # Request bodies

A request body holds a record in JSON: an object with the record's fields, or the
list of their values in order.  It is read from left to right and the first fault
decides: either the text is no JSON, or it is JSON but not such a record.  What
follows the record is not looked at.
-/

namespace Switchboard.Http

open Switchboard.Json

namespace RequestBody

def wellFormed {α : Type} : Option α → Except RequestFault α
  | some value => .ok value
  | none => .error .malformed

/-- The fault of a text that does not start with a value of the wanted type.  A list or an object
is the wrong type at once; any other value is read first. -/
def wrongType (text : List Char) : RequestFault :=
  let isValue : Bool := match text with
    | 'n' :: rest => (word? ['u', 'l', 'l'] rest).isSome
    | 't' :: rest => (word? ['r', 'u', 'e'] rest).isSome
    | 'f' :: rest => (word? ['a', 'l', 's', 'e'] rest).isSome
    | '"' :: rest => (literal? true rest).isSome
    | '[' :: _ => true
    | '\x7b' :: _ => true
    | _ => (number? text).any fun (number, _) => !number.overflows
  if isValue then .mismatched else .malformed

def readField (type : FieldType) (text : List Char) :
    Except RequestFault (FieldValue × List Char) :=
  let text := skipSpace text
  match type, text with
  | .text, '"' :: rest =>
    wellFormed ((literal? true rest).map fun (value, rest) => (.text (String.ofList value), rest))
  | .flag, 't' :: rest =>
    wellFormed ((word? ['r', 'u', 'e'] rest).map fun rest => (.flag true, rest))
  | .flag, 'f' :: rest =>
    wellFormed ((word? ['a', 'l', 's', 'e'] rest).map fun rest => (.flag false, rest))
  | _, _ => .error (wrongType text)

/-! ## Lists -/

def nextItem (isFirst : Bool) (text : List Char) : Except RequestFault (Option (List Char)) :=
  match skipSpace text with
  | [] => .error .malformed
  | ']' :: _ => .ok none
  | ',' :: rest =>
    if isFirst then .ok (some (',' :: rest))
    else match skipSpace rest with
      | [] => .error .malformed
      | ']' :: _ => .error .malformed
      | rest => .ok (some rest)
  | text => if isFirst then .ok (some text) else .error .malformed

def readItems : (isFirst : Bool) → List Field → List Char → Except RequestFault (List FieldValue)
  | _, [], text =>
    match skipSpace text with
    | ']' :: _ => .ok []
    | _ => .error .malformed
  | isFirst, field :: fields, text => do
    match ← nextItem isFirst text with
    | some text =>
      let (value, text) ← readField field.type text
      return value :: (← readItems false fields text)
    | none =>
      match field.fallback with
      | some value => return value :: (← readItems isFirst fields text)
      | none => throw .mismatched

/-! ## Objects -/

def nextName (isFirst : Bool) (text : List Char) :
    Except RequestFault (Option (String × List Char)) :=
  let name : List Char → Except RequestFault (Option (String × List Char))
    | '"' :: rest =>
      wellFormed ((literal? true rest).map fun (name, rest) => some (String.ofList name, rest))
    | _ => .error .malformed
  match skipSpace text with
  | '\x7d' :: _ => .ok none
  | ',' :: rest => if isFirst then .error .malformed else name (skipSpace rest)
  | text => if isFirst then name text else .error .malformed

def skipColon (text : List Char) : Except RequestFault (List Char) :=
  match skipSpace text with
  | ':' :: rest => .ok rest
  | _ => .error .malformed

def collect (found : List (String × FieldValue)) (fields : List Field) :
    Except RequestFault (List FieldValue) :=
  fields.mapM fun field =>
    match (found.lookup field.name).or field.fallback with
    | some value => .ok value
    | none => .error .mismatched

/-- The values of the fields in order, up to the closing brace.  Every field takes one step of
`fuel`. -/
def readNamed (fields : List Field) :
    (fuel : Nat) → (isFirst : Bool) → (found : List (String × FieldValue)) → List Char →
      Except RequestFault (List FieldValue)
  | 0, _, _, _ => .error .malformed
  | fuel + 1, isFirst, found, text => do
    match ← nextName isFirst text with
    | none => collect found fields
    | some (name, text) =>
      match fields.find? (·.name == name) with
      | none =>
        let text ← wellFormed (skip? (← skipColon text))
        readNamed fields fuel false found text
      | some field =>
        if (found.lookup name).isSome then throw .mismatched
        let (value, text) ← readField field.type (← skipColon text)
        readNamed fields fuel false ((name, value) :: found) text

/-! ## Records -/

def readRecord (fields : List Field) (text : List Char) : Except RequestFault (List FieldValue) :=
  match skipSpace text with
  | '[' :: rest => readItems true fields rest
  | '\x7b' :: rest => readNamed fields (rest.length + 1) true [] rest
  | text => .error (wrongType text)

def maxLength : Nat := 2097152

/-- The record in a body whose content type announces JSON. -/
def record (contentType : Option String) (body : String) (fields : List Field) :
    Except RequestFault (List FieldValue) :=
  if !(contentType.bind MediaType.parse?).any MediaType.isJson then .error .unsupported
  else if maxLength < body.utf8ByteSize then .error .tooLarge
  else readRecord fields body.toList

end RequestBody

end Switchboard.Http
