/-! # Media types

A media type is a type, a slash and a subtype, and then parameters after
semicolons.  The part of the subtype behind its last plus sign is its suffix.
-/

namespace Switchboard.Http

/-- A media type in lower case, without its parameters. -/
structure MediaType where
  type : List Char
  subtype : List Char
  suffix : Option (List Char)
deriving DecidableEq, Repr

namespace MediaType

def isToken (c : Char) : Bool :=
  c.isAlphanum || "!#$%&'*+-.^_\x60|~".toList.contains c

def isQuotable (c : Char) : Bool :=
  0x1F < c.toNat && c.toNat != 0x7F

/-- The text after the closing quote.  A quote closes the value only when there is something in
it; there are no escapes. -/
def skipQuoted? : (isEmpty : Bool) → List Char → Option (List Char)
  | _, [] => none
  | isEmpty, c :: rest =>
    if c = '"' ∧ !isEmpty then some rest
    else if isQuotable c then skipQuoted? false rest
    else none

/-- The text after the semicolon that ends a parameter; nothing is left at the end of the text. -/
def afterParameter? : List Char → Option (List Char)
  | [] => some []
  | ';' :: rest => some rest
  | _ => none

def skipParameter? (text : List Char) : Option (List Char) :=
  let name := text.takeWhile isToken
  if name.isEmpty then none
  else match text.drop name.length with
    | '=' :: '"' :: rest =>
      (skipQuoted? true rest).bind fun rest => afterParameter? (rest.dropWhile (· == ' '))
    | '=' :: rest =>
      let value := rest.takeWhile isToken
      let rest := rest.drop value.length
      if value.isEmpty && !rest.isEmpty then none else afterParameter? rest
    | _ => none

/-- The text is a list of parameters with blanks before them, and perhaps blanks at its end; each
parameter takes at least one step of `fuel`. -/
def areParameters : (fuel : Nat) → List Char → Bool
  | fuel, text =>
    match fuel, text.dropWhile (· == ' ') with
    | _, [] => true
    | 0, _ => false
    | fuel + 1, text =>
      match skipParameter? text with
      | none => false
      | some rest => areParameters fuel rest

/-- The subtype before its last plus sign, and the suffix behind it.  A plus sign at the start
belongs to the subtype. -/
def splitSuffix (subtype : List Char) : List Char × Option (List Char) :=
  let suffix := (subtype.reverse.takeWhile (· != '+')).reverse
  let rest := subtype.length - suffix.length
  if rest ≤ 1 then (subtype, none) else (subtype.take (rest - 1), some suffix)

def parse? (text : String) : Option MediaType :=
  let text := text.toList
  let type := text.takeWhile isToken
  match text.drop type.length with
  | '/' :: rest =>
    let subtype := rest.takeWhile isToken
    let valid := match rest.drop subtype.length with
      | [] => true
      | ';' :: parameters => !subtype.isEmpty && areParameters parameters.length parameters
      | _ => false
    if type.isEmpty || !valid then none
    else
      let (subtype, suffix) := splitSuffix (subtype.map Char.toLower)
      some ⟨type.map Char.toLower, subtype, suffix⟩
  | _ => none

/-- The media type is JSON, or a format written in JSON. -/
def isJson (media : MediaType) : Bool :=
  media.type == "application".toList &&
    (media.subtype == "json".toList || media.suffix == some "json".toList)

end MediaType

end Switchboard.Http
