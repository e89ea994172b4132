import Switchboard.Defaults
import Switchboard.Directory.Replicated.Settings
import Switchboard.Network.SocketAddress
import Switchboard.Text.Blank

/-! # Server settings

Settings come from a look-up of texts by key.  Every setting has a default, which
also stands in for a text that does not parse.
-/

namespace Switchboard

open Switchboard.Columns (Duration)
open Switchboard.Text Switchboard.Network

inductive BackendKind where
  | memory
  | replicated
deriving DecidableEq, Repr

/-- The name of no kind of directory, without blanks around it and in lower case. -/
structure UnknownBackend where
  name : String
deriving DecidableEq, Repr

def UnknownBackend.message (unknown : UnknownBackend) : String :=
  s!"unknown datastore '{unknown.name}'"

namespace BackendKind

/-- The kind that a name stands for; blanks around it and the case of ASCII letters do not count. -/
def parse (text : String) : Except UnknownBackend BackendKind :=
  let name := String.ofList ((trimChars text.toList).map Char.toLower)
  if name = "memory" then .ok memory
  else if name = "replicated" then .ok replicated
  else .error ⟨name⟩

def name : BackendKind → String
  | memory => "memory"
  | replicated => "replicated"

end BackendKind

structure Config where
  httpAddress : SocketAddress := .v4 ⟨0, 0, 0, 0⟩ 8080
  /-- The token of the operator; without one the operator's calls are refused. -/
  adminToken : Option String := none
  backend : BackendKind := .memory
  defaultPlatform : String := Defaults.platform
  maxDialRetries : UInt32 := Defaults.maxDialRetries
  maxConsecutiveErrors : UInt32 := Defaults.maxConsecutiveErrors
  store : StoreSettings := {}
deriving DecidableEq

namespace Config

abbrev Lookup : Type := String → Option String

/-- A setting that is parsed with the blanks around it left out. -/
def parsed {α : Type} (lookup : Lookup) (key : String) (parse : String → Option α)
    (fallback : α) : α :=
  match lookup key with
  | none => fallback
  | some text => (parse (trim text)).getD fallback

/-- A switch: only the texts `false` and `0` turn it off. -/
def switch (lookup : Lookup) (key : String) (fallback : Bool) : Bool :=
  match lookup key with
  | none => fallback
  | some text => text != "false" && text != "0"

def nonEmpty? (lookup : Lookup) (key : String) : Option String :=
  (lookup key).filter (!·.isEmpty)

def milliseconds? (text : String) : Option Duration :=
  (Numeral.uint64? text).map fun ms => .ofMillis ms.toNat

def storeSettings (lookup : Lookup) : StoreSettings :=
  let fallback : StoreSettings := {}
  { host := (lookup "STORE_HOST").getD fallback.host
    port := parsed lookup "STORE_PORT" Numeral.uint16? fallback.port
    keyspace := (lookup "STORE_KEYSPACE").getD fallback.keyspace
    recreateSchema := switch lookup "STORE_RECREATE_SCHEMA" fallback.recreateSchema
    schemaWait := parsed lookup "STORE_SCHEMA_WAIT_MS" milliseconds? fallback.schemaWait
    waitForSync := switch lookup "STORE_WAIT_FOR_SYNC" fallback.waitForSync }

def ofLookup (lookup : Lookup) : Config :=
  let fallback : Config := {}
  { httpAddress := parsed lookup "HTTP_ADDR" SocketAddress.parse? fallback.httpAddress
    adminToken := nonEmpty? lookup "ADMIN_TOKEN"
    backend := parsed lookup "DATASTORE" (fun text => (BackendKind.parse text).toOption)
      fallback.backend
    defaultPlatform := (nonEmpty? lookup "DEFAULT_PLATFORM").getD fallback.defaultPlatform
    maxDialRetries := parsed lookup "MAX_DIAL_RETRIES" Numeral.uint32? fallback.maxDialRetries
    maxConsecutiveErrors :=
      parsed lookup "MAX_CONSECUTIVE_ERRORS" Numeral.uint32? fallback.maxConsecutiveErrors
    store := storeSettings lookup }

end Config

end Switchboard
