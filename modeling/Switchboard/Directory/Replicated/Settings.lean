import Switchboard.Columns.Schema
import Switchboard.Text.Numeral

/-! # Settings of the replicated directory -/

namespace Switchboard

open Switchboard.Columns

structure StoreSettings where
  host : String := "localhost"
  port : UInt16 := Cluster.localPort
  keyspace : String := "rayo"
  /-- Drop the keyspace at the start and build it anew. -/
  recreateSchema : Bool := true
  /-- The pause after a structural change. -/
  schemaWait : Duration := .ofMillis 200
  /-- When false, there is no such pause. -/
  waitForSync : Bool := true
deriving DecidableEq, Repr

namespace StoreSettings

def contactPoint (settings : StoreSettings) : String :=
  settings.host ++ ":" ++ Text.Numeral.ofNat settings.port.toNat

def schemaBuilder (settings : StoreSettings) : SchemaBuilder :=
  ⟨settings.schemaWait, settings.waitForSync⟩

end StoreSettings

end Switchboard
