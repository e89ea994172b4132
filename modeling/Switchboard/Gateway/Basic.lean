import Switchboard.Defaults
import Switchboard.Directory.Basic
import Switchboard.Gateway.Error

/-! # The state of a gateway

A gateway stands on a directory and adds its own settings, one cursor per platform
and per client, and the operator's controls.  A cursor counts the turns taken and
starts over after 2^64 of them.
-/

namespace Switchboard

/-- Turns taken, by key. -/
abbrev Cursors : Type := Std.ExtTreeMap String UInt64

def Cursors.next (cursors : Cursors) (key : String) : UInt64 × Cursors :=
  let turn := (cursors[key]?).getD 0
  (turn, cursors.insert key (turn + 1))

structure Controls where
  banned : Std.ExtTreeSet String := ∅
  maxDialRetries : UInt32 := Defaults.maxDialRetries
  /-- Blacklist changes that could not be written since the start. -/
  failedBlacklistUpdates : UInt64 := 0
deriving DecidableEq

structure Gateway (σ : Type) where
  directory : σ
  defaultPlatform : String := Defaults.platform
  maxConsecutiveErrors : UInt32 := Defaults.maxConsecutiveErrors
  platformCursors : Cursors := ∅
  clientCursors : Cursors := ∅
  controls : Controls := {}
deriving DecidableEq

namespace Gateway

variable {σ α : Type} [Directory σ]

def noteLookup (g : Gateway σ) : Gateway σ :=
  { g with directory := Directory.noteLookup g.directory }

def look (lookup : σ → α) (g : Gateway σ) : α × Gateway σ :=
  (lookup g.directory, g.noteLookup)

def command (command : Command σ α) (g : Gateway σ) : Except GatewayError α × Gateway σ :=
  let (result, directory) := command g.directory
  (result.mapError .directory, { g with directory })

end Gateway

end Switchboard
