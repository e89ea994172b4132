/-! # Settings that hold unless others are given -/

namespace Switchboard.Defaults

def serverName : String := "Rayo Gateway"

def platform : String := "staging"

/-- Attempts after the first one fails. -/
def maxDialRetries : UInt32 := 3

/-- Nodes with more failures in a row than this get no calls. -/
def maxConsecutiveErrors : UInt32 := 5

end Switchboard.Defaults
