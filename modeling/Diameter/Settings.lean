import Diameter.Address
import Diameter.Application
import Diameter.Failure
import Diameter.Identity

/-!
Settings of a node and of its connections.
-/

namespace Diameter

/-- Timers and limits of a connection; times are in milliseconds. -/
structure PeerSettings where
  /-- Idle time before a watchdog request is sent. -/
  watchdogInterval : Nat := 30000
  /-- Unanswered watchdog requests in a row before the connection is given up. -/
  watchdogLimit : UInt32 := 3
  /-- Deadline for writes, for answers and for the answer to a disconnect. -/
  sendTimeout : Nat := 5000
  /-- Further attempts for a request that was answered with a protocol error. -/
  retries : UInt32 := 0
  /-- Events that may wait for the connection. -/
  queueSize : Nat := 128
  /-- Longest message that is accepted. -/
  maxMessageSize : Nat := 65536
  deriving DecidableEq, Repr, Inhabited

namespace PeerSettings

/-- A queue holds at least one event. -/
def queueCapacity (s : PeerSettings) : Nat := max 1 s.queueSize

end PeerSettings

structure Settings where
  host : String := ""
  realm : String := ""
  addresses : List Address := []
  vendor : UInt32 := 0
  product : String := "diameter-peer"
  firmware : Option UInt32 := none
  applications : List Application := []
  peer : PeerSettings := {}
  deriving DecidableEq, Repr, Inhabited

namespace Settings

/-- A node needs a valid host, a valid realm and an address. -/
def check (s : Settings) : Except Failure Unit :=
  if !Identity.isValid s.host then .error (.settings (.badHost s.host))
  else if !Identity.isValid s.realm then .error (.settings (.badRealm s.realm))
  else if s.addresses = [] then .error (.settings .noAddress)
  else .ok ()

end Settings

end Diameter
