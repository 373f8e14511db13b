import Diameter.Alarm
import Diameter.Capabilities
import Diameter.Exchange

/-!
A connection to one peer: its state, what happens to it, and what it does.

A connection has up to two streams, the one it dialed and the one the peer dialed. It takes
one event at a time. While a message is being written no event is taken: `Connection.writing`
says what is on its way and, as a `Goal`, what is to follow once the write has ended.
-/

namespace Diameter

/-- Who dialed a stream: this end or the peer. -/
inductive Side where
  | initiator
  | responder
  deriving DecidableEq, Repr

/-- An attached stream. Attachments are numbered, and a number is never used twice. -/
structure Link where
  id : Nat
  stream : Nat
  deriving DecidableEq, Repr

inductive Event where
  /-- Dial the peer. -/
  | start
  | dialed (stream : Nat)
  | dialFailed (text : String)
  /-- A stream of the peer, its CER still to come. -/
  | accepted (stream : Nat)
  /-- A stream of the peer, its CER already read. -/
  | acceptedCer (stream : Nat) (cer : Message)
  | received (link : Nat) (m : Message)
  /-- The header was legal, the AVPs were not. -/
  | receivedInvalid (link : Nat) (header : Header) (failure : Failure)
  | disconnected (link : Nat) (failure : Failure)
  | wonElection
  | send (waiter : Nat) (request : Message)
  /-- A handler's answer to a request of a stream. -/
  | handled (link : Nat) (answer : Message)
  | stop (waiter : Nat) (cause : DisconnectCause)
  | watchdogIdle (generation : Nat)
  | watchdogReply (hopByHop : UInt32)
  | exchangeTimeout (hopByHop : UInt32)
  | closeTimeout
  deriving Repr

inductive AlarmSlot where
  /-- Nothing was heard or said for a while. -/
  | idle
  /-- A watchdog request is unanswered. -/
  | reply
  /-- A disconnect request is unanswered. -/
  | close
  /-- A request is unanswered. -/
  | exchange (hopByHop : UInt32)
  deriving DecidableEq, Repr

/-- News for an observer. -/
inductive Note where
  | phase (peer : Option String) (before after : Phase)
  | sent (command application hopByHop : UInt32) (retransmit : Bool)
  | answered (command hopByHop : UInt32) (result : Option UInt32) (elapsed : Nat)
  | timedOut (command hopByHop : UInt32)
  | failure (peer : Option String) (failure : Failure)
  deriving Repr

/-- What a message is written for, and so what follows the write. -/
inductive Goal where
  /-- The CER on the dialed stream; then the election if a stream was accepted meanwhile. -/
  | introduce (electing : Bool)
  /-- The CEA that opens the connection on the accepted stream. -/
  | accept (peer : PeerIdentity)
  /-- An answer after which the connection is given up. -/
  | reject (failure : Failure)
  /-- The CEA on a second stream that is turned away, and nothing else with it. -/
  | turnAway (link : Link) (failure : Failure)
  /-- An answer that says what is wrong with a request. -/
  | complain (failure : Failure)
  | answer
  /-- The answer to a disconnect. -/
  | farewell
  | request
  /-- A disconnect request. -/
  | disconnect
  /-- A watchdog request. -/
  | probe (hopByHop : UInt32)
  deriving Repr

/-- A message on its way. -/
structure Writing where
  link : Link
  message : Message
  goal : Goal
  deadline : Nat
  deriving Repr

structure Connection where
  phase : Phase := .closed
  /-- Whom the capabilities exchange has bound. -/
  identity : Option PeerIdentity := none
  expectedHost : Option String := none
  /-- Streams attached so far. The count is not limited to 64 bits, since no connection comes to
  2^64 streams. -/
  attached : Nat := 0
  dialing : Bool := false
  initiator : Option Link := none
  responder : Option Link := none
  /-- The CEA for an accepted stream that waits for the election. -/
  cachedCea : Option Message := none
  /-- The peer behind an accepted stream that waits for the election. -/
  cachedPeer : Option PeerIdentity := none
  pending : Pending := {}
  alarms : Alarms AlarmSlot Event := {}
  /-- Armings of the idle alarm, not limited either; an idle event of an earlier arming is stale. -/
  generation : Nat := 0
  /-- The unanswered watchdog request. -/
  outstanding : Option UInt32 := none
  /-- Watchdog requests in a row that stayed unanswered. -/
  failures : UInt32 := 0
  /-- Who waits for the connection to be shut down. -/
  stoppers : List Nat := []
  /-- Events that go before all others. -/
  internal : List Event := []
  writing : Option Writing := none

namespace Connection

/-- The peer's name as far as it is known. -/
def peerHost? (c : Connection) : Option String :=
  match c.identity.or c.cachedPeer with
  | some p => some p.host
  | none => c.expectedHost

def link? (c : Connection) : Side → Option Link
  | .initiator => c.initiator
  | .responder => c.responder

/-- The side on which an attached stream is. -/
def sideOf? (c : Connection) (link : Nat) : Option Side :=
  if c.initiator.any (·.id = link) then some .initiator
  else if c.responder.any (·.id = link) then some .responder
  else none

/-- The side that carries traffic once the connection is open. -/
def activeSide? (c : Connection) : Option Side :=
  match c.phase with
  | .rOpen => some .responder
  | .iOpen => some .initiator
  | .closing =>
    if c.initiator.isSome then some .initiator
    else if c.responder.isSome then some .responder
    else none
  | _ => none

def activeLink? (c : Connection) : Option Link := c.activeSide?.bind c.link?

/-- An alarm event may still matter. -/
def heeds (c : Connection) : Event → Bool
  | .watchdogIdle generation => generation = c.generation && c.phase.isOpen
  | .watchdogReply hopByHop => c.outstanding = some hopByHop && c.phase.isOpen
  | .exchangeTimeout hopByHop => c.pending.contains hopByHop
  | .closeTimeout => c.phase = .closing
  | _ => true

/-- The host is the one that was asked for, if one was. -/
def expects (c : Connection) (host : String) : Bool := c.expectedHost.all (Identity.same · host)

end Connection

/-- The node and the settings that a connection works with. -/
structure Site where
  node : Node
  settings : PeerSettings

end Diameter
