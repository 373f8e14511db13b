import Diameter.Connection.Traffic
import Diameter.Connection.Upkeep

/-!
The connection as an automaton: an event is handled, or the write that is under way ends.

`Connection.step` gives the turn that an input leads to. A connection that is writing takes
only the end of its write, and one that is not takes only events; one that is shut down takes
nothing.
-/

namespace Diameter

namespace Turn

/-- Handles an event. -/
def handle (site : Site) (e : Event) (t : Turn) : Turn :=
  match e with
  | .start => t.onStart site
  | .dialed stream => t.onDialed site stream
  | .dialFailed text => t.onDialFailed site text
  | .accepted stream => t.onAccepted site stream
  | .acceptedCer stream cer => t.onAcceptedCer site stream cer
  | .received link m => match t.conn.sideOf? link with
    | some side => t.onReceived site side link m
    | none => t
  | .receivedInvalid link h e => match t.conn.sideOf? link with
    | some side => t.onReceivedInvalid site side h e
    | none => t
  | .disconnected link e => match t.conn.sideOf? link with
    | some side => t.onDisconnected site side e
    | none => t
  | .wonElection => t.onWonElection site
  | .send waiter request => t.onSend site waiter request
  | .handled link answer => t.onHandled site link answer
  | .stop waiter cause => t.onStop site waiter cause
  | .watchdogIdle generation => t.onWatchdogIdle site generation
  | .watchdogReply hopByHop => t.onWatchdogReply site hopByHop
  | .exchangeTimeout hopByHop => t.onExchangeTimeout site hopByHop
  | .closeTimeout => t.onCloseTimeout site

/-- The write that is under way has ended. -/
def written (site : Site) (result : Option Failure) (t : Turn) : Turn :=
  match t.conn.writing with
  | none => t
  | some w => { t with conn.writing := none }.settle site w.goal w.message result

end Turn

/-- What a connection may be given. -/
inductive Input where
  | event (e : Event)
  /-- The end of a write, with what went wrong. -/
  | written (result : Option Failure)
  deriving Repr

namespace Connection

/-- The connection takes this kind of input now. -/
def Accepts (c : Connection) : Input → Prop
  | .event _ => c.phase ≠ .shutdown ∧ c.writing = none
  | .written _ => c.writing ≠ none

/-- The turn that an input leads to. -/
def step (site : Site) (now serial : Nat) (ids : Identifiers) (c : Connection) (i : Input) :
    Turn :=
  let t : Turn := { now, serial, ids, conn := c }
  match i with
  | .event e => t.handle site e
  | .written result => t.written site result

end Connection

end Diameter
