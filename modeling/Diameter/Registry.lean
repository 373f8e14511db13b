import Diameter.Node

/-!
Handlers for requests of the peer, by application and command.

The registry keeps every registration; the last one for a pair counts. Whatever a handler
makes of a request, what goes out is an answer to that request.
-/

namespace Diameter

/-- What became of a request in a handler. -/
inductive Handled where
  | answer (m : Message)
  | failed (e : Failure)
  /-- The handler broke down. -/
  | crashed

abbrev Handler := Message → Handled

/-- A handler in three steps: read the request, do the work, write the answer. -/
def Handler.typed {α β : Type} (decode : Message → Except Failure α)
    (handle : α → Except Failure β) (encode : β → Message → Except Failure Message) : Handler :=
  fun request =>
    match decode request with
    | .error e => .failed e
    | .ok a => match handle a with
      | .error e => .failed e
      | .ok b => match encode b request with
        | .error e => .failed e
        | .ok m => .answer m

structure Registration where
  application : UInt32
  command : UInt32
  handler : Handler

/-- Registrations, the latest first. -/
structure Registry where
  registrations : List Registration := []

namespace Registry

def register (r : Registry) (application command : UInt32) (handler : Handler) : Registry :=
  ⟨⟨application, command, handler⟩ :: r.registrations⟩

def keys (r : Registry) : List (UInt32 × UInt32) :=
  (r.registrations.map fun x => (x.application, x.command)).eraseDups

/-- Pairs of application and command that have a handler. -/
def size (r : Registry) : Nat := r.keys.length

/-- The base protocol, and every application that was ever registered for. -/
def isKnown (r : Registry) (application : UInt32) : Bool :=
  application == 0 || r.registrations.any (·.application == application)

def lookup (r : Registry) (application command : UInt32) : Except Failure Handler :=
  match r.registrations.find? fun x => x.application == application && x.command == command with
  | some x => .ok x.handler
  | none =>
    if r.isKnown application then .error (.invalidMessage .unsupportedCommand)
    else .error (.invalidMessage .unsupportedApplication)

/-- The message made into an answer to the request: its identifiers and command, neither
request nor retransmission, an error if its Result-Code is a protocol error. -/
def asAnswerTo (request m : Message) : Message :=
  let header := { m.header with
    flags := m.header.flags &&& ~~~(Header.requestFlag ||| Header.retransmitFlag)
    command := request.header.command
    application := request.header.application
    hopByHop := request.header.hopByHop
    endToEnd := request.header.endToEnd }
  let isError := match m.resultCode? with
    | some code => ResultCode.isProtocolError code
    | none => false
  { m with header := if isError then header.setError else header }

/-- The answer to a request. -/
def dispatch (r : Registry) (n : Node) (request : Message) : Message :=
  match r.lookup request.header.application request.header.command with
  | .error e => n.errorAnswer request e
  | .ok handler => match handler request with
    | .answer m => asAnswerTo request m
    | .failed e => n.errorAnswer request e
    | .crashed => n.localAnswer request.header none .unableToComply

end Registry

end Diameter
