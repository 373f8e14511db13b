import Diameter.Node

/-!
Sending a request until it is answered for good.

Each attempt has a hop-by-hop identifier of its own, and all share one end-to-end identifier.
An answer with a retryable Result-Code leads to another attempt, marked as a retransmission,
as long as retries are left.
-/

namespace Diameter

/-- A request under way. -/
structure Sending where
  request : Message
  /-- Attempts that may still follow the current one. -/
  retries : Nat
  deriving Repr

namespace Sending

/-- Takes a request on, or answers at once what may not be sent. -/
def start (n : Node) (retries : Nat) (ids : Identifiers) (m : Message) :
    Except Message (Sending × Identifiers) :=
  if !m.header.isRequest then .error (n.answer m .unableToComply)
  else match m.header.checkFlags with
    | .error e => .error (n.errorAnswer m e)
    | .ok _ => match m.checkLength with
      | .error e => .error (n.errorAnswer m e)
      | .ok _ =>
        if m.header.endToEnd = 0 then
          let (endToEnd, ids) := ids.nextEndToEnd
          .ok (⟨{ m with header.endToEnd := endToEnd }, retries⟩, ids)
        else .ok (⟨m, retries⟩, ids)

/-- The message of an attempt. -/
def attempt (s : Sending) (ids : Identifiers) : Message × Identifiers :=
  let (hopByHop, ids) := ids.nextHopByHop
  ({ s.request with header.hopByHop := hopByHop }, ids)

/-- What follows an answer: another attempt, or nothing. -/
def next? (s : Sending) (answer : Message) : Option Sending :=
  match s.retries with
  | 0 => none
  | retries + 1 =>
    if answer.resultCode?.any ResultCode.isRetryable then
      some ⟨{ s.request with header := s.request.header.setRetransmit }, retries⟩
    else none

end Sending

end Diameter
