import Diameter.Node

/-!
Requests that wait for an answer, by hop-by-hop identifier.

Whoever waits is named by a number. An entry leaves the table when its answer arrives, when it
expires, when it fails, when the table is drained, or when a request with the same identifier
takes its place; only in the last case the waiter gets no message.
-/

namespace Diameter

structure Exchange where
  waiter : Nat
  header : Header
  session : Option Avp
  /-- When the request was entered, in milliseconds. -/
  sentAt : Nat
  deriving DecidableEq, Repr

namespace Exchange

def ofRequest (waiter : Nat) (request : Message) (now : Nat) : Exchange :=
  ⟨waiter, request.header, request.sessionId?, now⟩

def key (x : Exchange) : UInt32 := x.header.hopByHop

/-- The answer that this node gives in place of the peer. -/
def localAnswer (x : Exchange) (n : Node) (r : ResultCode) : Message :=
  n.localAnswer x.header x.session r

def elapsed (x : Exchange) (now : Nat) : Nat := now - x.sentAt

end Exchange

/-- A message for a waiter. -/
structure Completion where
  waiter : Nat
  message : Message
  deriving DecidableEq, Repr

/-- The table, oldest entry first. -/
structure Pending where
  entries : List Exchange := []
  deriving Repr

namespace Pending

def size (p : Pending) : Nat := p.entries.length

def find? (p : Pending) (hopByHop : UInt32) : Option Exchange :=
  p.entries.find? (·.key == hopByHop)

def contains (p : Pending) (hopByHop : UInt32) : Bool := (p.find? hopByHop).isSome

def erase (p : Pending) (hopByHop : UInt32) : Pending :=
  ⟨p.entries.filter (·.key != hopByHop)⟩

/-- Enters a request; what had its identifier before is displaced. -/
def insert (p : Pending) (x : Exchange) : Option Exchange × Pending :=
  (p.find? x.key, ⟨(p.erase x.key).entries ++ [x]⟩)

/-- The waiter of an answer gets it. -/
def resolve (p : Pending) (answer : Message) :
    Except Failure (Exchange × Completion × Pending) :=
  let hopByHop := answer.header.hopByHop
  match p.find? hopByHop with
  | none => .error (.unknownAnswer hopByHop)
  | some x => .ok (x, ⟨x.waiter, answer⟩, p.erase hopByHop)

/-- The waiter gets a local answer. -/
def fail (p : Pending) (n : Node) (hopByHop : UInt32) (r : ResultCode) :
    Option (Exchange × Completion × Pending) :=
  (p.find? hopByHop).map fun x => (x, ⟨x.waiter, x.localAnswer n r⟩, p.erase hopByHop)

/-- No answer came in time. -/
def expire (p : Pending) (n : Node) (hopByHop : UInt32) :
    Option (Exchange × Completion × Pending) :=
  p.fail n hopByHop .unableToDeliver

/-- Every waiter gets a local answer. -/
def drain (p : Pending) (n : Node) : List Completion :=
  p.entries.map fun x => ⟨x.waiter, x.localAnswer n .unableToDeliver⟩

end Pending

end Diameter
