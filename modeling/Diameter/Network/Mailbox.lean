import Diameter.Connection

/-!
The events of a connection that wait to be handled, in a queue of bounded length.

Who finds the queue full waits in line. A place that becomes free goes to the first in line, who is
called, and whose event enters the queue once the caller has had a turn.
-/

namespace Diameter.Network

/-- Who brings an event. -/
inductive Poster where
  /-- The reader of an attached stream. -/
  | reader (link : Nat)
  /-- Whoever hands a further stream over. -/
  | acceptor (id : Nat)
  /-- An alarm of the connection itself. -/
  | alarm
  | other
  deriving DecidableEq, Repr

/-- Somebody in line. -/
structure Waiter where
  number : Nat
  poster : Poster
  event : Event

structure Mailbox where
  capacity : Nat
  queued : List Event := []
  /-- Those who have a place in the queue and have yet to take it. -/
  called : List Waiter := []
  waiting : List Waiter := []
  /-- Everyone who ever stood in line. -/
  arrivals : Nat := 0

namespace Mailbox

def free (m : Mailbox) : Nat := m.capacity - m.queued.length - m.called.length

def hasRoom (m : Mailbox) : Bool := m.free > 0

/-- Enters an event, or puts it in line. -/
def offer (m : Mailbox) (p : Poster) (e : Event) : Mailbox :=
  if m.hasRoom then { m with queued := m.queued ++ [e] }
  else { m with waiting := m.waiting ++ [⟨m.arrivals, p, e⟩], arrivals := m.arrivals + 1 }

/-- Calls those for whom there are places. -/
def call (m : Mailbox) : List Waiter × Mailbox :=
  (m.waiting.take m.free,
    { m with called := m.called ++ m.waiting.take m.free, waiting := m.waiting.drop m.free })

/-- Takes the first event out. -/
def pop? (m : Mailbox) : Option (Event × Mailbox) :=
  match m.queued with
  | [] => none
  | e :: rest => some (e, { m with queued := rest })

/-- Somebody who was called enters. -/
def enter (m : Mailbox) (x : Waiter) : Mailbox :=
  { m with queued := m.queued ++ [x.event], called := m.called.filter (·.number ≠ x.number) }

def calledPoster? (m : Mailbox) (p : Poster) : Option Waiter := m.called.find? (·.poster = p)

def calledNumber? (m : Mailbox) (n : Nat) : Option Waiter := m.called.find? (·.number = n)

/-- A poster has not entered the queue yet. -/
def isHeldUp (m : Mailbox) (p : Poster) : Bool := (m.called ++ m.waiting).any (·.poster = p)

/-- Only some stay in line. -/
def keep (m : Mailbox) (stays : Waiter → Bool) : Mailbox :=
  { m with called := m.called.filter stays, waiting := m.waiting.filter stays }

/-- Everything that has not been taken out. -/
def leftovers (m : Mailbox) : List (Poster × Event) :=
  m.queued.map (Poster.other, ·) ++ (m.called ++ m.waiting).map fun x => (x.poster, x.event)

def clear (m : Mailbox) : Mailbox := { m with queued := [], called := [], waiting := [] }

end Mailbox

end Diameter.Network
