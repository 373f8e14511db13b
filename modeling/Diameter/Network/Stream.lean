import Diameter.Message.Frame

/-!
A stream between a connection and a far end, as a pair of bounded pipes.

What one end writes waits in a pipe until the other end takes it, and what finds no room there
is not written yet. Each end can close the stream for good; what was written before can still
be read.
-/

namespace Diameter.Network

structure Stream where
  name : String
  /-- Octets that wait in one direction at most. -/
  capacity : Nat
  /-- The far end takes what comes, whenever everything else has come to rest. -/
  farReads : Bool
  /-- Octets on their way to the connection. -/
  inbound : Octets := []
  /-- Octets of a frame that is not complete yet, taken out of the pipe already. -/
  begun : Octets := []
  /-- Octets that the far end has not read yet. -/
  outbound : Octets := []
  /-- What the far end has read since the last look, the latest piece first. -/
  delivered : List Octets := []
  nearOpen : Bool := true
  farOpen : Bool := true
  /-- The far end has not noticed yet that the stream is gone. -/
  held : Bool := true
  deriving Repr, Inhabited

namespace Stream

def defaultCapacity : Nat := 262144

/-- Octets that the connection can write at once. -/
def outboundRoom (s : Stream) : Nat := s.capacity - s.outbound.length

/-- Puts octets into the outbound pipe; what finds no room is left over. -/
def put (s : Stream) (b : Octets) : Octets × Stream :=
  (b.drop s.outboundRoom, { s with outbound := s.outbound ++ b.take s.outboundRoom })

/-- Octets that the far end can write at once. -/
def inboundRoom (s : Stream) : Nat := s.capacity - s.inbound.length

/-- Takes a frame out of the inbound pipe, or as much of it as is there. -/
def read (max : Nat) (s : Stream) : Frame.Next × Stream :=
  let b := s.begun ++ s.inbound
  match Frame.next max b with
  | .unfinished => (.unfinished, { s with begun := b, inbound := [] })
  | .frame h body rest => (.frame h body rest, { s with begun := [], inbound := rest })
  | .broken e rest => (.broken e rest, { s with begun := [], inbound := rest })

/-- What a reader makes of what has arrived, if anything is complete. No more arrives once the far
end is gone. -/
def deliver (max : Nat) (s : Stream) : Option Frame.Delivery × Stream :=
  match s.read max with
  | (.frame h body _, after) => (some (.ofFrame h body), after)
  | (.broken e _, after) => (some (.ended e), after)
  | (.unfinished, after) => (if s.farOpen then none else some (.ended (.stream .earlyEof)), after)

/-- Something waits for a far end that reads. -/
def isOwed (s : Stream) : Bool := s.held && s.farReads && s.outbound ≠ []

/-- The far end takes all that waits for it. -/
def drain (s : Stream) : Stream :=
  { s with delivered := s.outbound :: s.delivered, outbound := [] }

/-- All that the far end has read since the last look. -/
def readings (s : Stream) : Octets := s.delivered.reverse.flatten

def closeNear (s : Stream) : Stream := { s with nearOpen := false }

/-- The far end goes away. -/
def closeFar (s : Stream) : Stream := { s with farOpen := false, held := false, outbound := [] }

/-- The far end can see that the connection has closed the stream. -/
def showsEnd (s : Stream) : Bool := s.held && s.farReads && !s.nearOpen

end Stream

end Diameter.Network
