/-!
Points in time and the 32-bit seconds field that carries them.

The field counts seconds from the start of 1900 and wraps every 2^32 seconds. Read back, a
field with its top bit set lies before the wrap of 2036 and one with it clear lies after.
-/

namespace Diameter

/-- Nanoseconds since the start of 1970, negative before. -/
structure PointInTime where
  nanos : Int
  deriving DecidableEq, Repr, Inhabited

namespace PointInTime

def nanosPerSecond : Int := 1000000000

def ofSeconds (s : Int) : PointInTime := ⟨s * nanosPerSecond⟩

/-- Whole seconds between the point and the start of 1970, negative before. -/
def seconds (t : PointInTime) : Int := t.nanos.tdiv nanosPerSecond

/-- Seconds from the start of 1900 to that of 1970. -/
def epochOffset : Int := 2208988800

def toNtp (t : PointInTime) : UInt32 := UInt32.ofInt (t.seconds + epochOffset)

def ofNtp (n : UInt32) : PointInTime :=
  let era : Int := if 2 * n.toNat < UInt32.size then UInt32.size else 0
  ofSeconds (n.toNat + era - epochOffset)

end PointInTime

end Diameter
