/-!
The identifiers that a node hands out: two 32-bit counters that wrap, and session names.
-/

namespace Diameter

structure Identifiers where
  hopByHop : UInt32 := 0
  endToEnd : UInt32 := 0
  sessionHigh : UInt32 := 0
  sessionLow : UInt32 := 0
  deriving DecidableEq, Repr, Inhabited

namespace Identifiers

/-- The counters continue after the seeds; sessions are counted from 1. -/
def seeded (hopByHop endToEnd session : UInt32) : Identifiers :=
  { hopByHop, endToEnd, sessionHigh := session, sessionLow := 0 }

def nextHopByHop (ids : Identifiers) : UInt32 × Identifiers :=
  let id := ids.hopByHop + 1
  (id, { ids with hopByHop := id })

def nextEndToEnd (ids : Identifiers) : UInt32 × Identifiers :=
  let id := ids.endToEnd + 1
  (id, { ids with endToEnd := id })

/-- A session is named by the host that opens it and two numbers. -/
def nextSession (ids : Identifiers) (host : String) : String × Identifiers :=
  let low := ids.sessionLow + 1
  (s!"{host};{ids.sessionHigh};{low};0", { ids with sessionLow := low })

end Identifiers

end Diameter
