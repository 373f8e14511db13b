/-!
The phases of a peer connection, from nothing started to shut down for good.
-/

namespace Diameter

inductive Phase where
  /-- Nothing started yet. -/
  | closed
  /-- Dialing the peer. -/
  | waitConnAck
  /-- CER sent on the dialed stream. -/
  | waitICea
  /-- Dialing while an accepted stream waits for the election. -/
  | waitConnAckElect
  /-- Both streams up, election pending. -/
  | waitReturns
  /-- Stream accepted, its CER still to come. -/
  | waitCer
  /-- Open on the accepted stream. -/
  | rOpen
  /-- Open on the dialed stream. -/
  | iOpen
  /-- DPR sent, waiting for the DPA. -/
  | closing
  | shutdown
  deriving DecidableEq, Repr, Inhabited

namespace Phase

def name : Phase → String
  | closed => "Closed"
  | waitConnAck => "WaitConnAck"
  | waitICea => "WaitICEA"
  | waitConnAckElect => "WaitConnAckElect"
  | waitReturns => "WaitReturns"
  | waitCer => "WaitCER"
  | rOpen => "ROpen"
  | iOpen => "IOpen"
  | closing => "Closing"
  | shutdown => "Shutdown"

def isOpen (p : Phase) : Bool := p = rOpen || p = iOpen

def isTerminal (p : Phase) : Bool := p = shutdown

end Phase

end Diameter
