/-!
Applications: what they are named by, and the relay application that stands for all.
-/

namespace Diameter

/-- Advertised for authorization or for accounting. -/
inductive ApplicationKind where
  | auth
  | acct
  deriving DecidableEq, Repr, Inhabited

/-- Vendor 0 is no vendor. -/
structure Application where
  vendor : UInt32
  id : UInt32
  kind : ApplicationKind
  deriving DecidableEq, Repr, Inhabited

namespace Application

def relayId : UInt32 := 0xFFFFFFFF

def auth (id : UInt32) : Application := ⟨0, id, .auth⟩

def vendorAuth (vendor id : UInt32) : Application := ⟨vendor, id, .auth⟩

def acct (vendor id : UInt32) : Application := ⟨vendor, id, .acct⟩

def relay : Application := auth relayId

def isRelay (a : Application) : Bool := a.id == relayId

/-- Vendor and id, which alone tell applications apart. -/
def key (a : Application) : UInt32 × UInt32 := (a.vendor, a.id)

def same (a b : Application) : Bool := a.key == b.key

end Application

end Diameter
