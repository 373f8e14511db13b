import Diameter.Octets

/-!
Internet addresses and the Address format of AVPs: a family number, then the octets.
-/

namespace Diameter

inductive Address where
  | v4 (bits : UInt32)
  | v6 (high low : UInt64)
  deriving DecidableEq, Repr, Inhabited

namespace Address

def octets : Address → Octets
  | v4 bits => Octets.ofWord bits
  | v6 high low => Octets.ofLongWord high ++ Octets.ofLongWord low

/-- The address that 4 or 16 octets spell. -/
def ofOctets? (b : Octets) : Option Address :=
  if b.length = 4 then some (.v4 (Octets.toWord b))
  else if b.length = 16 then
    some (.v6 (Octets.toLongWord (b.take 8)) (Octets.toLongWord (b.drop 8)))
  else none

/-- The number that announces the kind of address. -/
def family : Address → Nat
  | v4 _ => 1
  | v6 _ _ => 2

/-- Octets of an address of a family, for the families in use. -/
def width? : Nat → Option Nat
  | 1 => some 4
  | 2 => some 16
  | _ => none

def encode (a : Address) : Octets := Octets.ofNat 2 a.family ++ a.octets

end Address

end Diameter
