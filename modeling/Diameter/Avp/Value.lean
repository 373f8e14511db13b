import Diameter.Avp
import Diameter.Address
import Diameter.Identity
import Diameter.PointInTime

/-!
Typed values of AVP data.

A kind says how data is to be read (`Value.decode`), a value how it is written
(`Value.encode`). Writing checks nothing; reading checks widths, UTF-8, address families and
the grammar of identities. Floating-point numbers are kept as their bits.
-/

namespace Diameter

namespace Avp

inductive Kind where
  | octetString
  | integer32
  | integer64
  | unsigned32
  | unsigned64
  | float32
  | float64
  | address
  | time
  | utf8String
  | diameterIdentity
  | diameterUri
  | enumerated
  | ipFilterRule
  | grouped
  deriving DecidableEq, Repr, Inhabited

namespace Kind

def all : List Kind :=
  [octetString, integer32, integer64, unsigned32, unsigned64, float32, float64, address, time,
    utf8String, diameterIdentity, diameterUri, enumerated, ipFilterRule, grouped]

def name : Kind → String
  | octetString => "OctetString"
  | integer32 => "Integer32"
  | integer64 => "Integer64"
  | unsigned32 => "Unsigned32"
  | unsigned64 => "Unsigned64"
  | float32 => "Float32"
  | float64 => "Float64"
  | address => "Address"
  | time => "Time"
  | utf8String => "Utf8String"
  | diameterIdentity => "DiameterIdentity"
  | diameterUri => "DiameterUri"
  | enumerated => "Enumerated"
  | ipFilterRule => "IpFilterRule"
  | grouped => "Grouped"

end Kind

inductive Value where
  | octetString (b : Octets)
  | integer32 (v : Int32)
  | integer64 (v : Int64)
  | unsigned32 (v : UInt32)
  | unsigned64 (v : UInt64)
  | float32 (bits : UInt32)
  | float64 (bits : UInt64)
  | address (a : Address)
  | time (t : PointInTime)
  | utf8String (s : String)
  | diameterIdentity (s : String)
  | diameterUri (s : String)
  | enumerated (v : Int32)
  | ipFilterRule (s : String)
  | grouped (as : List Avp)
  deriving DecidableEq, Repr, Inhabited

namespace Value

def kind : Value → Kind
  | octetString _ => .octetString
  | integer32 _ => .integer32
  | integer64 _ => .integer64
  | unsigned32 _ => .unsigned32
  | unsigned64 _ => .unsigned64
  | float32 _ => .float32
  | float64 _ => .float64
  | address _ => .address
  | time _ => .time
  | utf8String _ => .utf8String
  | diameterIdentity _ => .diameterIdentity
  | diameterUri _ => .diameterUri
  | enumerated _ => .enumerated
  | ipFilterRule _ => .ipFilterRule
  | grouped _ => .grouped

/-- Octets that the value takes as AVP data. -/
def encodedLength : Value → Nat
  | octetString b => b.length
  | integer32 _ | unsigned32 _ | float32 _ | time _ | enumerated _ => 4
  | integer64 _ | unsigned64 _ | float64 _ => 8
  | address (.v4 _) => 6
  | address (.v6 _ _) => 18
  | utf8String s | diameterIdentity s | diameterUri s | ipFilterRule s => s.utf8ByteSize
  | grouped as => wireLengthAll as

def encode : Value → Octets
  | octetString b => b
  | integer32 v | enumerated v => Octets.ofWord v.toUInt32
  | integer64 v => Octets.ofLongWord v.toUInt64
  | unsigned32 v | float32 v => Octets.ofWord v
  | unsigned64 v | float64 v => Octets.ofLongWord v
  | address a => a.encode
  | time t => Octets.ofWord t.toNtp
  | utf8String s | diameterIdentity s | diameterUri s | ipFilterRule s => Octets.ofText s
  | grouped as => encodeAll as

end Value

/-! ### Reading -/

/-- Data of exactly 4 octets. -/
def asUnsigned32 (a : Avp) : Except Failure UInt32 :=
  if a.data.length = 4 then .ok (Octets.toWord a.data)
  else .error (.invalidAvp a.code .badLength)

/-- Data of exactly 8 octets. -/
def asUnsigned64 (a : Avp) : Except Failure UInt64 :=
  if a.data.length = 8 then .ok (Octets.toLongWord a.data)
  else .error (.invalidAvp a.code .badLength)

def asInteger32 (a : Avp) : Except Failure Int32 := a.asUnsigned32.map UInt32.toInt32

/-- Data as text, whatever it says. -/
def text? (a : Avp) : Option String := Octets.text? a.data

def asText (a : Avp) : Except Failure String :=
  match a.text? with
  | some s => .ok s
  | none => .error (.invalidAvp a.code .badValue)

/-- Text that obeys the grammar of identities. -/
def asIdentity (a : Avp) : Except Failure String :=
  match a.text? with
  | some s => if Identity.isValid s then .ok s else .error (.invalidAvp a.code .badValue)
  | none => .error (.invalidAvp a.code .badValue)

def asAddress (a : Avp) : Except Failure Address :=
  match Octets.split? 2 a.data with
  | none => .error (.invalidAvp a.code .badLength)
  | some (family, rest) =>
    match Address.width? (Octets.toNat family) with
    | none => .error (.invalidAvp a.code .badValue)
    | some width =>
      if rest.length ≠ width then .error (.invalidAvp a.code .badLength)
      else match Address.ofOctets? rest with
        | some address => .ok address
        | none => .error (.invalidAvp a.code .badLength)

def asGrouped (a : Avp) : Except Failure (List Avp) := decodeAll a.data

/-- Data read as a kind. -/
def value (a : Avp) : Kind → Except Failure Value
  | .octetString => .ok (.octetString a.data)
  | .integer32 => a.asInteger32.map .integer32
  | .integer64 => a.asUnsigned64.map fun w => .integer64 w.toInt64
  | .unsigned32 => a.asUnsigned32.map .unsigned32
  | .unsigned64 => a.asUnsigned64.map .unsigned64
  | .float32 => a.asUnsigned32.map .float32
  | .float64 => a.asUnsigned64.map .float64
  | .address => a.asAddress.map .address
  | .time => a.asUnsigned32.map fun w => .time (.ofNtp w)
  | .utf8String => a.asText.map .utf8String
  | .diameterIdentity => a.asIdentity.map .diameterIdentity
  | .diameterUri => a.asText.map .diameterUri
  | .enumerated => a.asInteger32.map .enumerated
  | .ipFilterRule => a.asText.map .ipFilterRule
  | .grouped => a.asGrouped.map .grouped

/-- Data read as a kind; failures name the code. -/
def Value.decode (kind : Kind) (code : UInt32) (data : Octets) : Except Failure Value :=
  Avp.value { code, flags := 0, vendor := none, data } kind

/-! ### Making AVPs of values -/

def mandatory (code : UInt32) (v : Value) : Avp := make code mandatoryFlag none v.encode

/-- No flags set. -/
def optional (code : UInt32) (v : Value) : Avp := make code 0 none v.encode

end Avp

end Diameter
