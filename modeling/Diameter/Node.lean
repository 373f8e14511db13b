import Diameter.Identifiers
import Diameter.Message
import Diameter.Settings

/-!
The local node and the base-protocol messages that it writes.

Requests draw a hop-by-hop identifier and then an end-to-end identifier, so their builders
return the identifiers that are left. Answers take everything from the request.
-/

namespace Diameter

/-- Why a connection is taken down on purpose. -/
inductive DisconnectCause where
  | rebooting
  | busy
  | doNotWantToTalkToYou
  deriving DecidableEq, Repr, Inhabited

namespace DisconnectCause

def code : DisconnectCause → Int32
  | rebooting => 0
  | busy => 1
  | doNotWantToTalkToYou => 2

def name : DisconnectCause → String
  | rebooting => "Rebooting"
  | busy => "Busy"
  | doNotWantToTalkToYou => "DoNotWantToTalkToYou"

def ofCode? (v : Int32) : Option DisconnectCause :=
  [rebooting, busy, doNotWantToTalkToYou].find? (·.code == v)

end DisconnectCause

/-- Identity and capabilities of this end, shared by all of its connections. -/
structure Node where
  host : String
  realm : String
  addresses : List Address
  vendor : UInt32
  product : String
  firmware : Option UInt32
  applications : List Application
  peer : PeerSettings
  /-- Tells the peer whether this end has lost its state. -/
  stateId : UInt32
  deriving DecidableEq, Repr, Inhabited

namespace Node

def ofSettings (s : Settings) (stateId : UInt32) : Except Failure Node :=
  s.check.map fun _ =>
    { host := s.host, realm := s.realm, addresses := s.addresses, vendor := s.vendor,
      product := s.product, firmware := s.firmware, applications := s.applications,
      peer := s.peer, stateId }

def isRelay (n : Node) : Bool := n.applications.any Application.isRelay

/-! ### AVPs -/

/-- Origin-Host and Origin-Realm. -/
def origin (n : Node) : List Avp :=
  [.mandatory Avp.Code.originHost (.diameterIdentity n.host),
    .mandatory Avp.Code.originRealm (.diameterIdentity n.realm)]

def originState (n : Node) : Avp :=
  .mandatory Avp.Code.originStateId (.unsigned32 n.stateId)

def resultAvp (r : ResultCode) : Avp := .mandatory Avp.Code.resultCode (.unsigned32 r.code)

/-- An application of a vendor is wrapped together with the vendor. -/
def applicationAvp (a : Application) : Avp :=
  let code := match a.kind with
    | .auth => Avp.Code.authApplicationId
    | .acct => Avp.Code.acctApplicationId
  let id := Avp.mandatory code (.unsigned32 a.id)
  if a.vendor = 0 then id
  else .mandatory Avp.Code.vendorSpecificApplicationId
    (.grouped [.mandatory Avp.Code.vendorId (.unsigned32 a.vendor), id])

/-- Distinct vendors of applications in order of first use. -/
def supportedVendors (apps : List Application) : List UInt32 :=
  apps.foldl
    (fun vs a => if a.vendor ≠ 0 ∧ a.vendor ∉ vs then vs ++ [a.vendor] else vs) []

/-- What the node supports, as a capabilities exchange says it. -/
def capabilities (n : Node) : List Avp :=
  n.addresses.map (fun a => .mandatory Avp.Code.hostIpAddress (.address a)) ++
    [.mandatory Avp.Code.vendorId (.unsigned32 n.vendor),
      .optional Avp.Code.productName (.utf8String n.product), n.originState] ++
    (supportedVendors n.applications).map
      (fun v => .mandatory Avp.Code.supportedVendorId (.unsigned32 v)) ++
    n.applications.map applicationAvp ++
    n.firmware.toList.map (fun r => .optional Avp.Code.firmwareRevision (.unsigned32 r))

/-- Error-Message, and for a bad AVP the Failed-AVP: the first of its code in the request, or
an empty one in its place. -/
def errorDetails (request : List Avp) (e : Failure) : List Avp :=
  .optional Avp.Code.errorMessage (.utf8String e.message) ::
    e.avpCode?.toList.map fun code =>
      let offending := (request.find? (·.code == code)).getD (.make code 0 none [])
      .mandatory Avp.Code.failedAvp (.grouped [offending])

/-! ### Requests -/

/-- The header of a base request, which is never proxied. -/
def requestHeader (command : UInt32) (ids : Identifiers) : Header × Identifiers :=
  let (hopByHop, ids) := ids.nextHopByHop
  let (endToEnd, ids) := ids.nextEndToEnd
  ({ Header.request command 0 with flags := Header.requestFlag, hopByHop, endToEnd }, ids)

def request (command : UInt32) (avps : List Avp) (ids : Identifiers) : Message × Identifiers :=
  let (header, ids) := requestHeader command ids
  (⟨header, avps⟩, ids)

/-- Capabilities-exchange request. -/
def cer (n : Node) (ids : Identifiers) : Message × Identifiers :=
  request Command.capabilitiesExchange (n.origin ++ n.capabilities) ids

/-- Device-watchdog request. -/
def dwr (n : Node) (ids : Identifiers) : Message × Identifiers :=
  request Command.deviceWatchdog (n.origin ++ [n.originState]) ids

/-- Disconnect-peer request. -/
def dpr (n : Node) (cause : DisconnectCause) (ids : Identifiers) : Message × Identifiers :=
  request Command.disconnectPeer
    (n.origin ++ [.mandatory Avp.Code.disconnectCause (.enumerated cause.code)]) ids

/-! ### Answers -/

/-- The header of an answer: a protocol error is marked as an error. -/
def answerHeader (h : Header) (r : ResultCode) : Header :=
  if ResultCode.isProtocolError r.code then h.answer.setError else h.answer

/-- An answer of this node alone: the session if there is one, the result, the origin. -/
def localAnswer (n : Node) (h : Header) (session : Option Avp) (r : ResultCode) : Message :=
  ⟨answerHeader h r, session.toList ++ resultAvp r :: n.origin⟩

def answer (n : Node) (m : Message) (r : ResultCode) : Message :=
  n.localAnswer m.header m.sessionId? r

/-- An answer that says what is wrong with a request. -/
def errorAnswer (n : Node) (m : Message) (e : Failure) : Message :=
  let a := n.answer m e.resultCode
  { a with avps := a.avps ++ errorDetails m.avps e }

/-- An answer that says what is wrong with a request of which only the header is legal. -/
def headerErrorAnswer (n : Node) (h : Header) (e : Failure) : Message :=
  let a := n.localAnswer h none e.resultCode
  { a with avps := a.avps ++ errorDetails [] e }

/-- Capabilities-exchange answer. -/
def cea (n : Node) (cer : Message) (r : ResultCode) : Message :=
  ⟨answerHeader cer.header r, resultAvp r :: (n.origin ++ n.capabilities)⟩

/-- Capabilities-exchange answer that says why the request is refused. -/
def errorCea (n : Node) (cer : Message) (e : Failure) : Message :=
  let a := n.cea cer e.resultCode
  { a with avps := a.avps ++ errorDetails cer.avps e }

/-- Device-watchdog answer. -/
def dwa (n : Node) (dwr : Message) : Message := (n.answer dwr .success).push n.originState

/-- Disconnect-peer answer. -/
def dpa (n : Node) (dpr : Message) : Message := n.answer dpr .success

end Node

end Diameter
