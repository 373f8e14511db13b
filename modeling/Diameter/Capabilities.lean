import Diameter.Node

/-!
What a capabilities exchange tells about the far end, and the applications both ends share.

A request must say everything (`Capabilities.ofCer`); an answer need only name its origin
(`Capabilities.ofCea`). `negotiate` picks the common applications, `wonElection` says which end
keeps the stream it was dialed on.
-/

namespace Diameter

/-- The far end as a capabilities exchange has bound it. -/
structure PeerIdentity where
  host : String
  realm : String
  /-- What both ends support. -/
  applications : List Application
  deriving DecidableEq, Repr, Inhabited

/-- The origin of a message is this peer. -/
def PeerIdentity.isOrigin (p : PeerIdentity) (host realm : String) : Bool :=
  Identity.same p.host host && Identity.same p.realm realm

structure Capabilities where
  host : String
  realm : String
  addresses : List Address
  vendor : UInt32
  product : String
  stateId : Option UInt32
  supportedVendors : List UInt32
  applications : List Application
  firmware : Option UInt32
  deriving DecidableEq, Repr, Inhabited

namespace Capabilities

/-- The first AVP of a code, which has to be there. -/
def required (avps : List Avp) (code : UInt32) : Except Failure Avp :=
  match Avp.find avps code with
  | some a => .ok a
  | none => .error (.invalidAvp code .missing)

/-- The number in the first AVP of a code, if there is one. -/
def optionalWord (avps : List Avp) (code : UInt32) : Except Failure (Option UInt32) :=
  match Avp.find avps code with
  | some a => a.asUnsigned32.map some
  | none => .ok none

def words (avps : List Avp) (code : UInt32) : Except Failure (List UInt32) :=
  (Avp.findAll avps code).mapM Avp.asUnsigned32

/-- The application in a group: its vendor, then its id for authorization, else for accounting. -/
def groupedApplication (avps : List Avp) : Except Failure Application := do
  let vendor ← (← required avps Avp.Code.vendorId).asUnsigned32
  match Avp.find avps Avp.Code.authApplicationId with
  | some a => return .vendorAuth vendor (← a.asUnsigned32)
  | none => match Avp.find avps Avp.Code.acctApplicationId with
    | some a => return .acct vendor (← a.asUnsigned32)
    | none => .error (.invalidAvp Avp.Code.authApplicationId .missing)

/-- The application that an AVP advertises, if that is what it is for. -/
def applicationOf (a : Avp) : Except Failure (Option Application) :=
  if a.vendor.isSome then .ok none
  else if a.code = Avp.Code.authApplicationId then a.asUnsigned32.map (some ∘ .auth)
  else if a.code = Avp.Code.acctApplicationId then a.asUnsigned32.map (some ∘ .acct 0)
  else if a.code = Avp.Code.vendorSpecificApplicationId then
    (a.asGrouped >>= groupedApplication).map some
  else .ok none

/-- The applications that AVPs advertise, in order. -/
def advertised (avps : List Avp) : Except Failure (List Application) :=
  (avps.mapM applicationOf).map List.reduceOption

/-- What is read alike from request and answer once the origin is known. -/
def finish (avps : List Avp) (host realm : String) (addresses : List Address) (vendor : UInt32)
    (product : String) : Except Failure Capabilities := do
  let stateId ← optionalWord avps Avp.Code.originStateId
  let supportedVendors ← words avps Avp.Code.supportedVendorId
  let applications ← advertised avps
  let firmware ← optionalWord avps Avp.Code.firmwareRevision
  return { host, realm, addresses, vendor, product, stateId, supportedVendors, applications,
           firmware }

def ofCer (cer : Message) : Except Failure Capabilities := do
  let host ← (← required cer.avps Avp.Code.originHost).asIdentity
  let realm ← (← required cer.avps Avp.Code.originRealm).asIdentity
  let addresses ← (Avp.findAll cer.avps Avp.Code.hostIpAddress).mapM Avp.asAddress
  if addresses = [] then .error (.invalidAvp Avp.Code.hostIpAddress .missing)
  let vendor ← (← required cer.avps Avp.Code.vendorId).asUnsigned32
  let product ← (← required cer.avps Avp.Code.productName).asText
  finish cer.avps host realm addresses vendor product

/-- Addresses that cannot be read are passed over, and so is a product that is no text. -/
def ofCea (cea : Message) : Except Failure Capabilities := do
  let host ← (← required cea.avps Avp.Code.originHost).asIdentity
  let realm ← (← required cea.avps Avp.Code.originRealm).asIdentity
  let addresses := (Avp.findAll cea.avps Avp.Code.hostIpAddress).filterMap
    fun a => a.asAddress.toOption
  let vendor := (← optionalWord cea.avps Avp.Code.vendorId).getD 0
  let product := (cea.text? Avp.Code.productName).getD ""
  finish cea.avps host realm addresses vendor product

end Capabilities

/-! ### Agreeing -/

/-- Local applications that the far end has too, each pair of vendor and id once. -/
def commonApplications (here there : List Application) : List Application :=
  here.foldl
    (fun common a =>
      if there.any (·.same a) && !common.any (·.same a) then common ++ [a] else common) []

/-- A relay at one end takes whatever the other end has. -/
def negotiate (here there : List Application) : Except Failure (List Application) :=
  let common :=
    if there.any Application.isRelay then here
    else if here.any Application.isRelay then there
    else commonApplications here there
  if common = [] then .error (.invalidMessage .unsupportedApplication) else .ok common

/-- Of two ends that dialed each other the one with the higher host wins. -/
def wonElection (host peer : String) : Bool := Identity.lower peer < Identity.lower host

/-! ### Answering and accepting -/

/-- How a capabilities-exchange request is answered. -/
inductive CerVerdict where
  | accept (peer : PeerIdentity) (cea : Message)
  | reject (failure : Failure) (cea : Message)
  deriving Repr

namespace Node

/-- The far end that a request introduces, if the request is in order. -/
def identify (n : Node) (cer : Message) : Except Failure PeerIdentity := do
  cer.header.checkFlags
  let c ← Capabilities.ofCer cer
  let applications ← negotiate n.applications c.applications
  return ⟨c.host, c.realm, applications⟩

def answerCer (n : Node) (cer : Message) : CerVerdict :=
  match n.identify cer with
  | .ok peer => .accept peer (n.cea cer .success)
  | .error e => .reject e (n.errorCea cer e)

/-- The far end that an answer introduces, if it reports success. -/
def acceptCea (n : Node) (cea : Message) : Except Failure PeerIdentity := do
  match cea.resultCode? with
  | none => .error (.invalidAvp Avp.Code.resultCode .missing)
  | some code =>
    if !ResultCode.isSuccess code then .error (.answered code)
    let c ← Capabilities.ofCea cea
    let applications ← negotiate n.applications c.applications
    return ⟨c.host, c.realm, applications⟩

end Node

end Diameter
