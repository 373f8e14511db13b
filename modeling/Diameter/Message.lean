import Diameter.Avp.Value

/-!
Messages: a header of 20 octets and a list of AVPs, read from and written to octets.

```text
  version (1)  length (3)  flags (1)  command (3)  application (4)  hop-by-hop (4)  end-to-end (4)
```
-/

namespace Diameter

structure Header where
  version : UInt8
  flags : UInt8
  command : UInt32
  application : UInt32
  hopByHop : UInt32
  endToEnd : UInt32
  deriving DecidableEq, Repr, Inhabited

structure Message where
  header : Header
  avps : List Avp
  deriving DecidableEq, Repr, Inhabited

namespace Command

def capabilitiesExchange : UInt32 := 257
def deviceWatchdog : UInt32 := 280
def disconnectPeer : UInt32 := 282

end Command

namespace Header

/-- The only version there is. -/
def currentVersion : UInt8 := 1

def size : Nat := 20

/-- What fits into the length field. -/
def maxLength : Nat := 0xFFFFFF

def requestFlag : UInt8 := 0x80

def proxiableFlag : UInt8 := 0x40

def errorFlag : UInt8 := 0x20

def retransmitFlag : UInt8 := 0x10

def isRequest (h : Header) : Bool := h.flags &&& requestFlag != 0

def isAnswer (h : Header) : Bool := !h.isRequest

def isProxiable (h : Header) : Bool := h.flags &&& proxiableFlag != 0

def isError (h : Header) : Bool := h.flags &&& errorFlag != 0

def isRetransmit (h : Header) : Bool := h.flags &&& retransmitFlag != 0

def setError (h : Header) : Header := { h with flags := h.flags ||| errorFlag }

def setRetransmit (h : Header) : Header := { h with flags := h.flags ||| retransmitFlag }

/-- Belongs to application 0. -/
def isBase (h : Header) : Bool := h.application == 0

/-- A proxiable request with both identifiers zero. -/
def request (command application : UInt32) : Header :=
  { version := currentVersion, flags := requestFlag ||| proxiableFlag, command, application,
    hopByHop := 0, endToEnd := 0 }

/-- The header of an answer: command, application, identifiers and proxiable flag are kept. -/
def answer (h : Header) : Header :=
  { h with version := currentVersion, flags := h.flags &&& proxiableFlag }

/-- A request must not be marked as an error, nor an answer as a retransmission. -/
def checkFlags (h : Header) : Except Failure Unit :=
  if (if h.isRequest then h.isError else h.isRetransmit) then
    .error (.invalidMessage .badHeaderBits)
  else .ok ()

def encode (h : Header) (length : Nat) : Octets :=
  h.version :: Octets.ofNat 3 length ++ h.flags :: Octets.ofNat 3 h.command.toNat ++
    Octets.ofWord h.application ++ Octets.ofWord h.hopByHop ++ Octets.ofWord h.endToEnd

@[simp] theorem length_encode (h : Header) (n : Nat) : (h.encode n).length = size := by
  simp [encode, size]

/-- A header, the length it announces, and what follows it. -/
def decode (b : Octets) : Except Failure (Header × Nat × Octets) :=
  match Octets.split? size b with
  | none => .error (.shortBuffer size b.length)
  | some (head, rest) =>
    let version := head.getD 0 0
    let length := Octets.toNat ((head.drop 1).take 3)
    if version ≠ currentVersion then .error (.invalidMessage .unsupportedVersion)
    else if length < size ∨ length % 4 ≠ 0 then .error (.invalidMessage .badLength)
    else
      .ok ({ version, flags := head.getD 4 0,
             command := Octets.toWord ((head.drop 5).take 3),
             application := Octets.toWord ((head.drop 8).take 4),
             hopByHop := Octets.toWord ((head.drop 12).take 4),
             endToEnd := Octets.toWord ((head.drop 16).take 4) }, length, rest)

end Header

namespace Message

/-- A request without AVPs. -/
def request (command application : UInt32) : Message := ⟨Header.request command application, []⟩

/-- The answer to a request, without AVPs. -/
def answer (m : Message) : Message := ⟨m.header.answer, []⟩

/-- The message with one more AVP at the end. -/
def push (m : Message) (a : Avp) : Message := { m with avps := m.avps ++ [a] }

def find (m : Message) (code : UInt32) : Option Avp := Avp.find m.avps code

/-! ### Octets -/

/-- The length that the header announces. -/
def length (m : Message) : Nat := Header.size + Avp.wireLengthAll m.avps

/-- Only a message whose length fits its field may be written. -/
def checkLength (m : Message) : Except Failure Unit :=
  if m.length > Header.maxLength then .error (.invalidMessage .badLength) else .ok ()

def encode (m : Message) : Octets := m.header.encode m.length ++ Avp.encodeAll m.avps

theorem length_encode (m : Message) : m.encode.length = m.length := by
  simp [encode, length, Avp.length_encodeAll]

/-- The octets to put on a stream. -/
def octets? (m : Message) : Except Failure Octets := m.checkLength.map fun _ => m.encode

/-- A message of a header and the octets behind it. -/
def ofBody (h : Header) (body : Octets) : Except Failure Message :=
  (Avp.decodeAll body).map fun avps => ⟨h, avps⟩

/-- One message at the head of the octets, and what follows it. -/
def decode (b : Octets) : Except Failure (Message × Octets) :=
  match Header.decode b with
  | .error e => .error e
  | .ok (h, length, rest) =>
    match Octets.split? (length - Header.size) rest with
    | none => .error (.shortBuffer (length - Header.size) rest.length)
    | some (body, rest) => (ofBody h body).map fun m => (m, rest)

/-! ### What a message says -/

/-- A command of the base protocol. -/
def isBase (m : Message) : Bool := m.header.isBase

def isBaseCommand (m : Message) (command : UInt32) : Bool :=
  m.isBase && m.header.command == command

/-- A capabilities-exchange request. -/
def isCer (m : Message) : Bool :=
  m.isBaseCommand Command.capabilitiesExchange && m.header.isRequest

/-- A capabilities-exchange answer. -/
def isCea (m : Message) : Bool :=
  m.isBaseCommand Command.capabilitiesExchange && m.header.isAnswer

/-- Short name: three letters for the base commands, numbers for all others. -/
def name (m : Message) : String :=
  let kind := if m.header.isRequest then "R" else "A"
  if m.isBaseCommand Command.capabilitiesExchange then "CE" ++ kind
  else if m.isBaseCommand Command.deviceWatchdog then "DW" ++ kind
  else if m.isBaseCommand Command.disconnectPeer then "DP" ++ kind
  else s!"{m.header.command}/{m.header.application} {kind}"

/-- The text of the first AVP of a code. -/
def text? (m : Message) (code : UInt32) : Option String := (m.find code).bind Avp.text?

def originHost? (m : Message) : Option String := m.text? Avp.Code.originHost

def originRealm? (m : Message) : Option String := m.text? Avp.Code.originRealm

def sessionId? (m : Message) : Option Avp := m.find Avp.Code.sessionId

def resultCode? (m : Message) : Option UInt32 :=
  (m.find Avp.Code.resultCode).bind fun a => a.asUnsigned32.toOption

end Message

end Diameter
