import Diameter.Connection.Handshake

/-!
What arrives on the streams of a connection.
-/

namespace Diameter

namespace Turn

/-- Ends a pending exchange whose answer cannot be handed over. -/
def failExchange (site : Site) (hopByHop : UInt32) (r : ResultCode) (t : Turn) : Turn :=
  match t.conn.pending.fail site.node hopByHop r with
  | none => t
  | some (x, c, pending) =>
    (t.complete x c pending).note
      (.answered x.header.command hopByHop (some r.code) (x.elapsed t.now))

/-! ### Base commands on an open connection -/

/-- A capabilities exchange has no place here; one of another host ends the connection. -/
def onLateCapabilities (site : Site) (m : Message) (t : Turn) : Turn :=
  let sameHost := match t.conn.identity, m.originHost? with
    | some p, some host => Identity.same p.host host
    | _, _ => true
  if sameHost then t.notAcceptable "Rcv-CE"
  else t.giveUp site (.unknownPeer (m.originHost?.getD ""))

/-- The answer to the outstanding watchdog request. -/
def onDwa (site : Site) (m : Message) (t : Turn) : Turn :=
  if t.conn.outstanding ≠ some m.header.hopByHop then t
  else
    let t := { t with conn.outstanding := none, conn.failures := 0 }.disarm .reply
    if t.conn.phase.isOpen then t.armIdle site else t

def onDpa (site : Site) (t : Turn) : Turn :=
  if t.conn.phase = .closing then t.transition site .shutdown else t.notAcceptable "Rcv-DPA"

/-! ### Messages -/

/-- The peer whose name a message carries, if it is not the bound one. -/
def stranger? (t : Turn) (m : Message) : Option String :=
  match t.conn.identity, m.originHost?, m.originRealm? with
  | some p, some host, some realm => if p.isOrigin host realm then none else some host
  | _, _, _ => none

/-- An answer of the peer. -/
def onAnswer (m : Message) (t : Turn) : Turn :=
  match t.conn.pending.resolve m with
  | .error e => t.report e
  | .ok (x, c, pending) =>
    (t.complete x c pending).note
      (.answered x.header.command m.header.hopByHop m.resultCode? (x.elapsed t.now))

/-- A message with a legal header from the bound peer. -/
def onPeerMessage (site : Site) (side : Side) (link : Nat) (m : Message) (t : Turn) : Turn :=
  let t := if t.conn.outstanding.isNone && t.conn.phase.isOpen then t.armIdle site else t
  if m.isBaseCommand Command.deviceWatchdog then
    if m.header.isRequest then t.write site side (site.node.dwa m) .answer
    else t.onDwa site m
  else if m.isBaseCommand Command.disconnectPeer then
    if m.header.isRequest then t.write site side (site.node.dpa m) .farewell
    else t.onDpa site
  else if m.header.isRequest then t.emit (.dispatch link m)
  else t.onAnswer m

/-- A message on the stream that carries traffic. -/
def onOpenMessage (site : Site) (side : Side) (link : Nat) (m : Message) (t : Turn) : Turn :=
  match m.header.checkFlags with
  | .error e =>
    if m.header.isRequest then
      t.write site side (site.node.errorAnswer m e) (.complain e)
    else t.report e
  | .ok _ =>
    if m.isBaseCommand Command.capabilitiesExchange then t.onLateCapabilities site m
    else match t.stranger? m with
      | some host =>
        let e := Failure.unknownPeer host
        if m.header.isRequest then
          t.write site side (site.node.errorAnswer m e) (.complain e)
        else (t.failExchange site m.header.hopByHop .unknownPeer).report e
      | none => t.onPeerMessage site side link m

/-- A message on an attached stream. -/
def onReceived (site : Site) (side : Side) (link : Nat) (m : Message) (t : Turn) : Turn :=
  match t.conn.phase with
  | .waitCer =>
    if m.isCer then t.answerFirstCer site m
    else (t.notAcceptable "Rcv-Non-CER").transition site .shutdown
  | .waitICea | .waitReturns =>
    if side = .initiator && m.isCea then t.onCea site m else t.notAcceptable "Rcv-Message"
  | .rOpen | .iOpen | .closing =>
    if t.conn.activeSide? = some side then t.onOpenMessage site side link m
    else t.notAcceptable "Rcv-Message"
  | _ => t.notAcceptable "Rcv-Message"

/-! ### Undecodable messages and the end of streams -/

/-- A message of which only the header can be read. -/
def onReceivedInvalid (site : Site) (side : Side) (h : Header) (e : Failure) (t : Turn) : Turn :=
  let active := t.conn.activeSide? = some side
  if h.isRequest then
    let answer := site.node.headerErrorAnswer h e
    if t.conn.phase = .waitCer then t.write site side answer (.reject e)
    else if active then t.write site side answer (.complain e)
    else t.report e
  else
    let ceaExpected := side = .initiator &&
      (t.conn.phase = .waitICea || t.conn.phase = .waitReturns) &&
      h.command = Command.capabilitiesExchange
    let t := if active then t.failExchange site h.hopByHop e.resultCode else t
    let t := t.report e
    if ceaExpected then t.transition site .shutdown else t

/-- A stream that ends between or inside frames is simply closed. -/
def endOfStream : Failure → Failure
  | .stream .earlyEof => .closed
  | e => e

def onDisconnected (site : Site) (side : Side) (e : Failure) (t : Turn) : Turn :=
  match t.conn.phase, side with
  | .waitReturns, .initiator => (t.hangUp .initiator).openResponder site
  | .waitReturns, .responder => t.dropCandidate.transition site .waitICea
  | .waitConnAckElect, .responder => t.dropCandidate.transition site .waitConnAck
  | .closing, _ => t.transition site .shutdown
  | _, _ => t.giveUp site (endOfStream e)

end Turn

end Diameter
