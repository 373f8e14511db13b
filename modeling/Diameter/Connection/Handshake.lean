import Diameter.Connection.Turn

/-!
Getting a connection open: dialing, the capabilities exchange, and the election between a
dialed and an accepted stream.
-/

namespace Diameter

namespace Turn

/-- Begins to dial. -/
def onStart (site : Site) (t : Turn) : Turn :=
  if t.conn.phase ≠ .closed then t.notAcceptable "Start"
  else
    let t := t.transition site .waitConnAck
    { t with conn.dialing := true }.emit .dial

/-- Introduces this end on the stream that was dialed. -/
def introduce (site : Site) (stream : Nat) (electing : Bool) (t : Turn) : Turn :=
  let (link, t) := t.attach stream
  let (cer, ids) := site.node.cer t.ids
  let t := { t with conn.initiator := some link, ids := ids }
  t.write site .initiator cer (.introduce electing)

def onDialed (site : Site) (stream : Nat) (t : Turn) : Turn :=
  let t := { t with conn.dialing := false }
  match t.conn.phase with
  | .waitConnAck => t.introduce site stream false
  | .waitConnAckElect => t.introduce site stream true
  | _ => (t.notAcceptable "I-Rcv-Conn-Ack").emit (.refuse stream)

/-- Sends the kept CEA on the accepted stream and opens on it. -/
def openResponder (site : Site) (t : Turn) : Turn :=
  let forgotten := { t with conn.cachedCea := none, conn.cachedPeer := none }
  match t.conn.cachedCea, t.conn.cachedPeer with
  | some cea, some peer => forgotten.write site .responder cea (.accept peer)
  | _, _ => forgotten.transition site .shutdown

def onDialFailed (site : Site) (text : String) (t : Turn) : Turn :=
  let t := { t with conn.dialing := false }
  match t.conn.phase with
  | .waitConnAck => t.giveUp site (.refused text)
  | .waitConnAckElect => (t.report (.refused text)).openResponder site
  | _ => t.notAcceptable "I-Rcv-Conn-Nack"

/-- A stream of the peer, on which a CER is to come. -/
def onAccepted (site : Site) (stream : Nat) (t : Turn) : Turn :=
  if t.conn.phase ≠ .closed then
    (t.notAcceptable "R-Conn-Accepted").emit (.refuse stream)
  else
    let (link, t) := t.attach stream
    { t with conn.responder := some link }.transition site .waitCer

/-- The verdict on a CER, given whom this connection expects; with the CEA to send. -/
def judge (site : Site) (cer : Message) (t : Turn) : CerVerdict :=
  match site.node.answerCer cer with
  | .reject e cea => .reject e cea
  | .accept peer cea =>
    if t.conn.expects peer.host then .accept peer cea
    else
      let e := Failure.unknownPeer peer.host
      .reject e (site.node.errorCea cer e)

/-- The CER on the only stream there is. -/
def answerFirstCer (site : Site) (cer : Message) (t : Turn) : Turn :=
  match t.judge site cer with
  | .accept peer cea => t.write site .responder cea (.accept peer)
  | .reject e cea => t.write site .responder cea (.reject e)

/-- The CER on a second stream, while this end is dialing or has introduced itself. -/
def electIncoming (site : Site) (stream : Nat) (cer : Message) (t : Turn) : Turn :=
  let (link, t) := t.attach stream
  match t.judge site cer with
  | .reject e cea => t.writeOn site link cea (.turnAway link e)
  | .accept peer cea =>
    let t := { t with
      conn.responder := some link, conn.cachedCea := some cea, conn.cachedPeer := some peer }
    if t.conn.phase = .waitConnAck then t.transition site .waitConnAckElect
    else (t.transition site .waitReturns).elect site

def onAcceptedCer (site : Site) (stream : Nat) (cer : Message) (t : Turn) : Turn :=
  match t.conn.phase with
  | .closed =>
    let (link, t) := t.attach stream
    { t with conn.responder := some link }.answerFirstCer site cer
  | .waitConnAck | .waitICea => t.electIncoming site stream cer
  | _ => t.emit (.refuse stream)

/-- This end keeps the accepted stream and gives up the dialed one. -/
def onWonElection (site : Site) (t : Turn) : Turn :=
  if t.conn.phase ≠ .waitReturns then t.notAcceptable "Win-Election"
  else (t.hangUp .initiator).openResponder site

/-- The host that a CEA has to come from, if that is known. -/
def boundHost? (t : Turn) : Option String :=
  match t.conn.cachedPeer with
  | some peer => some peer.host
  | none => t.conn.expectedHost

/-- The CEA on the dialed stream opens the connection or ends it. -/
def onCea (site : Site) (cea : Message) (t : Turn) : Turn :=
  match site.node.acceptCea cea with
  | .error e => t.giveUp site e
  | .ok peer =>
    if t.boundHost?.all (Identity.same · peer.host) then
      let t := if t.conn.phase = .waitReturns then t.dropCandidate else t
      t.openAs site peer .iOpen
    else t.giveUp site (.unknownPeer peer.host)

end Turn

end Diameter
