import Diameter.Connection.Turn

/-!
What this end asks of a connection, and its alarms: requests, answers of handlers, the
disconnect and the watchdog.
-/

namespace Diameter

namespace Turn

/-- Without an open connection a waiter is answered at once. -/
def refuseToSend (site : Site) (waiter : Nat) (request : Message) (t : Turn) : Turn :=
  t.emit (.complete ⟨waiter, site.node.answer request .unableToDeliver⟩)

/-- A request to be sent on behalf of a waiter. -/
def onSend (site : Site) (waiter : Nat) (request : Message) (t : Turn) : Turn :=
  match t.conn.activeSide? with
  | some side =>
    if t.conn.phase.isOpen then
      let x := Exchange.ofRequest waiter request t.now
      let t := t.arm (.exchange x.key) site.settings.sendTimeout (.exchangeTimeout x.key)
      let (displaced, pending) := t.conn.pending.insert x
      let t := { t with conn.pending := pending }
      let t := match displaced with
        | some y => t.emit (.abandon y.waiter)
        | none => t
      t.write site side request .request
    else t.refuseToSend site waiter request
  | none => t.refuseToSend site waiter request

/-- A handler's answer goes out on the stream its request came from, or not at all. -/
def onHandled (site : Site) (link : Nat) (answer : Message) (t : Turn) : Turn :=
  match t.conn.activeSide?, t.conn.activeLink? with
  | some side, some l => if l.id = link then t.write site side answer .answer else t
  | _, _ => t

def onExchangeTimeout (site : Site) (hopByHop : UInt32) (t : Turn) : Turn :=
  match t.conn.pending.expire site.node hopByHop with
  | none => t
  | some (x, c, pending) =>
    (t.complete x c pending).note (.timedOut x.header.command hopByHop)

/-- Asks the peer to part. -/
def disconnect (site : Site) (side : Side) (cause : DisconnectCause) (t : Turn) : Turn :=
  let (dpr, ids) := site.node.dpr cause t.ids
  { t with ids := ids }.write site side dpr .disconnect

/-- Somebody wants the connection shut down and waits for it. -/
def onStop (site : Site) (waiter : Nat) (cause : DisconnectCause) (t : Turn) : Turn :=
  let t := { t with conn.stoppers := t.conn.stoppers ++ [waiter] }
  match t.conn.phase with
  | .rOpen => t.disconnect site .responder cause
  | .iOpen => t.disconnect site .initiator cause
  | .closing => t
  | _ => t.transition site .shutdown

def onCloseTimeout (site : Site) (t : Turn) : Turn :=
  if t.conn.phase = .closing then t.transition site .shutdown else t

/-! ### Watchdog -/

/-- The idle time is over: a watchdog request goes out, unless the alarm is stale. -/
def onWatchdogIdle (site : Site) (generation : Nat) (t : Turn) : Turn :=
  if generation = t.conn.generation ∧ t.conn.phase.isOpen ∧ t.conn.outstanding = none then
    match t.conn.activeSide? with
    | none => t
    | some side =>
      let (dwr, ids) := site.node.dwr t.ids
      { t with ids := ids }.write site side dwr (.probe dwr.header.hopByHop)
  else t

/-- A watchdog request stayed unanswered; too many in a row end the connection. -/
def onWatchdogReply (site : Site) (hopByHop : UInt32) (t : Turn) : Turn :=
  if t.conn.outstanding ≠ some hopByHop then t
  else
    let missed := t.conn.failures + 1
    let t := { t with conn.outstanding := none, conn.failures := missed }
    if missed ≥ site.settings.watchdogLimit then t.giveUp site (.watchdogExpired missed)
    else t.armIdle site

end Turn

end Diameter
