import Diameter.Connection

/-!
A turn of a connection: the moves that handling an event is made of.

A turn holds the connection, the identifiers it draws from and, in order, the effects it has
on the world so far. `Turn.write` begins a write and `Turn.settle` is what follows one;
a message that may not be written, or has no stream to go to, is settled at once.
-/

namespace Diameter

/-- What a connection does to the world. -/
inductive Effect where
  | note (n : Note)
  /-- Everyone who watches the connection sees the phase. -/
  | showPhase (phase : Phase)
  /-- Everyone who watches the connection sees whom it is bound to. -/
  | showPeer (peer : PeerIdentity)
  /-- A waiter gets its answer. -/
  | complete (c : Completion)
  /-- A waiter will get no answer. -/
  | abandon (waiter : Nat)
  /-- Whoever waited for the shutdown may go on. -/
  | release (waiter : Nat)
  | dial
  | abandonDial
  /-- Read from an attached stream. -/
  | listen (link : Link)
  /-- Close an attached stream. -/
  | hangUp (link : Link)
  /-- Close a stream that was never attached. -/
  | refuse (stream : Nat)
  /-- Hand a request of a stream to the registry. -/
  | dispatch (link : Nat) (request : Message)
  deriving Repr

structure Turn where
  now : Nat
  /-- Orders alarms that are armed within one millisecond. -/
  serial : Nat
  ids : Identifiers
  conn : Connection
  effects : List Effect := []

namespace Turn

def emit (e : Effect) (t : Turn) : Turn := { t with effects := t.effects ++ [e] }

def note (n : Note) (t : Turn) : Turn := t.emit (.note n)

def report (e : Failure) (t : Turn) : Turn := t.note (.failure t.conn.peerHost? e)

/-- Something happened that the phase has no use for. -/
def notAcceptable (event : String) (t : Turn) : Turn :=
  t.report (.notAcceptable t.conn.phase event)

def arm (slot : AlarmSlot) (after : Nat) (event : Event) (t : Turn) : Turn :=
  { t with conn.alarms := t.conn.alarms.arm slot (t.now + after) t.serial event }

def disarm (slot : AlarmSlot) (t : Turn) : Turn :=
  { t with conn.alarms := t.conn.alarms.cancel slot }

/-- A pending exchange has ended. -/
def complete (x : Exchange) (c : Completion) (pending : Pending) (t : Turn) : Turn :=
  ({ t with conn.pending := pending }.disarm (.exchange x.key)).emit (.complete c)

/-- Closes the stream on a side. -/
def hangUp (side : Side) (t : Turn) : Turn :=
  match t.conn.link? side with
  | none => t
  | some link =>
    let t := match side with
      | .initiator => { t with conn.initiator := none }
      | .responder => { t with conn.responder := none }
    t.emit (.hangUp link)

/-- Forgets the accepted stream and the peer behind it. -/
def dropCandidate (t : Turn) : Turn :=
  let t := t.hangUp .responder
  { t with conn.cachedCea := none, conn.cachedPeer := none }

/-- Gives every pending request its local answer. -/
def drain (site : Site) (t : Turn) : Turn :=
  let completions := t.conn.pending.drain site.node
  let t := t.conn.pending.entries.foldl (fun t x => t.disarm (.exchange x.key)) t
  { t with conn.pending := {}, effects := t.effects ++ completions.map .complete }

/-- Lets everyone go on who waited for the shutdown. -/
def releaseStoppers (t : Turn) : Turn :=
  { t with conn.stoppers := [], effects := t.effects ++ t.conn.stoppers.map .release }

/-- Waits no longer for the dial. -/
def stopDialing (t : Turn) : Turn :=
  if t.conn.dialing then { t with conn.dialing := false }.emit .abandonDial else t

/-- Closes whatever streams there are. -/
def dropStreams (t : Turn) : Turn :=
  let t := (t.hangUp .initiator).hangUp .responder
  { t with conn.cachedCea := none }

/-- Ends whatever is going on. -/
def teardown (site : Site) (t : Turn) : Turn :=
  let t := ((t.stopDialing.dropStreams.disarm .idle).disarm .reply).disarm .close
  (t.drain site).releaseStoppers

/-- Changes the phase. Closing stops the watchdog, shutting down ends everything. -/
def transition (site : Site) (phase : Phase) (t : Turn) : Turn :=
  if t.conn.phase = phase then t
  else
    let n := Note.phase t.conn.peerHost? t.conn.phase phase
    let t := ({ t with conn.phase := phase }.note n).emit (.showPhase phase)
    match phase with
    | .closing => (t.disarm .idle).disarm .reply
    | .shutdown => t.teardown site
    | _ => t

/-- Reports a failure that the connection does not survive. -/
def giveUp (site : Site) (e : Failure) (t : Turn) : Turn :=
  (t.report e).transition site .shutdown

/-- Starts the idle time afresh. -/
def armIdle (site : Site) (t : Turn) : Turn :=
  let generation := t.conn.generation + 1
  { t with conn.generation := generation }.arm .idle site.settings.watchdogInterval
    (.watchdogIdle generation)

/-- The peer is known and traffic may flow. -/
def openAs (site : Site) (peer : PeerIdentity) (phase : Phase) (t : Turn) : Turn :=
  let t := { t with conn.identity := some peer }.emit (.showPeer peer)
  let t := { t with conn.failures := 0, conn.outstanding := none }
  (t.transition site phase).armIdle site

/-- Decides the election, once both streams are up. -/
def elect (site : Site) (t : Turn) : Turn :=
  match t.conn.cachedPeer with
  | none => t
  | some peer =>
    if wonElection site.node.host peer.host then
      { t with conn.internal := t.conn.internal ++ [.wonElection] }
    else t

/-- Attaches a stream and begins to read from it. -/
def attach (stream : Nat) (t : Turn) : Link × Turn :=
  let link : Link := ⟨t.conn.attached + 1, stream⟩
  (link, { t with conn.attached := link.id }.emit (.listen link))

/-! ### Writing -/

/-- What follows a write that has ended, well or with a failure. -/
def settle (site : Site) (goal : Goal) (m : Message) (result : Option Failure) (t : Turn) : Turn :=
  match goal with
  | .turnAway link e => (t.report e).emit (.hangUp link)
  | .reject e =>
    let t := match result with
      | some w => t.giveUp site w
      | none => t
    t.giveUp site e
  | .complain e =>
    let t := match result with
      | some w => t.giveUp site w
      | none => t
    t.report e
  | goal => match result with
    | some w => t.giveUp site w
    | none => match goal with
      | .introduce true => (t.transition site .waitReturns).elect site
      | .introduce false => t.transition site .waitICea
      | .accept peer => t.openAs site peer .rOpen
      | .farewell => (t.transition site .closing).transition site .shutdown
      | .request =>
        let h := m.header
        let t := t.note (.sent h.command h.application h.hopByHop h.isRetransmit)
        if t.conn.outstanding.isNone then t.armIdle site else t
      | .disconnect =>
        (t.transition site .closing).arm .close site.settings.sendTimeout .closeTimeout
      | .probe hopByHop =>
        { t with conn.outstanding := some hopByHop }.arm .reply site.settings.sendTimeout
          (.watchdogReply hopByHop)
      | _ => t

/-- Begins to write a message. -/
def writeOn (site : Site) (link : Link) (m : Message) (goal : Goal) (t : Turn) : Turn :=
  match m.checkLength with
  | .error e => t.settle site goal m (some e)
  | .ok _ =>
    { t with conn.writing := some ⟨link, m, goal, t.now + site.settings.sendTimeout⟩ }

/-- Begins to write a message on a side, if a stream is there. -/
def write (site : Site) (side : Side) (m : Message) (goal : Goal) (t : Turn) : Turn :=
  match t.conn.link? side with
  | none => t.settle site goal m (some .closed)
  | some link => t.writeOn site link m goal

end Turn

end Diameter
