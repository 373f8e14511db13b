import Diameter.Connection.Step
import Diameter.Message.Frame
import Diameter.Network.Mailbox
import Diameter.Network.Stream
import Diameter.PeerTable
import Diameter.Registry
import Diameter.Sending

/-!
Connections of a node in a world of streams, waiting senders and a clock.

The clock stands still while anything can go on. What can go on is in a list of activities:
the connections themselves, the readers of their streams, senders with an answer to look at,
and acceptors of new streams. An activity does its work piece by piece until it has to wait;
then the next one has its turn.
-/

namespace Diameter

namespace Network

/-- The reader of an attached stream. -/
structure Reader where
  link : Link
  /-- The last frame has been read. -/
  ended : Bool := false
  deriving Repr

/-- What an onlooker learns of a connection. -/
inductive Sighting where
  | opened (host : String)
  | neverOpened
  | closed
  deriving Repr

/-- A connection with all that belongs to it. -/
structure Member where
  conn : Connection
  mailbox : Mailbox
  /-- The phase as everyone who watches the connection sees it. -/
  shownPhase : Phase := .closed
  /-- Whom the connection is bound to, as everyone who watches it sees it. -/
  shownPeer : Option PeerIdentity := none
  readers : List Reader := []
  /-- Octets of the message on its way that are not put yet. -/
  unwritten : Octets := []
  /-- Nothing will be handled any more. -/
  finished : Bool := false
  sawOpening : Bool := false
  sawClosing : Bool := false
  sightings : List Sighting := []

/-- How far a sender has come. -/
inductive SenderState where
  | fresh (request : Message)
  /-- An attempt is queued or pending. -/
  | waiting (s : Sending) (attempt : Message)
  | answered (s : Sending) (answer : Message)
  deriving Repr

structure Sender where
  id : Nat
  member : Nat
  state : SenderState
  deriving Repr

/-- An accepted stream whose first frame is still to come, or which stands in line to be handed
over. -/
structure Acceptor where
  id : Nat
  stream : Nat
  deadline : Nat
  handingTo : Option Nat := none
  deriving Repr

inductive Activity where
  | member (i : Nat)
  | reader (i link : Nat)
  | sender (id : Nat)
  | acceptor (id : Nat)
  /-- Somebody in the line of a connection who does nothing else. -/
  | waiter (i number : Nat)
  /-- Alarms of a connection that are due at once. -/
  | bell (i : Nat)
  deriving DecidableEq, Repr

/-- How dialing goes. -/
inductive Dialing where
  /-- A dial lasts until its outcome is decided. -/
  | pending
  /-- There is no network to dial on. -/
  | unreachable
  deriving DecidableEq, Repr

/-- What a dial without a network ends with. -/
def unreachableText : String := "Network is unreachable (os error 101)"

end Network

open Network in
structure Network where
  site : Site
  registry : Registry
  dialing : Dialing
  ids : Identifiers
  now : Nat := 0
  /-- Turns taken by all connections. -/
  serial : Nat := 0
  /-- Numbers given to senders, to acceptors and to whoever waits for a shutdown. -/
  tickets : Nat := 0
  table : PeerTable := {}
  members : Array Member := #[]
  streams : Array Stream := #[]
  senders : List Sender := []
  acceptors : List Acceptor := []
  /-- Requests that handlers have yet to see: connection, stream, request. -/
  jobs : List (Nat × Nat × Message) := []
  /-- What can go on, first things first. -/
  ready : List Activity := []
  /-- News since the last look. -/
  notes : List Note := []
  answers : List (Nat × Message) := []
  stopped : List (Nat × Phase) := []
  accepted : List (Nat × Except Failure (Option String)) := []

namespace Network

def wake (a : Activity) (w : Network) : Network :=
  if a ∈ w.ready then w else { w with ready := w.ready ++ [a] }

def modifyMember (i : Nat) (f : Member → Member) (w : Network) : Network :=
  { w with members := w.members.modify i f }

def modifyStream (s : Nat) (f : Stream → Stream) (w : Network) : Network :=
  { w with streams := w.streams.modify s f }

def phaseOf (w : Network) (i : Nat) : Phase :=
  (w.members[i]?.map (·.shownPhase)).getD .shutdown

def isLive (w : Network) (i : Nat) : Bool := !(w.phaseOf i).isTerminal

/-- Whom a connection is bound to. -/
def peerOf (w : Network) (i : Nat) : Option PeerIdentity :=
  w.members[i]?.bind (·.shownPeer)

def closeNear (s : Nat) (w : Network) : Network := w.modifyStream s Stream.closeNear

/-! ### Events -/

/-- A sender gets an answer. -/
def reply (id : Nat) (m : Message) (w : Network) : Network :=
  let senders := w.senders.map fun x =>
    if x.id = id then
      match x.state with
      | .waiting s _ => { x with state := .answered s m }
      | _ => x
    else x
  { w with senders }.wake (.sender id)

/-- A sender will get no answer and makes do with a local one. -/
def abandon (id : Nat) (w : Network) : Network :=
  match w.senders.find? (·.id = id) with
  | some ⟨_, _, .waiting _ attempt⟩ => w.reply id (w.site.node.answer attempt .unableToDeliver)
  | _ => w

/-- Whoever waited for the shutdown of a connection may go on. -/
def release (i id : Nat) (w : Network) : Network :=
  { w with stopped := w.stopped ++ [(id, w.phaseOf i)] }

/-- An acceptor is done. -/
def conclude (id : Nat) (result : Except Failure (Option String)) (w : Network) : Network :=
  { w with acceptors := w.acceptors.filter (·.id ≠ id), accepted := w.accepted ++ [(id, result)] }

/-- An event reaches a connection that handles nothing any more. -/
def discard (i : Nat) (p : Poster) (e : Event) (w : Network) : Network :=
  let w := match e with
    | .send waiter _ => w.abandon waiter
    | .stop waiter _ => w.release i waiter
    | .dialed s | .accepted s | .acceptedCer s _ => w.closeNear s
    | _ => w
  match p with
  | .acceptor id => w.conclude id (.error .closed)
  | _ => w

/-- The activity of somebody in the line of a connection. -/
def Waiter.activity (i : Nat) (x : Waiter) : Activity :=
  match x.poster with
  | .reader link => .reader i link
  | .acceptor id => .acceptor id
  | .alarm | .other => .waiter i x.number

/-- Those in line for whom there are places go on. -/
def callWaiters (i : Nat) (w : Network) : Network :=
  match w.members[i]? with
  | none => w
  | some m =>
    let (called, mailbox) := m.mailbox.call
    called.foldl (fun w x => w.wake (x.activity i)) (w.modifyMember i fun m => { m with mailbox })

/-- Somebody who was called enters the queue of a connection. -/
def enter (i : Nat) (x : Waiter) (w : Network) : Network :=
  (w.modifyMember i fun m => { m with mailbox := m.mailbox.enter x }).wake (.member i)

/-- Brings an event to a connection. -/
def post (i : Nat) (p : Poster) (e : Event) (w : Network) : Network :=
  match w.members[i]? with
  | none => w
  | some m =>
    if m.finished then w.discard i p e
    else
      (w.modifyMember i fun m => { m with mailbox := m.mailbox.offer p e }).wake (.member i)

/-! ### Effects -/

/-- Carries out what a connection does to the world. -/
def perform (i : Nat) (w : Network) (e : Effect) : Network :=
  match e with
  | .note n => { w with notes := w.notes ++ [n] }
  | .showPhase phase => w.modifyMember i fun m => { m with shownPhase := phase }
  | .showPeer peer => w.modifyMember i fun m => { m with shownPeer := some peer }
  | .complete c => w.reply c.waiter c.message
  | .abandon waiter => w.abandon waiter
  | .release waiter => w.release i waiter
  | .dial => match w.dialing with
    | .pending => w
    | .unreachable => w.post i .other (.dialFailed unreachableText)
  | .abandonDial => w
  | .listen link =>
    (w.modifyMember i fun m => { m with readers := m.readers ++ [{ link }] }).wake
      (.reader i link.id)
  | .hangUp link =>
    (w.modifyMember i fun m => { m with
      readers := m.readers.filter (·.link.id ≠ link.id)
      mailbox := m.mailbox.keep (·.poster ≠ .reader link.id) }).closeNear link.stream
  | .refuse stream => w.closeNear stream
  | .dispatch link request => { w with jobs := w.jobs ++ [(i, link, request)] }

/-- An alarm that is out of date does not wait for its event to be handled. -/
def staysInLine (c : Connection) (x : Waiter) : Bool := x.poster ≠ .alarm || c.heeds x.event

/-- Gives a connection an input and carries out what follows. -/
def turn (i : Nat) (m : Member) (input : Input) (w : Network) : Network :=
  let t := m.conn.step w.site w.now w.serial w.ids input
  let unwritten := match t.conn.writing with
    | some x => x.message.encode
    | none => []
  let w := { w with ids := t.ids, serial := w.serial + 1 }.modifyMember i fun m =>
    { m with conn := t.conn, unwritten, mailbox := m.mailbox.keep (staysInLine t.conn) }
  let w := (t.effects.foldl (perform i) w).callWaiters i
  if t.conn.alarms.first?.any (·.due ≤ w.now) then w.wake (.bell i) else w

end Network

end Diameter
