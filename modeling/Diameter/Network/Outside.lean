import Diameter.Network.Run

/-!
What users of the node and far ends of its streams do, and what they then see.

Every operation lets the world come to rest before it returns. `Network.look` collects the
news since the last look.
-/

namespace Diameter.Network

def create (site : Site) (registry : Registry) (ids : Identifiers) (dialing : Dialing) : Network :=
  { site, registry, ids, dialing }

/-- The next free number. -/
def ticket (w : Network) : Nat × Network := (w.tickets + 1, { w with tickets := w.tickets + 1 })

/-! ### Streams -/

/-- How a far end treats its stream. -/
structure FarEnd where
  capacity : Nat := Stream.defaultCapacity
  reads : Bool := true
  deriving Repr

/-- A fresh stream. -/
def openStream (name : String) (far : FarEnd) (w : Network) : Nat × Network :=
  let s : Stream := { name, capacity := far.capacity, farReads := far.reads }
  (w.streams.size, { w with streams := w.streams.push s })

/-- The stream that a far end holds under a name. -/
def streamNamed? (name : String) (w : Network) : Option (Nat × Stream) :=
  ((List.range w.streams.size).filterMap fun i => w.streams[i]?.map (i, ·)).find?
    fun (_, s) => s.held && s.name = name

/-- Readers and acceptors of a stream look again. -/
def wakeReaders (s : Nat) (w : Network) : Network :=
  let readers := (List.range w.members.size).flatMap fun i =>
    match w.members[i]? with
    | some m => (m.readers.filter (·.link.stream = s)).map fun r => Activity.reader i r.link.id
    | none => []
  let acceptors := (w.acceptors.filter (·.stream = s)).map fun a => Activity.acceptor a.id
  (readers ++ acceptors).foldl (fun w a => w.wake a) w

/-- What hinders a far end from writing. -/
inductive WriteError where
  /-- There is no such stream any more. -/
  | closed
  /-- The connection has closed the stream. -/
  | brokenPipe
  /-- The pipe is full, and nothing more is read from it. -/
  | blocked
  deriving DecidableEq, Repr

/-- A far end writes octets to a stream, a pipe full at a time. -/
def farWriteTo (i : Nat) (b : Octets) (w : Network) : Option WriteError × Network :=
  match b with
  | [] => (none, w)
  | c :: b => match w.streams[i]? with
    | none => (some .closed, w)
    | some s =>
      if !s.nearOpen then (some .brokenPipe, w)
      else if s.inboundRoom = 0 then (some .blocked, w)
      else
        let n := s.inboundRoom - 1
        let w := w.modifyStream i fun s => { s with inbound := s.inbound ++ c :: b.take n }
        have : (b.drop n).length < (c :: b).length := by
          rw [List.length_drop, List.length_cons]; omega
        farWriteTo i (b.drop n) (w.wakeReaders i).settle
termination_by b.length

/-- A far end writes. -/
def farWrite (name : String) (b : Octets) (w : Network) : Option WriteError × Network :=
  match w.streamNamed? name with
  | none => (some .closed, w)
  | some (i, _) => w.farWriteTo i b

/-- A far end reads from now on. -/
def farRead (name : String) (w : Network) : Network :=
  match w.streamNamed? name with
  | none => w
  | some (i, _) => (w.modifyStream i fun s => { s with farReads := true }).settle

/-- A far end goes away. -/
def farClose (name : String) (w : Network) : Network :=
  match w.streamNamed? name with
  | none => w
  | some (i, _) => (((w.modifyStream i Stream.closeFar).wakeReaders i).wakeWriter i).settle

/-! ### One connection -/

/-- Begins to dial a peer. -/
def connect (expected : Option String) (w : Network) : Network :=
  (w.spawn expected .start).2.settle

/-- Takes over a stream of a peer whose CER is already read. -/
def accept (name : String) (far : FarEnd) (cer : Message) (w : Network) : Network :=
  let (s, w) := w.openStream name far
  (w.spawn cer.originHost? (.acceptedCer s cer)).2.settle

/-- Takes over a stream of a peer. -/
def acceptStream (name : String) (far : FarEnd) (w : Network) : Network :=
  let (s, w) := w.openStream name far
  (w.spawn none (.accepted s)).2.settle

def isDialing (i : Nat) (w : Network) : Bool := w.members[i]?.any (·.conn.dialing)

/-- The dial succeeds; a stream that nobody waits for is closed. -/
def dialSucceeds (i : Nat) (name : String) (far : FarEnd) (w : Network) : Network :=
  let (s, w) := w.openStream name far
  (if w.isDialing i then w.post i .other (.dialed s) else w.closeNear s).settle

def dialFails (i : Nat) (text : String) (w : Network) : Network :=
  (if w.isDialing i then w.post i .other (.dialFailed text) else w).settle

/-- Hands a further stream of the peer over. -/
def incoming (i : Nat) (name : String) (far : FarEnd) (cer : Message) (w : Network) :
    Except Failure Unit × Network :=
  let (s, w) := w.openStream name far
  let result := if w.members[i]?.all (·.finished) then .error .closed else .ok ()
  (result, (w.post i .other (.acceptedCer s cer)).settle)

/-- A request gets a sender of its own. -/
def addSender (i : Nat) (w : Network) (request : Message) : Network :=
  let (id, w) := w.ticket
  let x : Sender := ⟨id, i, .fresh request⟩
  { w with senders := w.senders ++ [x] }.wake (.sender id)

/-- Sends requests; all of them try to queue before the connection goes on. -/
def send (i : Nat) (requests : List Message) (w : Network) : Network :=
  (requests.foldl (addSender i) w).settle

/-- Wants a connection shut down and waits for it. -/
def stop (i : Nat) (cause : DisconnectCause) (w : Network) : Network :=
  let (id, w) := w.ticket
  (w.post i .other (.stop id cause)).settle

/-! ### The table -/

/-- A peer dials; its first octets are on the stream already, and it may be gone. -/
def tableAccept (b : Octets) (gone : Bool) (w : Network) : Network :=
  let (id, w) := w.ticket
  let (s, w) := w.openStream s!"c{id}" {}
  let w := w.modifyStream s fun s => { s with inbound := b }
  let w := if gone then w.modifyStream s Stream.closeFar else w
  let a : Acceptor := ⟨id, s, w.now + w.site.settings.sendTimeout, none⟩
  ({ w with acceptors := w.acceptors ++ [a] }.wake (.acceptor id)).settle

/-- The connection to a host, dialed unless a live one is there; as it is on return. -/
def tableConnect (host : String) (w : Network) : Phase × Option PeerIdentity × Network :=
  let (_, w) := w.ticket
  let w := { w with table := w.table.prune w.isLive }
  match w.table.get? host with
  | some i => (w.phaseOf i, w.peerOf i, w)
  | none =>
    let (i, w) := w.spawn (some host) .start
    let w := { w with table := w.table.insert host i }
    (w.phaseOf i, w.peerOf i, w.settle)

/-- Phase and peer of the connection under a host. -/
def tableGet? (host : String) (w : Network) : Option (Phase × Option PeerIdentity) :=
  (w.table.get? host).map fun i => (w.phaseOf i, w.peerOf i)

def tableRemove (host : String) (w : Network) : Network :=
  { w with table := w.table.erase host }

/-- Hosts of open connections. -/
def tableHosts (w : Network) : List String × Network :=
  let w := { w with table := w.table.prune w.isLive }
  (w.table.hosts fun i => (w.phaseOf i).isOpen, w)

/-! ### Looking -/

/-- What has happened since the last look. -/
structure News where
  notes : List Note
  /-- Senders that are done, by number. -/
  answers : List (Nat × Message)
  /-- Who no longer waits for a shutdown, with the phase found. -/
  stopped : List (Nat × Phase)
  accepted : List (Nat × Except Failure (Option String))
  /-- Octets that far ends have read. -/
  delivered : List (String × Octets)
  /-- Streams that the connection has closed. -/
  ended : List String
  sightings : List Sighting

def look (w : Network) : News × Network :=
  let streams := w.streams.toList
  let byNumber {α : Type} (l : List (Nat × α)) : List (Nat × α) :=
    l.mergeSort fun a b => a.1 ≤ b.1
  let news : News :=
    { notes := w.notes
      answers := byNumber w.answers
      stopped := byNumber w.stopped
      accepted := byNumber w.accepted
      delivered := (streams.filter fun s => s.held && s.delivered ≠ []).map
        fun s => (s.name, s.readings)
      ended := ((streams.filter Stream.showsEnd).map (·.name)).mergeSort fun a b => a ≤ b
      sightings := w.members.toList.flatMap (·.sightings) }
  let after (s : Stream) : Stream :=
    { s with delivered := [], held := s.held && !s.showsEnd }
  (news,
    { w with
      notes := [], answers := [], stopped := [], accepted := []
      streams := w.streams.map after
      members := w.members.map fun m => { m with sightings := [] } })

end Diameter.Network
