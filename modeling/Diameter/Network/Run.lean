import Diameter.Network

/-!
Letting everything go on that can.

`Network.work` does one piece of an activity's work, or says that the activity has to wait.
`Network.rest` lets the activities work in turn; once all wait, handlers look at requests one by
one, and then alarms ring that are due. `Network.settle` also lets far ends read, each time the
rest has come to rest. `Network.advance` moves the clock from one due time to the next, and far
ends read when it stands again.
-/

namespace Diameter.Network

/-! ### Connections -/

/-- An onlooker sees a connection that waits. -/
def observe (i : Nat) (w : Network) : Network :=
  w.modifyMember i fun m =>
    let phase := m.shownPhase
    let opening : List Sighting :=
      if m.sawOpening then []
      else if phase.isOpen then match m.shownPeer with
        | some p => [.opened p.host]
        | none => [.neverOpened]
      else if phase.isTerminal then [.neverOpened]
      else []
    let closing : List Sighting := if !m.sawClosing && phase.isTerminal then [.closed] else []
    { m with
      sawOpening := m.sawOpening || !opening.isEmpty
      sawClosing := m.sawClosing || !closing.isEmpty
      sightings := m.sightings ++ opening ++ closing }

/-- A connection that is shut down handles nothing any more. -/
def finish (i : Nat) (m : Member) (w : Network) : Network :=
  let w := w.modifyMember i fun m => { m with finished := true, mailbox := m.mailbox.clear }
  m.mailbox.leftovers.foldl (fun w (p, e) => w.discard i p e) w

/-- Goes on with the message that is being written. -/
def workWrite (i : Nat) (m : Member) (x : Writing) (w : Network) : Option Network :=
  match w.streams[x.link.stream]? with
  | none => some (w.turn i m (.written (some .closed)))
  | some s =>
    if !s.farOpen then some (w.turn i m (.written (some (.stream .brokenPipe))))
    else
      let (rest, after) := s.put m.unwritten
      let w := (w.modifyStream x.link.stream fun _ => after).modifyMember i fun m =>
        { m with unwritten := rest }
      if rest = [] then some (w.turn i m (.written none))
      else if x.deadline ≤ w.now then some (w.turn i m (.written (some .timeout)))
      else if s.outboundRoom = 0 then none
      else some w

/-- Handles one event of a connection. -/
def workMember (i : Nat) (w : Network) : Option Network :=
  match w.members[i]? with
  | none => none
  | some m =>
    if m.finished then none
    else match m.conn.writing with
      | some x => w.workWrite i m x
      | none =>
        if m.conn.phase.isTerminal then some (w.finish i m)
        else match m.conn.internal with
          | e :: rest =>
            some (w.turn i { m with conn := { m.conn with internal := rest } } (.event e))
          | [] => match m.mailbox.pop? with
            | none => none
            | some (e, mailbox) =>
              let w := (w.modifyMember i fun m => { m with mailbox }).callWaiters i
              some (w.turn i m (.event e))

/-! ### Readers -/

/-- The event that a delivery on an attached stream is. -/
def eventOf (link : Nat) : Frame.Delivery → Event
  | .message m => .received link m
  | .undecodable h e => .receivedInvalid link h e
  | .ended e => .disconnected link e

/-- Reads one frame, once the last one has entered the queue. -/
def workReader (i link : Nat) (w : Network) : Option Network := do
  let m ← w.members[i]?
  let r ← m.readers.find? (·.link.id = link)
  let s ← w.streams[r.link.stream]?
  if let some x := m.mailbox.calledPoster? (.reader link) then return w.enter i x
  if r.ended || m.mailbox.isHeldUp (.reader link) then none
  let (delivery, after) := s.deliver w.site.settings.maxMessageSize
  let taken := w.modifyStream r.link.stream fun _ => after
  match delivery with
  | some d =>
    let read (r : Reader) : Reader :=
      if r.link.id = link then { r with ended := r.ended || d.isLast } else r
    let taken := taken.modifyMember i fun m => { m with readers := m.readers.map read }
    some (taken.post i (.reader link) (eventOf link d))
  | none => if s.inbound ≠ [] then some taken else none

/-! ### Senders -/

/-- Brings an attempt into the queue; a full queue and a connection that is shut down answer
at once. -/
def trySend (x : Sender) (s : Sending) (w : Network) : Network :=
  let (attempt, ids) := s.attempt w.ids
  let update (state : SenderState) (w : Network) : Network :=
    { w with senders := w.senders.map fun y => if y.id = x.id then { y with state } else y }
  let w := update (.waiting s attempt) { w with ids }
  match w.members[x.member]? with
  | none => w.reply x.id (w.site.node.answer attempt .unableToDeliver)
  | some m =>
    if m.finished then w.reply x.id (w.site.node.answer attempt .unableToDeliver)
    else if m.mailbox.hasRoom then w.post x.member .other (.send x.id attempt)
    else w.reply x.id (w.site.node.answer attempt .tooBusy)

def workSender (id : Nat) (w : Network) : Option Network := do
  let x ← w.senders.find? (·.id = id)
  let done (answer : Message) (w : Network) : Network :=
    { w with senders := w.senders.filter (·.id ≠ id), answers := w.answers ++ [(id, answer)] }
  match x.state with
  | .waiting _ _ => none
  | .fresh request =>
    match Sending.start w.site.node w.site.settings.retries.toNat w.ids request with
    | .error answer => some (done answer w)
    | .ok (s, ids) => some ({ w with ids := ids }.trySend x s)
  | .answered s answer => match s.next? answer with
    | none => some (done answer w)
    | some s => some (w.trySend x s)

/-! ### Acceptors -/

/-- A new connection that begins with an event. -/
def spawn (expected : Option String) (first : Event) (w : Network) : Nat × Network :=
  let i := w.members.size
  let conn : Connection := { expectedHost := expected, internal := [first] }
  let member : Member := { conn, mailbox := { capacity := w.site.settings.queueCapacity } }
  (i, { w with members := w.members.push member }.wake (.member i))

/-- Turns a stream away, after an answer if there is one. -/
def turnAway (a : Acceptor) (e : Failure) (answer : Option Message) (w : Network) : Network :=
  let w := match answer.bind (·.octets?.toOption) with
    | some b => w.modifyStream a.stream fun s => if s.farOpen then (s.put b).2 else s
    | none => w
  (w.closeNear a.stream).conclude a.id (.error e)

/-- Whom a stream was handed over to, if anyone is known there by now. -/
def concludeAt (i id : Nat) (w : Network) : Network :=
  w.conclude id (.ok ((w.peerOf i).map (·.host)))

/-- Hands an accepted stream to the connection it belongs to. -/
def letIn (a : Acceptor) (h : Header) (body : Octets) (w : Network) : Network :=
  match PeerTable.screen w.site.node h body with
  | .refused e answer => w.turnAway a e answer
  | .unnamed cer =>
    let (_, w) := w.spawn none (.acceptedCer a.stream cer)
    w.conclude a.id (.ok none)
  | .named host cer =>
    let w := { w with table := w.table.prune w.isLive }
    match w.table.get? host with
    | none =>
      let (i, w) := w.spawn (some host) (.acceptedCer a.stream cer)
      { w with table := w.table.insert host i }.conclude a.id (.ok none)
    | some i =>
      let handing (b : Acceptor) : Acceptor :=
        if b.id = a.id then { b with handingTo := some i } else b
      let w := { w with acceptors := w.acceptors.map handing }
      let queued := match w.members[i]? with
        | some m => !m.finished && m.mailbox.hasRoom
        | none => false
      let w := w.post i (.acceptor a.id) (.acceptedCer a.stream cer)
      if queued then w.concludeAt i a.id else w

/-- Reads the first frame of an accepted stream, as long as there is time. -/
def workAcceptor (id : Nat) (w : Network) : Option Network := do
  let a ← w.acceptors.find? (·.id = id)
  let s ← w.streams[a.stream]?
  if let some i := a.handingTo then
    let x ← (w.members[i]?).bind fun m => m.mailbox.calledPoster? (.acceptor id)
    return (w.enter i x).concludeAt i id
  let (next, after) := s.read w.site.settings.maxMessageSize
  let taken := w.modifyStream a.stream fun _ => after
  match next with
  | .frame h body _ => some (taken.letIn a h body)
  | .broken e _ => some (taken.turnAway a e none)
  | .unfinished =>
    if !s.farOpen then some (taken.turnAway a (.stream .earlyEof) none)
    else if a.deadline ≤ w.now then some (taken.turnAway a .timeout none)
    else if s.inbound ≠ [] then some taken
    else none

/-! ### Alarms and the line -/

/-- Somebody in line enters the queue. -/
def workWaiter (i number : Nat) (w : Network) : Option Network := do
  let m ← w.members[i]?
  let x ← m.mailbox.calledNumber? number
  return w.enter i x

/-- The alarms of a connection that are due, and the connection without them. -/
def ringMember (now : Nat) (m : Member) : List (Alarm AlarmSlot Event) × Member :=
  let (rung, alarms) := m.conn.alarms.ringAll now
  (rung, { m with conn := { m.conn with alarms } })

/-- Alarms that are due at once ring. -/
def workBell (i : Nat) (w : Network) : Option Network := do
  let m ← w.members[i]?
  let (rung, m) := ringMember w.now m
  if rung.isEmpty then none
  return rung.foldl (fun w a => w.post i .alarm a.event) (w.modifyMember i fun _ => m)

/-! ### Everything -/

/-- One piece of an activity's work, if there is any to do now. -/
def work (a : Activity) (w : Network) : Option Network :=
  match a with
  | .member i => w.workMember i
  | .reader i link => w.workReader i link
  | .sender id => w.workSender id
  | .acceptor id => w.workAcceptor id
  | .waiter i number => w.workWaiter i number
  | .bell i => w.workBell i

/-- An activity has to wait. -/
def suspend (a : Activity) (w : Network) : Network :=
  match a with
  | .member i => w.observe i
  | _ => w

/-- A handler looks at the oldest request. -/
def handleJob (i link : Nat) (request : Message) (w : Network) : Network :=
  w.post i .other (.handled link (w.registry.dispatch w.site.node request))

/-- When something is due on a connection. -/
def Member.dueTimes (m : Member) : List Nat :=
  (m.conn.alarms.first?.map (·.due)).toList ++ (m.conn.writing.map (·.deadline)).toList

def dueTimes (w : Network) : List Nat :=
  w.members.toList.flatMap Member.dueTimes ++
    (w.acceptors.filter (·.handingTo.isNone)).map (·.deadline)

/-- The next time at which something is due. -/
def nextDue? (w : Network) : Option Nat := w.dueTimes.min?

/-- Rings every alarm that is due, and wakes what has a deadline. -/
def ring (w : Network) : Network :=
  let results := w.members.map (ringMember w.now)
  let inOrder (a b : Nat × Alarm AlarmSlot Event) : Bool := !b.2.before a.2
  let rung := (results.mapIdx fun i x => x.1.map (i, ·)).toList.flatten.mergeSort inOrder
  let w := { w with members := results.map Prod.snd }
  let w := rung.foldl (fun w (i, a) => w.post i .alarm a.event) w
  let isLate (i : Nat) : Bool :=
    (w.members[i]?.bind fun m => m.conn.writing).any fun x => x.deadline ≤ w.now
  let late := (List.range w.members.size).filter isLate
  let w := late.foldl (fun w i => w.wake (.member i)) w
  let overdue := w.acceptors.filter fun a => a.deadline ≤ w.now
  overdue.foldl (fun w a => w.wake (.acceptor a.id)) w

/-- What goes on once no activity can: a handler looks at a request, and then alarms ring. -/
def stir? (w : Network) : Option Network :=
  match w.jobs with
  | (i, link, request) :: jobs => some ({ w with jobs }.handleJob i link request)
  | [] => match w.nextDue? with
    | some due => if due ≤ w.now then some w.ring else none
    | none => none

/-- Lets things go on, for at most `fuel` pieces of work. -/
def run : Nat → Network → Network
  | 0, w => w
  | fuel + 1, w =>
    match w.ready with
    | a :: rest => match w.work a with
      | some w => run fuel w
      | none => run fuel (suspend a { w with ready := rest })
    | [] => match w.stir? with
      | some w => run fuel w
      | none => w

/-- Pieces of work after which a world that never comes to rest is left alone. -/
def patience : Nat := 2000000

/-- Lets everything go on that can go on while far ends do nothing. -/
def rest (w : Network) : Network := w.run patience

/-! ### Far ends -/

/-- Whoever writes to a stream looks again. -/
def wakeWriter (s : Nat) (w : Network) : Network :=
  let writes (i : Nat) : Bool :=
    (w.members[i]?.bind fun m => m.conn.writing).any fun x => x.link.stream = s
  ((List.range w.members.size).filter writes).foldl (fun w i => w.wake (.member i)) w

/-- Something waits for a far end that reads. -/
def isOwed (w : Network) : Bool := w.streams.any Stream.isOwed

/-- Far ends that read take what waits for them. -/
def drain (w : Network) : Network :=
  let owed := (List.range w.streams.size).filter fun s => w.streams[s]?.any Stream.isOwed
  owed.foldl (fun w s => (w.modifyStream s Stream.drain).wakeWriter s) w

/-- Lets everything come to rest, far ends too, which read for at most `fuel` times. -/
def settleFrom : Nat → Network → Network
  | 0, w => w.rest
  | fuel + 1, w =>
    let w := w.rest
    if w.isOwed then settleFrom fuel w.drain else w

/-- Lets everything go on that can go on now. -/
def settle (w : Network) : Network := w.settleFrom patience

/-! ### The clock -/

/-- Moves the clock to a time, by way of at most `fuel` due times before it. -/
def advanceTo (target : Nat) : Nat → Network → Network
  | 0, w => { w with now := target }.settle
  | fuel + 1, w => match w.nextDue? with
    | none => { w with now := target }.settle
    | some due =>
      if due > target then { w with now := target }.settle
      else advanceTo target fuel ({ w with now := max w.now due }.ring.rest)

/-- Lets time go by. -/
def advance (ms : Nat) (w : Network) : Network := w.advanceTo (w.now + ms) patience

end Diameter.Network
