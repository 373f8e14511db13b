import Diameter.Network.Outside
import Diameter.Proofs.Stage.Step

/-!
The pieces of work in a network.

Whatever an activity does at a time is one of a few things (`Network.Piece`), whichever activity it
is. All that goes on is pieces of work, waiting, handlers and alarms, so what all of these keep is
kept however long things go on (`Network.Lasting`). Main statements: `Network.piece_of_work`,
`Network.Lasting.settle`, `Network.Lasting.advance`.
-/

namespace Diameter

namespace Network

/-- Puts what there is room for of the message that a connection writes. -/
def putOn (i : Nat) (m : Member) (x : Writing) (s : Stream) (w : Network) : Network :=
  (w.modifyStream x.link.stream fun _ => (s.put m.unwritten).2).modifyMember i fun n =>
    { n with unwritten := (s.put m.unwritten).1 }

/-- A sender has an answer that it is done with. -/
inductive Ends (w : Network) (x : Sender) : Message → Prop
  /-- The request may not be sent. -/
  | refused {m r : Message} (hs : x.state = .fresh m)
    (h : Sending.start w.site.node w.site.settings.retries.toNat w.ids m = .error r) : Ends w x r
  | last {s : Sending} {r : Message} (hs : x.state = .answered s r) (h : s.next? r = none) :
    Ends w x r

/-- A sender is about to make an attempt, and what identifiers there are then. -/
inductive Tries (w : Network) (x : Sender) : Sending → Identifiers → Prop
  | first {m : Message} {s : Sending} {ids : Identifiers} (hs : x.state = .fresh m)
    (h : Sending.start w.site.node w.site.settings.retries.toNat w.ids m = .ok (s, ids)) :
    Tries w x s ids
  | again {s s' : Sending} {r : Message} (hs : x.state = .answered s r)
    (h : s.next? r = some s') : Tries w x s' w.ids

/-- A sender has made an attempt, and waits. -/
def attempting (x : Sender) (s : Sending) (ids : Identifiers) (w : Network) : Network :=
  { w with
    ids := (s.attempt ids).2
    senders := w.senders.map fun y =>
      if y.id = x.id then { y with state := .waiting s (s.attempt ids).1 } else y }

/-- What a piece of work may be. -/
inductive Piece (w : Network) : Network → Prop
  /-- A connection is shut down, and nothing is handled any more. -/
  | finish {i : Nat} {m : Member} (hm : w.members[i]? = some m) (hp : m.conn.phase = .shutdown) :
    Piece w (w.finish i m)
  /-- A connection takes an event of its own. -/
  | own {i : Nat} {m : Member} {e : Event} {rest : List Event} (hm : w.members[i]? = some m)
    (hf : m.finished = false) (ha : m.conn.Accepts (.event e)) (hi : m.conn.internal = e :: rest) :
    Piece w (w.turn i { m with conn := { m.conn with internal := rest } } (.event e))
  /-- It takes an event that has waited. -/
  | queued {i : Nat} {m : Member} {e : Event} {mailbox : Mailbox} (hm : w.members[i]? = some m)
    (hf : m.finished = false) (ha : m.conn.Accepts (.event e)) (hi : m.conn.internal = [])
    (hq : m.mailbox.pop? = some (e, mailbox)) :
    Piece w (((w.modifyMember i fun n => { n with mailbox }).callWaiters i).turn i m (.event e))
  /-- It cannot write. -/
  | failed {i : Nat} {m : Member} {x : Writing} (e : Failure) (hm : w.members[i]? = some m)
    (hf : m.finished = false) (hx : m.conn.writing = some x) :
    Piece w (w.turn i m (.written (some e)))
  /-- It has written some octets. -/
  | put {i : Nat} {m : Member} {x : Writing} {s : Stream} (hm : w.members[i]? = some m)
    (hx : m.conn.writing = some x) (hs : w.streams[x.link.stream]? = some s) :
    Piece w (w.putOn i m x s)
  /-- It has written the last of them. -/
  | written {i : Nat} {m : Member} {x : Writing} {s : Stream} (hm : w.members[i]? = some m)
    (hf : m.finished = false) (hx : m.conn.writing = some x)
    (hs : w.streams[x.link.stream]? = some s) (hr : (s.put m.unwritten).1 = []) :
    Piece w ((w.putOn i m x s).turn i m (.written none))
  /-- There is no more time to write the rest. -/
  | late {i : Nat} {m : Member} {x : Writing} {s : Stream} (hm : w.members[i]? = some m)
    (hf : m.finished = false) (hx : m.conn.writing = some x)
    (hs : w.streams[x.link.stream]? = some s) :
    Piece w ((w.putOn i m x s).turn i m (.written (some .timeout)))
  /-- Somebody who was called enters the queue of a connection. -/
  | enter {i : Nat} {m : Member} {x : Waiter} (hm : w.members[i]? = some m)
    (hx : x ∈ m.mailbox.called) : Piece w (w.enter i x)
  /-- An acceptor does, and is done. -/
  | concludes {i id : Nat} {m : Member} {x : Waiter} (hm : w.members[i]? = some m)
    (hx : x ∈ m.mailbox.called) : Piece w ((w.enter i x).concludeAt i id)
  /-- A stream is read from. -/
  | take {s : Nat} {st st' : Stream} (hs : w.streams[s]? = some st)
    (ho : st'.outbound = st.outbound) : Piece w (w.modifyStream s fun _ => st')
  /-- A reader brings what it has read. -/
  | deliver {i link s : Nat} {st st' : Stream} {read : Reader → Reader} {d : Frame.Delivery}
    (hs : w.streams[s]? = some st) (ho : st'.outbound = st.outbound) :
    Piece w (((w.modifyStream s fun _ => st').modifyMember i fun n =>
      { n with readers := n.readers.map read }).post i (.reader link) (eventOf link d))
  /-- An acceptor lets its stream in. -/
  | letIn {a : Acceptor} {st st' : Stream} {h : Header} {body : Octets} (ha : a ∈ w.acceptors)
    (hh : a.handingTo = none) (hs : w.streams[a.stream]? = some st)
    (ho : st'.outbound = st.outbound) :
    Piece w ((w.modifyStream a.stream fun _ => st').letIn a h body)
  /-- It turns its stream away. -/
  | turnAway {a : Acceptor} {st st' : Stream} {e : Failure} (ha : a ∈ w.acceptors)
    (hh : a.handingTo = none) (hs : w.streams[a.stream]? = some st)
    (ho : st'.outbound = st.outbound) :
    Piece w ((w.modifyStream a.stream fun _ => st').turnAway a e none)
  /-- A sender is done. -/
  | answered {x : Sender} {r : Message} (hx : x ∈ w.senders) (h : w.Ends x r) :
    Piece w { w with
      senders := w.senders.filter (·.id ≠ x.id), answers := w.answers ++ [(x.id, r)] }
  /-- It makes an attempt, and has an answer at once. -/
  | refused {x : Sender} {s : Sending} {ids : Identifiers} (r : ResultCode) (hx : x ∈ w.senders)
    (h : w.Tries x s ids) :
    Piece w ((w.attempting x s ids).reply x.id (w.site.node.answer (s.attempt ids).1 r))
  /-- It makes an attempt. -/
  | attempt {x : Sender} {s : Sending} {ids : Identifiers} (hx : x ∈ w.senders)
    (h : w.Tries x s ids) :
    Piece w ((w.attempting x s ids).post x.member .other (.send x.id (s.attempt ids).1))
  /-- Alarms ring. -/
  | rings {i : Nat} {m : Member} (hm : w.members[i]? = some m) :
    Piece w ((ringMember w.now m).1.foldl (fun w a => w.post i .alarm a.event)
      (w.modifyMember i fun _ => (ringMember w.now m).2))

variable {w w' : Network} {i : Nat} {m : Member}

/-! ### Every piece is one of them -/

lemma piece_of_workWrite {x : Writing} (hm : w.members[i]? = some m) (hf : m.finished = false)
    (hx : m.conn.writing = some x) (h : w.workWrite i m x = some w') : w.Piece w' := by
  unfold workWrite at h
  split at h
  · -- there is no such stream
    obtain rfl := Option.some.inj h
    exact .failed .closed hm hf hx
  · rename_i s hs
    split at h
    · -- its far end has closed
      obtain rfl := Option.some.inj h
      exact .failed (.stream .brokenPipe) hm hf hx
    · dsimp only at h
      split at h
      · -- all has been written
        rename_i hr
        obtain rfl := Option.some.inj h
        exact .written hm hf hx hs hr
      · split at h
        · -- the time is up
          obtain rfl := Option.some.inj h
          exact .late hm hf hx hs
        · split at h
          · -- there is no room; otherwise as much is put as there is
            cases h
          · obtain rfl := Option.some.inj h
            exact .put hm hx hs

lemma piece_of_workMember (h : w.workMember i = some w') : w.Piece w' := by
  unfold workMember at h
  split at h
  · cases h
  · rename_i m hm
    split at h
    · cases h
    · rename_i hf
      have hf : m.finished = false := Bool.eq_false_iff.mpr hf
      split at h
      · -- a write under way goes before everything else
        rename_i x hx
        exact piece_of_workWrite hm hf hx h
      · rename_i hx
        split at h
        · rename_i hp
          obtain rfl := Option.some.inj h
          exact .finish hm (of_decide_eq_true hp)
        · rename_i hp
          have ha : ∀ e, m.conn.Accepts (.event e) := fun e =>
            ⟨fun hs => hp (by rw [hs]; rfl), hx⟩
          split at h
          · -- the connection's own events come before those of the queue
            rename_i e rest hi
            obtain rfl := Option.some.inj h
            exact .own hm hf (ha e) hi
          · rename_i hi
            split at h
            · cases h
            · rename_i e mailbox hq
              obtain rfl := Option.some.inj h
              exact .queued hm hf (ha e) hi hq

lemma outbound_read (max : Nat) (s : Stream) : (s.read max).2.outbound = s.outbound := by
  unfold Stream.read
  dsimp only
  split <;> rfl

lemma outbound_deliver (max : Nat) (s : Stream) : (s.deliver max).2.outbound = s.outbound := by
  have := outbound_read max s
  unfold Stream.deliver
  split <;> simp_all

lemma piece_of_workReader {link : Nat} (h : w.workReader i link = some w') : w.Piece w' := by
  simp only [workReader, Option.bind_eq_bind, Option.bind_eq_some_iff] at h
  obtain ⟨m, hm, r, -, s, hs, h⟩ := h
  have ho := outbound_deliver w.site.settings.maxMessageSize s
  split at h
  · rename_i x hx
    obtain rfl := Option.some.inj h
    exact .enter hm (List.mem_of_find?_eq_some hx)
  · split at h
    · cases h
    · split at h
      · obtain rfl := Option.some.inj h
        exact .deliver hs ho
      · split at h
        · obtain rfl := Option.some.inj h
          exact .take hs ho
        · cases h

lemma piece_of_trySend {x : Sender} {s : Sending} {ids : Identifiers} (hx : x ∈ w.senders)
    (h : w.Tries x s ids) : w.Piece (({ w with ids } : Network).trySend x s) := by
  unfold trySend
  dsimp only
  split
  · exact .refused _ hx h
  · split
    · exact .refused _ hx h
    · split
      · exact .attempt hx h
      · exact .refused _ hx h

lemma piece_of_workSender {id : Nat} (h : w.workSender id = some w') : w.Piece w' := by
  simp only [workSender, Option.bind_eq_bind, Option.bind_eq_some_iff] at h
  obtain ⟨x, hf, h⟩ := h
  have hx := List.mem_of_find?_eq_some hf
  obtain rfl : x.id = id := by simpa using List.find?_some hf
  split at h
  · cases h
  · rename_i request hs
    split at h
    · obtain rfl := Option.some.inj h
      exact .answered hx (.refused hs ‹_›)
    · obtain rfl := Option.some.inj h
      exact piece_of_trySend hx (.first hs ‹_›)
  · rename_i s answer hs
    split at h
    · obtain rfl := Option.some.inj h
      exact .answered hx (.last hs ‹_›)
    · obtain rfl := Option.some.inj h
      exact piece_of_trySend hx (.again hs ‹_›)

lemma piece_of_workAcceptor {id : Nat} (h : w.workAcceptor id = some w') : w.Piece w' := by
  simp only [workAcceptor, Option.bind_eq_bind, Option.bind_eq_some_iff] at h
  obtain ⟨a, ha, s, hs, h⟩ := h
  have ha : a ∈ w.acceptors := List.mem_of_find?_eq_some ha
  have ho := outbound_read w.site.settings.maxMessageSize s
  split at h
  · -- the stream was handed over, and the event has its place in the queue by now
    simp only [Option.bind_eq_some_iff] at h
    obtain ⟨x, ⟨m, hm, hx⟩, h⟩ := h
    obtain rfl := Option.some.inj h
    exact .concludes hm (List.mem_of_find?_eq_some hx)
  · rename_i hh
    have hh : a.handingTo = none := Option.eq_none_iff_forall_ne_some.mpr fun i hi => hh i hi
    split at h
    · -- a frame
      obtain rfl := Option.some.inj h
      exact .letIn ha hh hs ho
    · -- no legal frame
      obtain rfl := Option.some.inj h
      exact .turnAway ha hh hs ho
    · split at h
      · -- the far end has closed within one
        obtain rfl := Option.some.inj h
        exact .turnAway ha hh hs ho
      · split at h
        · -- the time is up
          obtain rfl := Option.some.inj h
          exact .turnAway ha hh hs ho
        · split at h
          · -- some octets came
            obtain rfl := Option.some.inj h
            exact .take hs ho
          · cases h

lemma piece_of_workWaiter {number : Nat} (h : w.workWaiter i number = some w') :
    w.Piece w' := by
  simp only [workWaiter, Option.bind_eq_bind, Option.bind_eq_some_iff] at h
  obtain ⟨m, hm, x, hx, h⟩ := h
  obtain rfl := Option.some.inj h
  exact .enter hm (List.mem_of_find?_eq_some hx)

lemma piece_of_workBell (h : w.workBell i = some w') : w.Piece w' := by
  simp only [workBell, Option.bind_eq_bind, Option.bind_eq_some_iff] at h
  obtain ⟨m, hm, h⟩ := h
  split at h
  · cases h
  · obtain rfl := Option.some.inj h
    exact .rings hm

/-- Whatever an activity does is a piece of work. -/
theorem piece_of_work {a : Activity} (h : w.work a = some w') : w.Piece w' := by
  cases a with
  | member i => exact piece_of_workMember h
  | reader i link => exact piece_of_workReader h
  | sender id => exact piece_of_workSender h
  | acceptor id => exact piece_of_workAcceptor h
  | waiter i number => exact piece_of_workWaiter h
  | bell i => exact piece_of_workBell h

/-! ### However long things go on -/

/-- What lasts while things go on and far ends read. -/
structure Lasting (P : Network → Prop) : Prop where
  piece : ∀ {w w'}, P w → w.Piece w' → P w'
  /-- An activity has nothing to do and waits. -/
  wait : ∀ {w} a rest, w.ready = a :: rest → w.work a = none → P w →
    P (suspend a { w with ready := rest })
  /-- A handler looks at a request. -/
  handle : ∀ {w} i link request jobs, P w →
    P (({ w with jobs } : Network).handleJob i link request)
  ring : ∀ {w}, P w → P w.ring
  /-- A far end reads. -/
  drain : ∀ {w} s, P w → P ((w.modifyStream s Stream.drain).wakeWriter s)
  later : ∀ {w} now, P w → P { w with now }

namespace Lasting

variable {P : Network → Prop} (h : Lasting P)

include h

lemma run (fuel : Nat) (hw : P w) : P (w.run fuel) := by
  induction fuel generalizing w with
  | zero => exact hw
  | succ fuel ih =>
    unfold Network.run
    split
    · -- an activity that is ready works or waits
      rename_i a rest hr
      split
      · rename_i hv
        exact ih (h.piece hw (piece_of_work hv))
      · rename_i hv
        exact ih (h.wait a rest hr hv hw)
    · -- none is ready: a handler, then the alarms, then nothing
      split
      · rename_i hv
        refine ih ?_
        unfold stir? at hv
        split at hv
        · obtain rfl := Option.some.inj hv
          exact h.handle _ _ _ _ hw
        · split at hv
          · split at hv
            · obtain rfl := Option.some.inj hv
              exact h.ring hw
            · cases hv
          · cases hv
      · exact hw

lemma drainAll (hw : P w) : P w.drain := by
  unfold Network.drain
  dsimp only
  generalize (List.range w.streams.size).filter _ = ss
  induction ss generalizing w with
  | nil => exact hw
  | cons s ss ih => exact ih (h.drain s hw)

lemma settleFrom (fuel : Nat) (hw : P w) : P (w.settleFrom fuel) := by
  induction fuel generalizing w with
  | zero => exact h.run _ hw
  | succ fuel ih =>
    unfold Network.settleFrom
    dsimp only
    split
    · exact ih (h.drainAll (h.run _ hw))
    · exact h.run _ hw

/-- What lasts holds once everything has come to rest. -/
theorem settle (hw : P w) : P w.settle := h.settleFrom _ hw

lemma advanceTo (target fuel : Nat) (hw : P w) : P (w.advanceTo target fuel) := by
  induction fuel generalizing w with
  | zero => exact h.settle (h.later target hw)
  | succ fuel ih =>
    unfold Network.advanceTo
    split
    · exact h.settle (h.later target hw)
    · split
      · exact h.settle (h.later target hw)
      · exact ih (h.run _ (h.ring (h.later _ hw)))

/-- It holds after any time. -/
theorem advance (ms : Nat) (hw : P w) : P (w.advance ms) := h.advanceTo _ _ hw

end Lasting

end Network

end Diameter
