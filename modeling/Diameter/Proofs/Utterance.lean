import Diameter.Proofs.Run
import Diameter.Proofs.EventHandling

/-!
What a connection begins to write, and on what occasion.

`Turn.Utters` lists every write that handling an event may begin, with its message and its goal; the
end of a write begins none. So the write under way in a run was begun by the turn right before
(`Connection.Run.uttered`).
-/

namespace Diameter

namespace Turn

/-- Handling the event may begin to write the message, for the goal. -/
inductive Utters (site : Site) (t : Turn) : Event → Message → Goal → Prop
  /-- This end introduces itself on the stream that it dialed. -/
  | introduces (stream : Nat) (electing : Bool) :
    Utters site t (.dialed stream) (site.node.cer t.ids).1 (.introduce electing)
  /-- The first stream is handed over with its CER, and that is in order. -/
  | welcomes (hp : t.conn.phase = .closed) (stream : Nat) (cer : Message) (peer : PeerIdentity) :
    Utters site t (.acceptedCer stream cer) (site.node.cea cer .success) (.accept peer)
  /-- It is not in order. -/
  | declines (hp : t.conn.phase = .closed) (stream : Nat) (cer : Message) (f : Failure) :
    Utters site t (.acceptedCer stream cer) (site.node.errorCea cer f) (.reject f)
  /-- It is not in order, and its stream was not the only one. -/
  | turnsAway (stream : Nat) (cer : Message) (link : Link) (f : Failure) :
    Utters site t (.acceptedCer stream cer) (site.node.errorCea cer f) (.turnAway link f)
  /-- The CER that an accepted stream was to bring is in order. -/
  | accepts {side : Side} {link : Nat} {cer : Message} (hp : t.conn.phase = .waitCer)
    (hl : t.conn.sideOf? link = some side) (hc : cer.isCer) (peer : PeerIdentity) :
    Utters site t (.received link cer) (site.node.cea cer .success) (.accept peer)
  /-- It is not in order. -/
  | rejects {side : Side} {link : Nat} {cer : Message} (hp : t.conn.phase = .waitCer)
    (hl : t.conn.sideOf? link = some side) (hc : cer.isCer) (f : Failure) :
    Utters site t (.received link cer) (site.node.errorCea cer f) (.reject f)
  /-- It cannot even be read. -/
  | rejectsInvalid {side : Side} {link : Nat} {h : Header} (hp : t.conn.phase = .waitCer)
    (hl : t.conn.sideOf? link = some side) (hr : h.isRequest) (f : Failure) :
    Utters site t (.receivedInvalid link h f) (site.node.headerErrorAnswer h f) (.reject f)
  /-- The answer that was kept for an accepted stream opens the connection after all. -/
  | recalls {e : Event} {cea : Message} {peer : PeerIdentity} (hc : t.conn.cachedCea = some cea)
    (hp : t.conn.cachedPeer = some peer) : Utters site t e cea (.accept peer)
  | complains {link : Nat} {m : Message} (hr : m.header.isRequest) (f : Failure) :
    Utters site t (.received link m) (site.node.errorAnswer m f) (.complain f)
  | complainsInvalid {link : Nat} {h : Header} (hr : h.isRequest) (f : Failure) :
    Utters site t (.receivedInvalid link h f) (site.node.headerErrorAnswer h f) (.complain f)
  | reassures {link : Nat} {m : Message} (hr : m.header.isRequest)
    (hm : m.isBaseCommand Command.deviceWatchdog) :
    Utters site t (.received link m) (site.node.dwa m) .answer
  | departs {link : Nat} {m : Message} (hr : m.header.isRequest)
    (hm : m.isBaseCommand Command.disconnectPeer) :
    Utters site t (.received link m) (site.node.dpa m) .farewell
  | answers (link : Nat) (a : Message) : Utters site t (.handled link a) a .answer
  | requests (waiter : Nat) (m : Message) : Utters site t (.send waiter m) m .request
  | disconnects (waiter : Nat) (cause : DisconnectCause) :
    Utters site t (.stop waiter cause) (site.node.dpr cause t.ids).1 .disconnect
  | probes (ho : t.conn.phase.isOpen) (hn : t.conn.outstanding = none) :
    Utters site t (.watchdogIdle t.conn.generation) (site.node.dwr t.ids).1
      (.probe (site.node.dwr t.ids).1.header.hopByHop)

/-! ### What is being written -/

section Writing

variable (site : Site) (t : Turn)

lemma writing_giveUp (e : Failure) : (t.giveUp site e).conn.writing = t.conn.writing :=
  writing_transition site _ _

lemma writing_hangUp (side : Side) : (t.hangUp side).conn.writing = t.conn.writing := by
  cases side with
  | initiator => exact congrArg Shape.writing (shape_hangUp_initiator t)
  | responder => exact congrArg Shape.writing (shape_hangUp_responder t)

lemma writing_openAs (peer : PeerIdentity) (p : Phase) :
    (t.openAs site peer p).conn.writing = t.conn.writing :=
  writing_transition site _ _

lemma writing_elect : (t.elect site).conn.writing = t.conn.writing := by
  unfold elect
  split
  · rfl
  · split <;> rfl

lemma writing_settle (g : Goal) (m : Message) (result : Option Failure) :
    (t.settle site g m result).conn.writing = t.conn.writing := by
  cases result with
  | some w =>
    cases g with
    | reject e =>
      show ((t.giveUp site w).giveUp site e).conn.writing = _
      rw [writing_giveUp, writing_giveUp]
    | turnAway link e => rfl
    | complain e => exact writing_giveUp site t w
    | _ => exact writing_giveUp site t w
  | none =>
    cases g with
    | introduce electing =>
      cases electing with
      | true =>
        show ((t.transition site .waitReturns).elect site).conn.writing = _
        rw [writing_elect, writing_transition]
      | false => exact writing_transition site t _
    | accept peer => exact writing_openAs site t peer _
    | reject e => exact writing_giveUp site t e
    | farewell =>
      show ((t.transition site .closing).transition site .shutdown).conn.writing = _
      rw [writing_transition, writing_transition]
    | request =>
      unfold settle
      dsimp only
      split <;> rfl
    | disconnect => exact writing_transition site t _
    | turnAway | complain | answer | probe => rfl

end Writing

/-- If anything is being written, its message and goal are as said. -/
def Says (P : Message → Goal → Prop) (t : Turn) : Prop :=
  ∀ w, t.conn.writing = some w → P w.message w.goal

variable {site : Site} {P : Message → Goal → Prop} {t u : Turn}

namespace Says

lemma idle (h : t.conn.writing = none) : t.Says P := by simp [Says, h]

lemma congr (h : t.Says P) (hw : u.conn.writing = t.conn.writing) : u.Says P :=
  fun w hu => h w (hw.symm.trans hu)

lemma transition (h : t.Says P) (p : Phase) : (t.transition site p).Says P :=
  h.congr (writing_transition site t p)

lemma giveUp (h : t.Says P) (e : Failure) : (t.giveUp site e).Says P :=
  h.congr (writing_giveUp site t e)

lemma hangUp (h : t.Says P) (side : Side) : (t.hangUp side).Says P :=
  h.congr (writing_hangUp t side)

lemma dropCandidate (h : t.Says P) : t.dropCandidate.Says P := h.hangUp .responder

lemma elect (h : t.Says P) : (t.elect site).Says P := h.congr (writing_elect site t)

lemma writeOn (h : t.Says P) (link : Link) {m : Message} {g : Goal} (hp : P m g) :
    (t.writeOn site link m g).Says P := by
  rcases writeOn_cases site t link m g with ⟨-, hw⟩ | ⟨e, -, hw⟩
  · rw [hw]
    rintro _ ⟨⟩
    exact hp
  · rw [hw]
    exact h.congr (writing_settle site t g m _)

lemma write (h : t.Says P) (side : Side) {m : Message} {g : Goal} (hp : P m g) :
    (t.write site side m g).Says P := by
  unfold Turn.write
  split
  · exact h.congr (writing_settle site t g m _)
  · exact h.writeOn _ hp

end Says

/-! ### Events -/

lemma cea_of_judge {cer cea : Message} :
    (∀ peer, t.judge site cer = .accept peer cea → cea = site.node.cea cer .success) ∧
      ∀ f, t.judge site cer = .reject f cea → cea = site.node.errorCea cer f := by
  unfold judge Node.answerCer
  cases hi : site.node.identify cer with
  | error e => simp +contextual [eq_comm]
  | ok peer =>
    dsimp only
    split <;> simp +contextual [eq_comm]

lemma says_answerFirstCer (h : u.Says P) {cer : Message}
    (ha : ∀ peer, P (site.node.cea cer .success) (.accept peer))
    (hr : ∀ f, P (site.node.errorCea cer f) (.reject f)) : (u.answerFirstCer site cer).Says P := by
  unfold answerFirstCer
  split
  · rename_i peer cea hj
    obtain rfl := cea_of_judge.1 peer hj
    exact h.write _ (ha peer)
  · rename_i f cea hj
    obtain rfl := cea_of_judge.2 f hj
    exact h.write _ (hr f)

lemma says_electIncoming (h : u.Says P) (stream : Nat) {cer : Message}
    (hr : ∀ link f, P (site.node.errorCea cer f) (.turnAway link f)) :
    (u.electIncoming site stream cer).Says P := by
  have ha : (u.attach stream).2.Says P := h
  unfold electIncoming
  dsimp only
  split
  · rename_i f cea hj
    obtain rfl := cea_of_judge.2 f hj
    exact ha.writeOn _ (hr _ f)
  · rename_i peer cea hj
    have hv : Says P { (u.attach stream).2 with
        conn.responder := some (u.attach stream).1
        conn.cachedCea := some cea, conn.cachedPeer := some peer } := ha
    split
    · exact hv.transition _
    · exact (hv.transition .waitReturns).elect

lemma says_openResponder (h : u.Says P)
    (hr : ∀ cea peer, u.conn.cachedCea = some cea → u.conn.cachedPeer = some peer →
      P cea (.accept peer)) : (u.openResponder site).Says P := by
  have hf : Says P { u with conn.cachedCea := none, conn.cachedPeer := none } := h
  unfold openResponder
  dsimp only
  split
  · rename_i cea peer hc hp
    exact hf.write _ (hr cea peer hc hp)
  · exact hf.transition _

lemma cached_hangUp_initiator (t : Turn) :
    (t.hangUp .initiator).conn.cachedCea = t.conn.cachedCea ∧
      (t.hangUp .initiator).conn.cachedPeer = t.conn.cachedPeer := by
  have hs := shape_hangUp_initiator t
  exact ⟨congrArg Shape.cachedCea hs, congrArg Shape.cachedPeer hs⟩

lemma says_onDisconnected (h : u.Says P)
    (hr : ∀ cea peer, u.conn.cachedCea = some cea → u.conn.cachedPeer = some peer →
      P cea (.accept peer)) (side : Side) (e : Failure) :
    (u.onDisconnected site side e).Says P := by
  unfold onDisconnected
  split
  · obtain ⟨hc, hp⟩ := cached_hangUp_initiator u
    exact says_openResponder (h.hangUp .initiator) (by rw [hc, hp]; exact hr)
  · exact h.dropCandidate.transition _
  · exact h.dropCandidate.transition _
  · exact h.transition _
  · exact h.giveUp _

lemma says_onPeerMessage (h : u.Says P) (side : Side) (link : Nat) {m : Message}
    (hw : m.header.isRequest → m.isBaseCommand Command.deviceWatchdog → P (site.node.dwa m) .answer)
    (hd : m.header.isRequest → m.isBaseCommand Command.disconnectPeer →
      P (site.node.dpa m) .farewell) : (u.onPeerMessage site side link m).Says P := by
  have hs : (u.stir site).Says P := by
    unfold stir
    split <;> exact h
  rw [onPeerMessage_eq]
  split
  · -- a watchdog request or answer
    rename_i hm
    split
    · exact hs.write side (hw ‹_› hm)
    · unfold onDwa
      split
      · exact hs
      · dsimp only
        split <;> exact hs
  · -- a disconnect request or answer
    split
    · rename_i hm
      split
      · exact hs.write side (hd ‹_› hm)
      · unfold onDpa
        split
        · exact hs.transition _
        · exact hs
    · -- any other message
      split
      · exact hs
      · unfold onAnswer
        split <;> exact hs

lemma says_onLateCapabilities (h : u.Says P) (m : Message) :
    (u.onLateCapabilities site m).Says P := by
  have decided : ∀ b : Bool, Says P (if b then u.notAcceptable "Rcv-CE"
      else u.giveUp site (.unknownPeer (m.originHost?.getD ""))) := by
    intro b
    split
    · exact h
    · exact h.giveUp _
  exact decided _

lemma says_failExchange (h : u.Says P) (k : UInt32) (r : ResultCode) :
    (u.failExchange site k r).Says P := by
  unfold failExchange
  split <;> exact h

lemma says_onOpenMessage (h : u.Says P) (side : Side) (link : Nat) {m : Message}
    (hc : m.header.isRequest → ∀ f, P (site.node.errorAnswer m f) (.complain f))
    (hw : m.header.isRequest → m.isBaseCommand Command.deviceWatchdog → P (site.node.dwa m) .answer)
    (hd : m.header.isRequest → m.isBaseCommand Command.disconnectPeer →
      P (site.node.dpa m) .farewell) : (u.onOpenMessage site side link m).Says P := by
  unfold onOpenMessage
  split
  · split
    · exact h.write side (hc ‹_› _)
    · exact h
  · split
    · exact says_onLateCapabilities h m
    · split
      · dsimp only
        split
        · exact h.write side (hc ‹_› _)
        · exact says_failExchange h _ _
      · exact says_onPeerMessage h side link hw hd

lemma says_onReceived (hw : t.conn.writing = none) {side : Side} {link : Nat}
    (hl : t.conn.sideOf? link = some side) (m : Message) :
    (t.onReceived site side link m).Says (t.Utters site (.received link m)) := by
  have h : t.Says (t.Utters site (.received link m)) := .idle hw
  have hc : (if side = .initiator && m.isCea then t.onCea site m
      else t.notAcceptable "Rcv-Message").Says (t.Utters site (.received link m)) := by
    split
    · -- a CEA opens the connection or ends it, and nothing is written
      unfold onCea
      split
      · exact h.giveUp _
      · split
        · dsimp only
          split
          · exact h.dropCandidate.congr (writing_openAs site _ _ _)
          · exact h.congr (writing_openAs site _ _ _)
        · exact h.giveUp _
    · exact h
  have ho : (if t.conn.activeSide? = some side then t.onOpenMessage site side link m
      else t.notAcceptable "Rcv-Message").Says (t.Utters site (.received link m)) := by
    split
    · exact says_onOpenMessage h side link .complains .reassures .departs
    · exact h
  unfold onReceived
  split
  · -- the first message of an accepted stream
    split
    · exact says_answerFirstCer h (.accepts ‹_› hl ‹_›) (.rejects ‹_› hl ‹_›)
    · exact Says.transition (t := t.notAcceptable "Rcv-Non-CER") h _
  -- the phases that expect a CEA, those that carry traffic, and the others
  all_goals first | exact hc | exact ho | exact h

lemma says_onReceivedInvalid (hw : t.conn.writing = none) {side : Side} {link : Nat}
    (hl : t.conn.sideOf? link = some side) (k : Header) (e : Failure) :
    (t.onReceivedInvalid site side k e).Says (t.Utters site (.receivedInvalid link k e)) := by
  have h : t.Says (t.Utters site (.receivedInvalid link k e)) := .idle hw
  unfold onReceivedInvalid
  dsimp only
  split
  · -- a request, on which something may be said
    split
    · exact h.write side (.rejectsInvalid ‹_› hl ‹_› e)
    · split
      · exact h.write side (.complainsInvalid ‹_› e)
      · exact h
  · -- an answer, on which nothing is
    have hf : (if t.conn.activeSide? = some side then t.failExchange site k.hopByHop e.resultCode
        else t).Says (t.Utters site (.receivedInvalid link k e)) := by
      split
      · exact says_failExchange h _ _
      · exact h
    split
    · exact Says.transition (t := Turn.report e _) hf _
    · exact hf

lemma says_onSend (hw : t.conn.writing = none) (waiter : Nat) (request : Message) :
    (t.onSend site waiter request).Says (t.Utters site (.send waiter request)) := by
  have h : t.Says (t.Utters site (.send waiter request)) := .idle hw
  have he : (t.enter site waiter request).Says (t.Utters site (.send waiter request)) := by
    unfold enter
    dsimp only
    split <;> exact h
  unfold onSend
  split
  · rename_i side _
    split
    · exact he.write side (.requests waiter request)
    · exact h
  · exact h

lemma says_onStop (hw : t.conn.writing = none) (waiter : Nat) (cause : DisconnectCause) :
    (t.onStop site waiter cause).Says (t.Utters site (.stop waiter cause)) := by
  have h : Says (t.Utters site (.stop waiter cause))
      { t with conn.stoppers := t.conn.stoppers ++ [waiter] } := .idle hw
  have hd : ∀ side, Says (t.Utters site (.stop waiter cause))
      (({ t with conn.stoppers := t.conn.stoppers ++ [waiter] } : Turn).disconnect site side
        cause) :=
    fun side => Says.write (t := { t with
      conn.stoppers := t.conn.stoppers ++ [waiter], ids := (site.node.dpr cause t.ids).2 }) h side
      (.disconnects waiter cause)
  unfold onStop
  dsimp only
  split
  · exact hd _
  · exact hd _
  · exact h
  · exact h.transition _

lemma says_onWatchdogIdle (hw : t.conn.writing = none) (generation : Nat) :
    (t.onWatchdogIdle site generation).Says (t.Utters site (.watchdogIdle generation)) := by
  have h : t.Says (t.Utters site (.watchdogIdle generation)) := .idle hw
  unfold onWatchdogIdle
  split
  · rename_i hc
    obtain ⟨rfl, ho, hn⟩ := hc
    split
    · exact h
    · exact Says.write (t := { t with ids := (site.node.dwr t.ids).2 }) h _ (.probes ho hn)
  · exact h

lemma says_onWatchdogReply (h : u.Says P) (hopByHop : UInt32) :
    (u.onWatchdogReply site hopByHop).Says P := by
  unfold onWatchdogReply
  split
  · exact h
  · dsimp only
    split
    · exact h.congr (writing_giveUp site _ _)
    · exact h

/-- **What is begun to be written, and on what occasion.** -/
theorem utters_handle (hw : t.conn.writing = none) (e : Event) :
    (t.handle site e).Says (t.Utters site e) := by
  have h : t.Says (t.Utters site e) := .idle hw
  have recalls : ∀ cea peer, t.conn.cachedCea = some cea → t.conn.cachedPeer = some peer →
      t.Utters site e cea (.accept peer) := fun _ _ hc hp => .recalls hc hp
  cases e with
  | start =>
    -- dialing says nothing yet
    simp only [handle, onStart]
    split
    · exact h
    · exact h.transition .waitConnAck
  | dialed stream =>
    -- the dialed stream begins with the CER
    have hi : ∀ electing, Says (t.Utters site (.dialed stream))
        (({ t with conn.dialing := false } : Turn).introduce site stream electing) := by
      intro electing
      exact Says.write (t := { (({ t with conn.dialing := false } : Turn).attach stream).2 with
        conn.initiator := some (({ t with conn.dialing := false } : Turn).attach stream).1
        ids := (site.node.cer t.ids).2 }) h _ (.introduces stream electing)
    simp only [handle, onDialed]
    split
    · exact hi _
    · exact hi _
    · exact h
  | dialFailed text =>
    simp only [handle, onDialFailed]
    split
    · -- without a rival the failed dial ends the connection
      exact h.congr (writing_giveUp site { t with conn.dialing := false } _)
    · -- with one, its CER is answered
      exact says_openResponder
        (u := ({ t with conn.dialing := false } : Turn).report (.refused text)) h recalls
    · exact h
  | accepted stream =>
    simp only [handle, onAccepted]
    split
    · exact h
    · exact h.congr (writing_transition site { (t.attach stream).2 with
        conn.responder := some (t.attach stream).1 } _)
  | acceptedCer stream cer =>
    simp only [handle, onAcceptedCer]
    split
    · -- the only stream there is
      exact says_answerFirstCer (u := { (t.attach stream).2 with
        conn.responder := some (t.attach stream).1 }) h (.welcomes ‹_› stream cer)
        (.declines ‹_› stream cer)
    · -- a second one: it is kept for the election, or turned away
      exact says_electIncoming h stream (.turnsAway stream cer)
    · exact says_electIncoming h stream (.turnsAway stream cer)
    · -- any further one is refused
      exact h
  | received link m =>
    simp only [handle]
    split
    · exact says_onReceived hw ‹_› m
    · -- what is no longer attached is ignored
      exact h
  | receivedInvalid link k e =>
    simp only [handle]
    split
    · exact says_onReceivedInvalid hw ‹_› k e
    · exact h
  | disconnected link e =>
    simp only [handle]
    split
    · -- if it was this end's stream, the rival's CER may be answered
      exact says_onDisconnected h recalls _ e
    · exact h
  | wonElection =>
    simp only [handle, onWonElection]
    split
    · exact h
    · -- the CEA that was kept is written
      obtain ⟨hc, hp⟩ := cached_hangUp_initiator t
      exact says_openResponder (h.hangUp .initiator) (by rw [hc, hp]; exact recalls)
  | send waiter request => exact says_onSend hw waiter request
  | handled link answer =>
    -- a handler's answer goes out on the stream of its request only
    simp only [handle, onHandled]
    split
    · split
      · exact h.write _ (.answers link answer)
      · exact h
    · exact h
  | stop waiter cause => exact says_onStop hw waiter cause
  | watchdogIdle generation => exact says_onWatchdogIdle hw generation
  | watchdogReply hopByHop => exact says_onWatchdogReply h hopByHop
  | exchangeTimeout hopByHop =>
    simp only [handle, onExchangeTimeout]
    split <;> exact h
  | closeTimeout =>
    simp only [handle, onCloseTimeout]
    split
    · -- it shuts, and says nothing more
      exact h.transition _
    · exact h

end Turn

/-! ### Runs -/

variable {site : Site} {expected : Option String} {first : Event} {bs : List Beat} {b : Beat}
  {c : Connection}

lemma Beat.utters (ht : b.conn.Takes b.input) {w : Writing}
    (hw : (b.turn site).conn.writing = some w) :
    ∃ e, b.input = .event e ∧ b.begun.Utters site e w.message w.goal := by
  cases hi : b.input with
  | event e =>
    refine ⟨e, rfl, Turn.utters_handle (writing_begun_of_event ht hi) e w ?_⟩
    rwa [← turn_event hi]
  | written result =>
    rw [hi] at ht
    cases ht with
    | @written v hv _ =>
      rw [turn_written hi hv, Turn.writing_settle] at hw
      exact absurd hw (by simp)

/-- **The write under way was begun by the turn right before.** -/
theorem Connection.Run.uttered (h : Run site (fresh expected first) bs c) {w : Writing}
    (hw : c.writing = some w) : ∃ as a e, bs = as ++ [a] ∧ a.input = .event e ∧
      a.begun.Utters site e w.message w.goal ∧ (a.turn site).conn.shape = c.shape := by
  induction h with
  | nil => exact absurd hw (by simp [fresh])
  | ring _ _ ih => exact ih hw
  | @turn as a h ht _ =>
    obtain ⟨e, hi, hu⟩ := Beat.utters ht hw
    exact ⟨as, a, e, rfl, hi, hu, rfl⟩

end Diameter
