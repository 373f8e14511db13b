import Diameter.Proofs.Bypass
import Diameter.Proofs.EventHandling

/-!
A bound connection takes no notice of whom it expected.

Whom a connection expects is asked for in its handshake, and named in notices until somebody is
bound. From then on the name of the bound peer stands in for it. So a connection that is running
goes the same way if the expectation is taken from it: each move commutes with that. Main
statements: `Turn.blind_handle`, `Turn.blind_settle`.
-/

namespace Diameter

lemma Phase.ne_of_isRunning {p q : Phase} (hp : p.isRunning) (hq : q.isRunning = false) :
    p ≠ q := by
  rintro rfl
  simp [hq] at hp

/-- The connection, expecting nobody in particular. -/
def Connection.blind (c : Connection) : Connection := { c with expectedHost := none }

namespace Turn

variable (site : Site) (t : Turn)

/-- The turn of a connection that expects nobody in particular. -/
def blind : Turn := { t with conn := t.conn.blind }

/-- The connection is bound to a peer. -/
def IsBound : Prop := t.conn.identity.isSome

variable {t}

lemma IsBound.peerHost? (h : t.IsBound) : t.blind.conn.peerHost? = t.conn.peerHost? := by
  obtain ⟨p, hp⟩ := Option.isSome_iff_exists.mp h
  simp [Connection.peerHost?, blind, Connection.blind, hp]

lemma blind_report (h : t.IsBound) (e : Failure) : (t.report e).blind = t.blind.report e := by
  rw [report, report, h.peerHost?]
  rfl

lemma blind_notAcceptable (h : t.IsBound) (event : String) :
    (t.notAcceptable event).blind = t.blind.notAcceptable event :=
  blind_report h _

/-! ### Streams and requests -/

lemma blind_hangUp (side : Side) : (t.hangUp side).blind = t.blind.hangUp side := by
  have hl : t.blind.conn.link? side = t.conn.link? side := by cases side <;> rfl
  unfold hangUp
  rw [hl]
  split
  · rfl
  · cases side <;> rfl

lemma blind_foldl_disarm (t : Turn) (xs : List Exchange) :
    (xs.foldl (fun t x => t.disarm (.exchange x.key)) t).blind =
      xs.foldl (fun t x => t.disarm (.exchange x.key)) t.blind := by
  induction xs generalizing t with
  | nil => rfl
  | cons x xs ih => exact ih _

lemma blind_drain : (t.drain site).blind = t.blind.drain site := by
  have h := blind_foldl_disarm t t.conn.pending.entries
  unfold drain
  dsimp only
  rw [show t.blind.conn.pending = t.conn.pending from rfl, ← h]
  rfl

lemma blind_stopDialing : t.stopDialing.blind = t.blind.stopDialing := by
  unfold stopDialing
  rw [show t.blind.conn.dialing = t.conn.dialing from rfl]
  split <;> rfl

lemma blind_dropStreams : t.dropStreams.blind = t.blind.dropStreams := by
  unfold dropStreams
  dsimp only
  rw [← blind_hangUp, ← blind_hangUp]
  rfl

lemma blind_teardown : (t.teardown site).blind = t.blind.teardown site := by
  unfold teardown
  dsimp only
  rw [← blind_stopDialing, ← blind_dropStreams]
  exact congrArg releaseStoppers (blind_drain site)

/-! ### Phases -/

lemma IsBound.transition (h : t.IsBound) (p : Phase) : (t.transition site p).IsBound := by
  by_cases hp : t.conn.phase = p
  · rwa [transition_of_phase site t hp]
  have hi : (t.transition site p).conn.identity = t.conn.identity := by
    by_cases hs : p = .shutdown
    · subst hs
      exact congrArg Shape.identity (shape_transition_shutdown site t hp)
    · exact congrArg Shape.identity (shape_transition site t hs)
  rwa [IsBound, hi]

lemma blind_transition (h : t.IsBound) (p : Phase) :
    (t.transition site p).blind = t.blind.transition site p := by
  unfold Turn.transition
  rw [show t.blind.conn.phase = t.conn.phase from rfl, h.peerHost?]
  split
  · rfl
  · cases p with
    | shutdown => exact blind_teardown site
    | _ => rfl

lemma blind_giveUp (h : t.IsBound) (e : Failure) :
    (t.giveUp site e).blind = t.blind.giveUp site e := by
  rw [giveUp, giveUp, ← blind_report h]
  exact blind_transition site (t := t.report e) h _

lemma blind_openAs (peer : PeerIdentity) (p : Phase) :
    (t.openAs site peer p).blind = t.blind.openAs site peer p := by
  let u : Turn := { t with conn.identity := some peer }.emit (.showPeer peer)
  have hb : ({ u with conn.failures := 0, conn.outstanding := none } : Turn).IsBound := rfl
  exact congrArg (armIdle site) (blind_transition site hb p)

/-! ### Writing -/

lemma blind_elect : (t.elect site).blind = t.blind.elect site := by
  unfold elect
  rw [show t.blind.conn.cachedPeer = t.conn.cachedPeer from rfl]
  split
  · rfl
  · split <;> rfl

/-- **What follows a write** does not depend on whom a bound connection expected. -/
theorem blind_settle (h : t.IsBound) (g : Goal) (m : Message) (result : Option Failure) :
    (t.settle site g m result).blind = t.blind.settle site g m result := by
  have fallen (w : Failure) : (t.giveUp site w).IsBound := IsBound.transition site (t := t.report w) h _
  cases g with
  | turnAway link e => exact congrArg (emit (.hangUp link)) (blind_report h e)
  | reject e =>
    cases result with
    | some w =>
      exact (blind_giveUp site (fallen w) e).trans (congrArg (giveUp site e) (blind_giveUp site h w))
    | none => exact blind_giveUp site h e
  | complain e =>
    cases result with
    | some w => exact (blind_report (fallen w) e).trans (congrArg (report e) (blind_giveUp site h w))
    | none => exact blind_report h e
  | introduce electing =>
    cases result with
    | some w => exact blind_giveUp site h w
    | none =>
      cases electing with
      | true => exact (blind_elect site).trans (congrArg (elect site) (blind_transition site h _))
      | false => exact blind_transition site h _
  | accept peer =>
    cases result with
    | some w => exact blind_giveUp site h w
    | none => exact blind_openAs site peer _
  | answer =>
    cases result with
    | some w => exact blind_giveUp site h w
    | none => rfl
  | farewell =>
    cases result with
    | some w => exact blind_giveUp site h w
    | none =>
      exact (blind_transition site (h.transition site _) _).trans
        (congrArg (Turn.transition site .shutdown) (blind_transition site h _))
  | request =>
    cases result with
    | some w => exact blind_giveUp site h w
    | none =>
      exact apply_ite blind _ _ _
  | disconnect =>
    cases result with
    | some w => exact blind_giveUp site h w
    | none =>
      exact congrArg (arm .close site.settings.sendTimeout .closeTimeout)
        (blind_transition site h .closing)
  | probe hopByHop =>
    cases result with
    | some w => exact blind_giveUp site h w
    | none => rfl

lemma blind_write (h : t.IsBound) (side : Side) (m : Message) (g : Goal) :
    (t.write site side m g).blind = t.blind.write site side m g := by
  have hl : t.blind.conn.link? side = t.conn.link? side := by cases side <;> rfl
  unfold write
  rw [hl]
  split
  · exact blind_settle site h g m _
  · unfold writeOn
    split
    · exact blind_settle site h g m _
    · rfl

/-! ### Messages -/

lemma blind_failExchange (hopByHop : UInt32) (r : ResultCode) :
    (t.failExchange site hopByHop r).blind = t.blind.failExchange site hopByHop r := by
  unfold failExchange
  rw [show t.blind.conn.pending = t.conn.pending from rfl]
  split <;> rfl

lemma blind_onLateCapabilities (h : t.IsBound) (m : Message) :
    (t.onLateCapabilities site m).blind = t.blind.onLateCapabilities site m := by
  unfold onLateCapabilities
  dsimp only
  rw [show t.blind.conn.identity = t.conn.identity from rfl]
  split
  · split
    · exact blind_notAcceptable h _
    · exact blind_giveUp site h _
  · exact blind_notAcceptable h _

lemma blind_onDwa (m : Message) : (t.onDwa site m).blind = t.blind.onDwa site m := by
  unfold onDwa
  rw [show t.blind.conn.outstanding = t.conn.outstanding from rfl]
  split
  · rfl
  · exact apply_ite blind _ _ _

lemma blind_onDpa (h : t.IsBound) : (t.onDpa site).blind = t.blind.onDpa site := by
  unfold onDpa
  rw [show t.blind.conn.phase = t.conn.phase from rfl]
  split
  · exact blind_transition site h _
  · exact blind_notAcceptable h _

lemma blind_onAnswer (h : t.IsBound) (m : Message) : (t.onAnswer m).blind = t.blind.onAnswer m := by
  unfold onAnswer
  rw [show t.blind.conn.pending = t.conn.pending from rfl]
  split
  · exact blind_report h _
  · rfl

lemma blind_stir : (t.stir site).blind = t.blind.stir site := apply_ite blind _ _ _

lemma IsBound.stir (h : t.IsBound) : (t.stir site).IsBound := by
  unfold Turn.stir
  split <;> exact h

lemma blind_onPeerMessage (h : t.IsBound) (side : Side) (link : Nat) (m : Message) :
    (t.onPeerMessage site side link m).blind = t.blind.onPeerMessage site side link m := by
  have hs := h.stir site
  rw [onPeerMessage_eq, onPeerMessage_eq, ← blind_stir]
  split
  · split
    · exact blind_write site hs _ _ _
    · exact blind_onDwa site m
  · split
    · split
      · exact blind_write site hs _ _ _
      · exact blind_onDpa site hs
    · split
      · rfl
      · exact blind_onAnswer hs m

lemma blind_onOpenMessage (h : t.IsBound) (side : Side) (link : Nat) (m : Message) :
    (t.onOpenMessage site side link m).blind = t.blind.onOpenMessage site side link m := by
  unfold onOpenMessage
  rw [show t.blind.stranger? m = t.stranger? m from rfl]
  split
  · split
    · exact blind_write site h _ _ _
    · exact blind_report h _
  · split
    · exact blind_onLateCapabilities site h m
    · split
      · dsimp only
        split
        · exact blind_write site h _ _ _
        · have hf : (t.failExchange site m.header.hopByHop .unknownPeer).IsBound := by
            unfold failExchange
            split <;> exact h
          rw [blind_report hf, blind_failExchange]
      · exact blind_onPeerMessage site h side link m

/-! ### Events of a running connection -/

lemma blind_onReceived (h : t.IsBound) (hp : t.conn.phase.isRunning) (side : Side) (link : Nat)
    (m : Message) :
    (t.onReceived site side link m).blind = t.blind.onReceived site side link m := by
  have opened : (if t.conn.activeSide? = some side then t.onOpenMessage site side link m
        else t.notAcceptable "Rcv-Message").blind =
      if t.conn.activeSide? = some side then t.blind.onOpenMessage site side link m
        else t.blind.notAcceptable "Rcv-Message" := by
    split
    · exact blind_onOpenMessage site h side link m
    · exact blind_notAcceptable h _
  unfold onReceived
  rw [show t.blind.conn.phase = t.conn.phase from rfl]
  split
  · -- the three phases before running are excluded by `hp`
    rename_i hq
    exact absurd hq (Phase.ne_of_isRunning hp rfl)
  · rename_i hq
    exact absurd hq (Phase.ne_of_isRunning hp rfl)
  · rename_i hq
    exact absurd hq (Phase.ne_of_isRunning hp rfl)
  · -- the three phases that serve the open stream
    exact opened
  · exact opened
  · exact opened
  · exact blind_notAcceptable h _

lemma blind_onReceivedInvalid (h : t.IsBound) (hp : t.conn.phase.isRunning) (side : Side)
    (k : Header) (e : Failure) :
    (t.onReceivedInvalid site side k e).blind = t.blind.onReceivedInvalid site side k e := by
  have hc : t.conn.phase ≠ .waitCer := Phase.ne_of_isRunning hp rfl
  have hi : t.conn.phase ≠ .waitICea := Phase.ne_of_isRunning hp rfl
  have hr : t.conn.phase ≠ .waitReturns := Phase.ne_of_isRunning hp rfl
  have hb : t.blind.conn.phase = t.conn.phase := rfl
  simp only [onReceivedInvalid, hb, hc, hi, hr, decide_false, Bool.or_false, Bool.and_false,
    Bool.false_and, if_false, Bool.false_eq_true]
  rw [show t.blind.conn.activeSide? = t.conn.activeSide? from rfl]
  split
  · -- a request
    split
    · exact blind_write site h _ _ _
    · exact blind_report h e
  · -- an answer
    split
    · have hf : (t.failExchange site k.hopByHop e.resultCode).IsBound := by
        unfold failExchange
        split <;> exact h
      rw [blind_report hf, blind_failExchange]
    · exact blind_report h e

lemma blind_onDisconnected (h : t.IsBound) (hp : t.conn.phase.isRunning) (side : Side)
    (e : Failure) : (t.onDisconnected site side e).blind = t.blind.onDisconnected site side e := by
  unfold onDisconnected
  rw [show t.blind.conn.phase = t.conn.phase from rfl]
  split
  · rename_i hq
    exact absurd hq (Phase.ne_of_isRunning hp rfl)
  · rename_i hq
    exact absurd hq (Phase.ne_of_isRunning hp rfl)
  · rename_i hq
    exact absurd hq (Phase.ne_of_isRunning hp rfl)
  · exact blind_transition site h _
  · exact blind_giveUp site h _

lemma blind_enter (waiter : Nat) (request : Message) :
    (t.enter site waiter request).blind = t.blind.enter site waiter request := by
  simp only [enter, blind, Connection.blind, arm]
  split <;> rfl

lemma blind_onSend (h : t.IsBound) (waiter : Nat) (request : Message) :
    (t.onSend site waiter request).blind = t.blind.onSend site waiter request := by
  have hb : (t.enter site waiter request).IsBound := by
    unfold enter
    dsimp only
    split <;> exact h
  unfold onSend
  rw [show t.blind.conn.activeSide? = t.conn.activeSide? from rfl,
    show t.blind.conn.phase = t.conn.phase from rfl]
  split
  · rename_i side _
    split
    · show ((t.enter site waiter request).write site side request .request).blind =
        (t.blind.enter site waiter request).write site side request .request
      rw [← blind_enter]
      exact blind_write site hb _ _ _
    · rfl
  · rfl

lemma blind_onHandled (h : t.IsBound) (link : Nat) (answer : Message) :
    (t.onHandled site link answer).blind = t.blind.onHandled site link answer := by
  have hl : t.blind.conn.activeLink? = t.conn.activeLink? := by
    have hs : t.blind.conn.link? = t.conn.link? := by
      funext side
      cases side <;> rfl
    rw [Connection.activeLink?, Connection.activeLink?, hs]
    rfl
  unfold onHandled
  rw [show t.blind.conn.activeSide? = t.conn.activeSide? from rfl, hl]
  split
  · split
    · exact blind_write site h _ _ _
    · rfl
  · rfl

lemma blind_onExchangeTimeout (hopByHop : UInt32) :
    (t.onExchangeTimeout site hopByHop).blind = t.blind.onExchangeTimeout site hopByHop := by
  unfold onExchangeTimeout
  rw [show t.blind.conn.pending = t.conn.pending from rfl]
  split <;> rfl

lemma blind_onStop (h : t.IsBound) (waiter : Nat) (cause : DisconnectCause) :
    (t.onStop site waiter cause).blind = t.blind.onStop site waiter cause := by
  let u : Turn := { t with conn.stoppers := t.conn.stoppers ++ [waiter] }
  have hd : ({ u with ids := (site.node.dpr cause u.ids).2 } : Turn).IsBound := h
  unfold onStop
  dsimp only
  rw [show t.blind.conn.phase = t.conn.phase from rfl]
  split
  · exact blind_write site hd _ _ _
  · exact blind_write site hd _ _ _
  · rfl
  · exact blind_transition site (t := u) h _

lemma blind_onCloseTimeout (h : t.IsBound) :
    (t.onCloseTimeout site).blind = t.blind.onCloseTimeout site := by
  unfold onCloseTimeout
  rw [show t.blind.conn.phase = t.conn.phase from rfl]
  split
  · exact blind_transition site h _
  · rfl

lemma blind_onWatchdogIdle (h : t.IsBound) (generation : Nat) :
    (t.onWatchdogIdle site generation).blind = t.blind.onWatchdogIdle site generation := by
  have hi : ({ t with ids := (site.node.dwr t.ids).2 } : Turn).IsBound := h
  unfold onWatchdogIdle
  rw [show t.blind.conn.generation = t.conn.generation from rfl,
    show t.blind.conn.phase = t.conn.phase from rfl,
    show t.blind.conn.outstanding = t.conn.outstanding from rfl,
    show t.blind.conn.activeSide? = t.conn.activeSide? from rfl]
  split
  · split
    · rfl
    · exact blind_write site hi _ _ _
  · rfl

lemma blind_onWatchdogReply (h : t.IsBound) (hopByHop : UInt32) :
    (t.onWatchdogReply site hopByHop).blind = t.blind.onWatchdogReply site hopByHop := by
  let u : Turn := { t with conn.outstanding := none, conn.failures := t.conn.failures + 1 }
  unfold onWatchdogReply
  rw [show t.blind.conn.outstanding = t.conn.outstanding from rfl,
    show t.blind.conn.failures = t.conn.failures from rfl]
  split
  · rfl
  · dsimp only
    split
    · exact blind_giveUp site (t := u) h _
    · rfl

/-! ### Events of a handshake, which a running connection only reports -/

lemma blind_onStart (h : t.IsBound) (hp : t.conn.phase.isRunning) :
    (t.onStart site).blind = t.blind.onStart site := by
  unfold onStart
  rw [show t.blind.conn.phase = t.conn.phase from rfl]
  split
  · exact blind_notAcceptable h _
  · rename_i hq
    exact absurd (Phase.ne_of_isRunning hp rfl) hq

lemma blind_onDialed (h : t.IsBound) (hp : t.conn.phase.isRunning) (stream : Nat) :
    (t.onDialed site stream).blind = t.blind.onDialed site stream := by
  have hd : ({ t with conn.dialing := false } : Turn).IsBound := h
  unfold onDialed
  dsimp only
  rw [show t.blind.conn.phase = t.conn.phase from rfl]
  split
  · rename_i hq
    exact absurd hq (Phase.ne_of_isRunning hp rfl)
  · rename_i hq
    exact absurd hq (Phase.ne_of_isRunning hp rfl)
  · exact congrArg (emit (.refuse stream)) (blind_notAcceptable hd _)

lemma blind_onDialFailed (h : t.IsBound) (hp : t.conn.phase.isRunning) (text : String) :
    (t.onDialFailed site text).blind = t.blind.onDialFailed site text := by
  have hd : ({ t with conn.dialing := false } : Turn).IsBound := h
  unfold onDialFailed
  dsimp only
  rw [show t.blind.conn.phase = t.conn.phase from rfl]
  split
  · rename_i hq
    exact absurd hq (Phase.ne_of_isRunning hp rfl)
  · rename_i hq
    exact absurd hq (Phase.ne_of_isRunning hp rfl)
  · exact blind_notAcceptable hd _

lemma blind_onAccepted (h : t.IsBound) (hp : t.conn.phase.isRunning) (stream : Nat) :
    (t.onAccepted site stream).blind = t.blind.onAccepted site stream := by
  unfold onAccepted
  rw [show t.blind.conn.phase = t.conn.phase from rfl]
  split
  · exact congrArg (emit (.refuse stream)) (blind_notAcceptable h _)
  · rename_i hq
    exact absurd (Phase.ne_of_isRunning hp rfl) hq

lemma blind_onAcceptedCer (hp : t.conn.phase.isRunning) (stream : Nat) (cer : Message) :
    (t.onAcceptedCer site stream cer).blind = t.blind.onAcceptedCer site stream cer := by
  unfold onAcceptedCer
  rw [show t.blind.conn.phase = t.conn.phase from rfl]
  split
  · rename_i hq
    exact absurd hq (Phase.ne_of_isRunning hp rfl)
  · rename_i hq
    exact absurd hq (Phase.ne_of_isRunning hp rfl)
  · rename_i hq
    exact absurd hq (Phase.ne_of_isRunning hp rfl)
  · rfl

lemma blind_onWonElection (h : t.IsBound) (hp : t.conn.phase.isRunning) :
    (t.onWonElection site).blind = t.blind.onWonElection site := by
  unfold onWonElection
  rw [show t.blind.conn.phase = t.conn.phase from rfl]
  split
  · exact blind_notAcceptable h _
  · rename_i hq
    exact absurd (Phase.ne_of_isRunning hp rfl) hq

/-- **What is made of an event** does not depend on whom a connection expected that is bound and
running. -/
theorem blind_handle (h : t.IsBound) (hp : t.conn.phase.isRunning) (e : Event) :
    (t.handle site e).blind = t.blind.handle site e := by
  -- the side a stream is on is no part of what is hidden
  have hs (l : Nat) : t.blind.conn.sideOf? l = t.conn.sideOf? l := rfl
  cases e with
  | start => exact blind_onStart site h hp
  | dialed stream => exact blind_onDialed site h hp stream
  | dialFailed text => exact blind_onDialFailed site h hp text
  | accepted stream => exact blind_onAccepted site h hp stream
  | acceptedCer stream cer => exact blind_onAcceptedCer site hp stream cer
  | received l m =>
    simp only [handle, hs]
    split
    · exact blind_onReceived site h hp _ l m
    · rfl
  | receivedInvalid l k f =>
    simp only [handle, hs]
    split
    · exact blind_onReceivedInvalid site h hp _ k f
    · rfl
  | disconnected l f =>
    simp only [handle, hs]
    split
    · exact blind_onDisconnected site h hp _ f
    · rfl
  | wonElection => exact blind_onWonElection site h hp
  | send waiter request => exact blind_onSend site h waiter request
  | handled l answer => exact blind_onHandled site h l answer
  | stop waiter cause => exact blind_onStop site h waiter cause
  | watchdogIdle generation => exact blind_onWatchdogIdle site h generation
  | watchdogReply hopByHop => exact blind_onWatchdogReply site h hopByHop
  | exchangeTimeout hopByHop => exact blind_onExchangeTimeout site hopByHop
  | closeTimeout => exact blind_onCloseTimeout site h

end Turn

end Diameter
