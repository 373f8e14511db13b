import Diameter.Proofs.Shape

/-!
The stages of a connection, from the first event to the shutdown, and the ways between them.

A stage fixes the shape of a connection. `Next` lists every way that a turn can lead from one
stage to another, each with what it takes and with the outline of the turn.
-/

namespace Diameter

/-- An accepted stream whose CER was in order, the answer kept for it, and the peer behind it. -/
structure Rival where
  link : Link
  cea : Message
  peer : PeerIdentity

inductive Stage where
  /-- The first event is at hand. -/
  | closed (first : Event)
  | dialing (rival : Option Rival)
  /-- The CER is on its way. -/
  | introducing (i : Link) (rival : Option Rival) (cer : Message) (deadline : Nat)
  | introduced (i : Link)
  /-- The answer on a second stream, which is not wanted, is on its way. -/
  | turningAway (i : Option Link) (link : Link) (cea : Message) (e : Failure) (deadline : Nat)
  /-- Both streams are up; `called` if the election is won and not yet acted upon. -/
  | electing (i : Link) (x : Rival) (called : Bool)
  | awaitingCer (r : Link)
  /-- The CEA that opens the connection is on its way. -/
  | accepting (source : Phase) (x : Rival) (deadline : Nat)
  /-- The CEA after which the connection ends is on its way. -/
  | rejecting (source : Phase) (r : Link) (cea : Message) (e : Failure) (deadline : Nat)
  /-- Open, or closing. -/
  | running (closing : Bool) (side : Side) (link : Link) (peer : PeerIdentity)
      (writing : Option Writing)
  | shut (peer cached : Option PeerIdentity)

namespace Stage

def phase : Stage → Phase
  | closed _ => .closed
  | dialing none => .waitConnAck
  | dialing (some _) => .waitConnAckElect
  | introducing _ none _ _ => .waitConnAck
  | introducing _ (some _) _ _ => .waitConnAckElect
  | introduced _ => .waitICea
  | turningAway none _ _ _ _ => .waitConnAck
  | turningAway (some _) _ _ _ _ => .waitICea
  | electing _ _ _ => .waitReturns
  | awaitingCer _ => .waitCer
  | accepting source _ _ => source
  | rejecting source _ _ _ _ => source
  | running true _ _ _ _ => .closing
  | running false .initiator _ _ _ => .iOpen
  | running false .responder _ _ _ => .rOpen
  | shut _ _ => .shutdown

/-- Whom the connection is bound to. -/
def peer? : Stage → Option PeerIdentity
  | running _ _ _ peer _ => some peer
  | shut peer _ => peer
  | _ => none

/-- The stage of a connection that has only a dialed stream, if that. -/
def alone : Option Link → Stage
  | none => dialing none
  | some i => introduced i

/-- The shape of a connection, given whom it expects and how many streams it has attached. -/
def shape (expected : Option String) (n : Nat) (s : Stage) : Shape :=
  let base : Shape :=
    { expectedHost := expected, attached := n, phase := s.phase, identity := s.peer?
      dialing := false, initiator := none, responder := none, cachedCea := none
      cachedPeer := none, internal := [], writing := none }
  match s with
  | closed first => { base with internal := [first] }
  | dialing rival =>
    { base with
      dialing := true, responder := rival.map (·.link)
      cachedCea := rival.map (·.cea), cachedPeer := rival.map (·.peer) }
  | introducing i rival cer d =>
    { base with
      initiator := some i, responder := rival.map (·.link)
      cachedCea := rival.map (·.cea), cachedPeer := rival.map (·.peer)
      writing := some ⟨i, cer, .introduce rival.isSome, d⟩ }
  | introduced i => { base with initiator := some i }
  | turningAway i link cea e d =>
    { base with
      dialing := i.isNone, initiator := i, writing := some ⟨link, cea, .turnAway link e, d⟩ }
  | electing i x called =>
    { base with
      initiator := some i, responder := some x.link, cachedCea := some x.cea
      cachedPeer := some x.peer, internal := if called then [.wonElection] else [] }
  | awaitingCer r => { base with responder := some r }
  | accepting _ x d =>
    { base with
      responder := some x.link, writing := some ⟨x.link, x.cea, .accept x.peer, d⟩ }
  | rejecting _ r cea e d =>
    { base with responder := some r, writing := some ⟨r, cea, .reject e, d⟩ }
  | running _ .initiator link _ w => { base with initiator := some link, writing := w }
  | running _ .responder link _ w => { base with responder := some link, writing := w }
  | shut _ cached => { base with cachedPeer := cached }

end Stage

/-- The effect shows something of the connection. -/
def Effect.isShow : Effect → Bool
  | .showPhase _ | .showPeer _ => true
  | _ => false

namespace Event

/-- The outcome of a dial. -/
def isReport : Event → Bool
  | dialed _ | dialFailed _ => true
  | _ => false

/-- The stream that an event brings. -/
def stream? : Event → Option Nat
  | dialed stream | accepted stream | acceptedCer stream _ => some stream
  | _ => none

end Event

/-- What is written on a stream that carries traffic: answers, requests and the parting. -/
def Goal.IsTraffic (closing : Bool) : Goal → Prop
  | .complain _ | .answer | .farewell => True
  | .request | .disconnect | .probe _ => closing = false
  | _ => False

/-- The ways from one stage to the next: with `n` streams attached a turn on the input leads to
the other stage, with `n'` attached, and has the outline. -/
inductive Next (site : Site) (expected : Option String) :
    Nat → Stage → Input → List Effect → Nat → Stage → Prop
  | dial {n} :
    Next site expected n (.closed .start) (.event .start) [.showPhase .waitConnAck, .dial] n
      (.dialing none)
  | await {n stream} :
    Next site expected n (.closed (.accepted stream)) (.event (.accepted stream))
      [.listen ⟨n + 1, stream⟩, .showPhase .waitCer] (n + 1) (.awaitingCer ⟨n + 1, stream⟩)
  | acceptFirst {n stream cer peer d} (hp : site.node.identify cer = .ok peer)
      (he : expected.all (Identity.same · peer.host))
      (hl : (site.node.cea cer .success).checkLength = .ok ()) :
    Next site expected n (.closed (.acceptedCer stream cer)) (.event (.acceptedCer stream cer))
      [.listen ⟨n + 1, stream⟩] (n + 1)
      (.accepting .closed ⟨⟨n + 1, stream⟩, site.node.cea cer .success, peer⟩ d)
  | rejectFirst {n stream cer e d} (hl : (site.node.errorCea cer e).checkLength = .ok ()) :
    Next site expected n (.closed (.acceptedCer stream cer)) (.event (.acceptedCer stream cer))
      [.listen ⟨n + 1, stream⟩] (n + 1)
      (.rejecting .closed ⟨n + 1, stream⟩ (site.node.errorCea cer e) e d)
  | acceptAwaited {n r cer peer d} (hc : cer.isCer) (hp : site.node.identify cer = .ok peer)
      (he : expected.all (Identity.same · peer.host))
      (hl : (site.node.cea cer .success).checkLength = .ok ()) :
    Next site expected n (.awaitingCer r) (.event (.received r.id cer)) [] n
      (.accepting .waitCer ⟨r, site.node.cea cer .success, peer⟩ d)
  | rejectAwaited {n r i cea e d} (hl : cea.checkLength = .ok ()) :
    Next site expected n (.awaitingCer r) (.event i) [] n (.rejecting .waitCer r cea e d)
  | introduce {n rival stream ids d} (hl : (site.node.cer ids).1.checkLength = .ok ()) :
    Next site expected n (.dialing rival) (.event (.dialed stream)) [.listen ⟨n + 1, stream⟩]
      (n + 1) (.introducing ⟨n + 1, stream⟩ rival (site.node.cer ids).1 d)
  | introduced {n i cer d} :
    Next site expected n (.introducing i none cer d) (.written none) [.showPhase .waitICea] n
      (.introduced i)
  | elect {n i x cer d} :
    Next site expected n (.introducing i (some x) cer d) (.written none)
      [.showPhase .waitReturns] n (.electing i x (wonElection site.node.host x.peer.host))
  | court {n stream cer peer} (hp : site.node.identify cer = .ok peer)
      (he : expected.all (Identity.same · peer.host)) :
    Next site expected n (.dialing none) (.event (.acceptedCer stream cer))
      [.listen ⟨n + 1, stream⟩, .showPhase .waitConnAckElect] (n + 1)
      (.dialing (some ⟨⟨n + 1, stream⟩, site.node.cea cer .success, peer⟩))
  | challenge {n i stream cer peer} (hp : site.node.identify cer = .ok peer)
      (he : expected.all (Identity.same · peer.host)) :
    Next site expected n (.introduced i) (.event (.acceptedCer stream cer))
      [.listen ⟨n + 1, stream⟩, .showPhase .waitReturns] (n + 1)
      (.electing i ⟨⟨n + 1, stream⟩, site.node.cea cer .success, peer⟩
        (wonElection site.node.host peer.host))
  | turnAway {n i stream cer e d} (hl : (site.node.errorCea cer e).checkLength = .ok ()) :
    Next site expected n (.alone i) (.event (.acceptedCer stream cer))
      [.listen ⟨n + 1, stream⟩] (n + 1)
      (.turningAway i ⟨n + 1, stream⟩ (site.node.errorCea cer e) e d)
  | turnAwayUnanswered {n i stream cer} :
    Next site expected n (.alone i) (.event (.acceptedCer stream cer))
      [.listen ⟨n + 1, stream⟩, .hangUp ⟨n + 1, stream⟩] (n + 1) (.alone i)
  | turnedAway {n i link cea e d result} :
    Next site expected n (.turningAway i link cea e d) (.written result) [.hangUp link] n
      (.alone i)
  | undialed {n x text d} (hl : x.cea.checkLength = .ok ()) :
    Next site expected n (.dialing (some x)) (.event (.dialFailed text)) [] n
      (.accepting .waitConnAckElect x d)
  | courtLost {n x e} :
    Next site expected n (.dialing (some x)) (.event (.disconnected x.link.id e))
      [.hangUp x.link, .showPhase .waitConnAck] n (.dialing none)
  | win {n i x called d} (hl : x.cea.checkLength = .ok ()) :
    Next site expected n (.electing i x called) (.event .wonElection) [.hangUp i] n
      (.accepting .waitReturns x d)
  | ownLost {n i x e d} (hl : x.cea.checkLength = .ok ()) :
    Next site expected n (.electing i x false) (.event (.disconnected i.id e)) [.hangUp i] n
      (.accepting .waitReturns x d)
  | rivalLost {n i x e} :
    Next site expected n (.electing i x false) (.event (.disconnected x.link.id e))
      [.hangUp x.link, .showPhase .waitICea] n (.introduced i)
  | confirm {n i cea peer} (hc : cea.isCea) (hp : site.node.acceptCea cea = .ok peer)
      (he : expected.all (Identity.same · peer.host)) :
    Next site expected n (.introduced i) (.event (.received i.id cea))
      [.showPeer peer, .showPhase .iOpen] n (.running false .initiator i peer none)
  | prevail {n i x cea peer} (hc : cea.isCea) (hp : site.node.acceptCea cea = .ok peer)
      (he : Identity.same x.peer.host peer.host) :
    Next site expected n (.electing i x false) (.event (.received i.id cea))
      [.hangUp x.link, .showPeer peer, .showPhase .iOpen] n
      (.running false .initiator i peer none)
  | accepted {n p x d} :
    Next site expected n (.accepting p x d) (.written none) [.showPeer x.peer, .showPhase .rOpen] n
      (.running false .responder x.link x.peer none)
  | write {n closing side link peer e m g d} (hl : m.checkLength = .ok ())
      (hg : g.IsTraffic closing) :
    Next site expected n (.running closing side link peer none) (.event e) [] n
      (.running closing side link peer (some ⟨link, m, g, d⟩))
  | written {n closing side link peer w} :
    Next site expected n (.running closing side link peer (some w)) (.written none) [] n
      (.running closing side link peer none)
  | part {n side link peer w} (hg : w.goal = .disconnect) :
    Next site expected n (.running false side link peer (some w)) (.written none)
      [.showPhase .closing] n (.running true side link peer none)
  | partAndFall {n side link peer w} (hg : w.goal = .farewell) :
    Next site expected n (.running false side link peer (some w)) (.written none)
      [.showPhase .closing, .showPhase .shutdown, .hangUp link] n (.shut (some peer) none)
  /-- Every stage may end in the shutdown, after whatever was done with streams before. -/
  | fall {n s i out n' cached} (hs : s.phase ≠ .shutdown)
      (ho : out.filter Effect.isShow = [.showPhase .shutdown]) :
    Next site expected n s i out n' (.shut s.peer? cached)
  /-- Every stage may let an event pass, save the report of a dial that it waits for. -/
  | stay {n s e} (hr : e.isReport → (s.shape expected n).dialing = false) :
    Next site expected n s (.event e) [] n s
  /-- A stream that nobody waits for is closed. -/
  | refuse {n s e stream} (hr : e.isReport → (s.shape expected n).dialing = false)
      (hs : e.stream? = some stream) :
    Next site expected n s (.event e) [.refuse stream] n s

namespace Stage

variable (expected : Option String) (n : Nat) (s : Stage)

@[simp] lemma phase_shape : (s.shape expected n).phase = s.phase := by
  rcases s with _ | _ | _ | _ | _ | _ | _ | _ | _ | ⟨_, _ | _⟩ | _ <;> rfl

@[simp] lemma identity_shape : (s.shape expected n).identity = s.peer? := by
  rcases s with _ | _ | _ | _ | _ | _ | _ | _ | _ | ⟨_, _ | _⟩ | _ <;> rfl

@[simp] lemma expectedHost_shape : (s.shape expected n).expectedHost = expected := by
  rcases s with _ | _ | _ | _ | _ | _ | _ | _ | _ | ⟨_, _ | _⟩ | _ <;> rfl

@[simp] lemma attached_shape : (s.shape expected n).attached = n := by
  rcases s with _ | _ | _ | _ | _ | _ | _ | _ | _ | ⟨_, _ | _⟩ | _ <;> rfl

variable {expected n s} in
lemma phase_of_shape {c : Connection} (h : c.shape = s.shape expected n) : c.phase = s.phase :=
  (congrArg Shape.phase h).trans (phase_shape expected n s)

/-- The shape while an event is handled that was taken out, or after the end of a write. -/
def begun : Shape := { s.shape expected n with internal := [], writing := none }

end Stage

namespace Turn

/-- A turn begins in a stage. -/
structure Begins (expected : Option String) (n : Nat) (s : Stage) (t : Turn) : Prop where
  shape : t.conn.shape = s.begun expected n
  outline : t.outline = []

/-- A turn has led to a next stage. -/
def Follows (site : Site) (expected : Option String) (n : Nat) (s : Stage) (i : Input)
    (t : Turn) : Prop :=
  ∃ out n' s', Next site expected n s i out n' s' ∧ t.conn.shape = s'.shape expected n' ∧
    t.outline = out

/-- A turn has led to a stage, with `n` streams attached, and has an outline. -/
structure Arrives (expected : Option String) (n : Nat) (s : Stage) (out : List Effect)
    (t : Turn) : Prop where
  shape : t.conn.shape = s.shape expected n
  outline : t.outline = out

/-- No event is at hand and no message on its way; nothing was shown so far. -/
structure Steady (expected : Option String) (s : Stage) (t : Turn) : Prop where
  expectedHost : t.conn.expectedHost = expected
  identity : t.conn.identity = s.peer?
  internal : t.conn.internal = []
  writing : t.conn.writing = none
  phase : t.conn.phase ≠ .shutdown
  outline : t.outline.filter Effect.isShow = []

variable {site : Site} {expected : Option String} {n : Nat} {s : Stage} {i : Input} {t u : Turn}

lemma Arrives.follows {out : List Effect} {n' : Nat} {s' : Stage}
    (h : t.Arrives expected n' s' out) (hn : Next site expected n s i out n' s') :
    t.Follows site expected n s i :=
  ⟨out, n', s', hn, h.shape, h.outline⟩

lemma Begins.phase (h : t.Begins expected n s) : t.conn.phase = s.phase :=
  (congrArg Shape.phase h.shape).trans (Stage.phase_shape expected n s)

lemma Begins.expectedHost (h : t.Begins expected n s) : t.conn.expectedHost = expected :=
  (congrArg Shape.expectedHost h.shape).trans (Stage.expectedHost_shape expected n s)

lemma Begins.attached (h : t.Begins expected n s) : t.conn.attached = n :=
  (congrArg Shape.attached h.shape).trans (Stage.attached_shape expected n s)

lemma Begins.steady (h : t.Begins expected n s) (hs : s.phase ≠ .shutdown) :
    t.Steady expected s where
  expectedHost := h.expectedHost
  identity := (congrArg Shape.identity h.shape).trans (Stage.identity_shape expected n s)
  internal := congrArg Shape.internal h.shape
  writing := congrArg Shape.writing h.shape
  phase := h.phase ▸ hs
  outline := by rw [h.outline]; rfl

lemma Begins.congr (h : t.Begins expected n s) (hs : u.conn.shape = t.conn.shape)
    (ho : u.outline = t.outline) : u.Begins expected n s :=
  ⟨hs.trans h.shape, ho.trans h.outline⟩

lemma Steady.congr (h : t.Steady expected s) (hs : u.conn.shape = t.conn.shape)
    (ho : u.outline = t.outline) : u.Steady expected s where
  expectedHost := (congrArg Shape.expectedHost hs).trans h.expectedHost
  identity := (congrArg Shape.identity hs).trans h.identity
  internal := (congrArg Shape.internal hs).trans h.internal
  writing := (congrArg Shape.writing hs).trans h.writing
  phase := by
    have hp : u.conn.phase = t.conn.phase := congrArg Shape.phase hs
    rw [hp]
    exact h.phase
  outline := by rw [ho]; exact h.outline

lemma Steady.report (h : t.Steady expected s) (e : Failure) : (t.report e).Steady expected s :=
  h.congr rfl (outline_report t e)

lemma filter_isShow_fall (x : Shape) :
    x.fall.filter Effect.isShow = [.showPhase .shutdown] := by
  cases hd : x.dialing <;> cases hi : x.initiator <;> cases hr : x.responder <;>
    simp only [Shape.fall, Shape.releases, hd, hi, hr] <;> rfl

lemma Steady.follows_fallen (h : u.Steady expected s) (hs : s.phase ≠ .shutdown)
    (hc : t.conn.shape = u.conn.shape.fallen) (ho : t.outline = u.outline ++ u.conn.shape.fall) :
    t.Follows site expected n s i := by
  refine ⟨t.outline, u.conn.attached, .shut s.peer? u.conn.cachedPeer, .fall hs ?_, ?_, rfl⟩
  · rw [ho, List.filter_append, h.outline, filter_isShow_fall]
    rfl
  · have hi := h.internal
    have hw := h.writing
    have hp := h.identity
    have he := h.expectedHost
    rw [hc]
    simp [Connection.shape, Shape.fallen, Stage.shape, Stage.phase, Stage.peer?, hi, hw, hp, he]

lemma Steady.follows_transition (h : u.Steady expected s) (hs : s.phase ≠ .shutdown) :
    (u.transition site .shutdown).Follows site expected n s i :=
  h.follows_fallen hs (shape_transition_shutdown site u h.phase)
    (outline_transition_shutdown site u h.phase)

lemma Steady.follows_giveUp (h : u.Steady expected s) (hs : s.phase ≠ .shutdown) (e : Failure) :
    (u.giveUp site e).Follows site expected n s i :=
  h.follows_fallen hs (shape_giveUp site u e h.phase) (outline_giveUp site u e h.phase)

lemma Steady.follows_write (h : u.Steady expected s) (hs : s.phase ≠ .shutdown) (side : Side)
    {link : Link} (hl : u.conn.link? side = some link) {m : Message} {g : Goal}
    (hg : ∀ l e, g ≠ .turnAway l e)
    (hok : ∀ d, m.checkLength = .ok () →
      ({ u with conn.writing := some ⟨link, m, g, d⟩ } : Turn).Follows site expected n s i) :
    (u.write site side m g).Follows site expected n s i := by
  rw [write_of_link site u hl]
  rcases writeOn_cases site u link m g with ⟨hm, he⟩ | ⟨e, hm, he⟩
  · rw [he]; exact hok _ hm
  · obtain ⟨hc, ho⟩ := settle_failed site u hg m e h.phase
    rw [he]
    exact h.follows_fallen hs hc ho

lemma Begins.follows_stay (h : t.Begins expected n s)
    (hs : s.begun expected n = s.shape expected n) {e : Event}
    (hr : e.isReport → (s.shape expected n).dialing = false)
    (hc : u.conn.shape = t.conn.shape) (ho : u.outline = t.outline) :
    u.Follows site expected n s (.event e) :=
  ⟨[], n, s, .stay hr, hc.trans (h.shape.trans hs), ho.trans h.outline⟩

lemma Begins.follows_refuse (h : t.Begins expected n s)
    (hs : s.begun expected n = s.shape expected n) {e : Event} {stream : Nat}
    (hr : e.isReport → (s.shape expected n).dialing = false) (he : e.stream? = some stream)
    (hc : u.conn.shape = t.conn.shape) (ho : u.outline = t.outline) :
    (u.emit (.refuse stream)).Follows site expected n s (.event e) := by
  refine ⟨_, n, s, .refuse hr he, hc.trans (h.shape.trans hs), ?_⟩
  rw [outline_emit, ho, h.outline]
  rfl

/-! ### Alarms of requests and of the watchdog -/

lemma onExchangeTimeout_follows (h : t.Begins expected n s)
    (hs : s.begun expected n = s.shape expected n) (hopByHop : UInt32) :
    (t.onExchangeTimeout site hopByHop).Follows site expected n s
      (.event (.exchangeTimeout hopByHop)) := by
  have hk : (t.onExchangeTimeout site hopByHop).conn.shape = t.conn.shape ∧
      (t.onExchangeTimeout site hopByHop).outline = t.outline := by
    unfold onExchangeTimeout
    split
    · exact ⟨rfl, rfl⟩
    · exact ⟨rfl, by rw [outline_note, outline_complete]⟩
  exact h.follows_stay hs (by simp [Event.isReport]) hk.1 hk.2

lemma onWatchdogReply_follows (h : t.Begins expected n s)
    (hs : s.begun expected n = s.shape expected n) (hd : s.phase ≠ .shutdown)
    (hopByHop : UInt32) :
    (t.onWatchdogReply site hopByHop).Follows site expected n s
      (.event (.watchdogReply hopByHop)) := by
  by_cases hc : t.conn.outstanding = some hopByHop
  · let v : Turn := { t with conn.outstanding := none, conn.failures := t.conn.failures + 1 }
    have hv : v.Begins expected n s := h.congr rfl rfl
    have hr : t.onWatchdogReply site hopByHop =
        if t.conn.failures + 1 ≥ site.settings.watchdogLimit then
          v.giveUp site (.watchdogExpired (t.conn.failures + 1))
        else v.armIdle site := by
      rw [onWatchdogReply, if_neg (not_not_intro hc)]
    rw [hr]
    split
    · exact (hv.steady hd).follows_giveUp hd _
    · exact h.follows_stay hs (by simp [Event.isReport]) rfl rfl
  · rw [onWatchdogReply, if_pos hc]
    exact h.follows_stay hs (by simp [Event.isReport]) rfl rfl

end Turn

end Diameter
