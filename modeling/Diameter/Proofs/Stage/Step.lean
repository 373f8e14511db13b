import Diameter.Proofs.Stage.Running
import Diameter.Proofs.Stage.Waiting

/-!
Every turn of a connection leads from a stage to a next one.

A connection is given the end of the write that is under way, or else an event: one of its own
that goes before all others, or any event from outside. Main statement: `Takes.follows`.
-/

namespace Diameter

namespace Connection

/-- What a connection may take next. Events of its own go before those from outside, and none is
taken during a write or after the shutdown. -/
inductive Takes (c : Connection) : Input → Prop
  | written {w : Writing} (hw : c.writing = some w) (result : Option Failure) :
    c.Takes (.written result)
  | internal {e : Event} {rest : List Event} (ha : c.Accepts (.event e))
      (hi : c.internal = e :: rest) : c.Takes (.event e)
  | queued {e : Event} (ha : c.Accepts (.event e)) (hi : c.internal = []) : c.Takes (.event e)

/-- The connection once it has taken an input: an event of its own is no longer at hand. -/
def without (c : Connection) : Input → Connection
  | .event _ => { c with internal := c.internal.tail }
  | .written _ => c

lemma without_of_internal {c : Connection} {rest : List Event} (h : c.internal.tail = rest)
    (e : Event) : c.without (.event e) = { c with internal := rest } := by
  rw [← h]
  rfl

lemma shape_without (c : Connection) (i : Input) :
    (c.without i).shape = { c.shape with internal := (c.without i).internal } := by
  cases i <;> rfl

end Connection

/-- What a connection is begun with. -/
def Event.IsOpening : Event → Prop
  | .start | .accepted _ | .acceptedCer _ _ => True
  | _ => False

namespace Stage

/-- What is known of a stage beyond its shape. -/
def Sound : Stage → Prop
  | closed first => first.IsOpening
  | accepting source _ _ =>
    source ∈ [Phase.closed, Phase.waitCer, Phase.waitConnAckElect, Phase.waitReturns]
  | rejecting source _ _ _ _ => source ∈ [Phase.closed, Phase.waitCer]
  | running closing _ link _ (some w) => w.link = link ∧ w.goal.IsTraffic closing
  | _ => True

lemma tail_internal (s : Stage) (expected : Option String) (n : Nat) :
    (s.shape expected n).internal.tail = [] := by
  rcases s with _ | _ | _ | _ | _ | ⟨_, _, _ | _⟩ | _ | _ | _ | ⟨_, _ | _⟩ | _ <;> rfl

lemma sound_alone (i : Option Link) : (alone i).Sound := by cases i <;> trivial

lemma mem_internal {s : Stage} {expected : Option String} {n : Nat} {e : Event}
    (he : e ∈ (s.shape expected n).internal) :
    s = .closed e ∨ ∃ i x, s = .electing i x true ∧ e = .wonElection := by
  rcases s with first | _ | _ | _ | _ | ⟨i, x, _ | _⟩ | _ | _ | _ | ⟨_, _ | _⟩ | _ <;>
    simp_all [Stage.shape]

lemma eq_late {s : Stage} (hs : s.Sound) (hp : s.phase = .closing ∨ s.phase = .shutdown) :
    (∃ side link peer w, s = .running true side link peer w) ∨
      ∃ peer cached, s = .shut peer cached := by
  cases s with
  | shut peer cached => exact .inr ⟨peer, cached, rfl⟩
  | running closing side link peer w =>
    cases closing with
    | true => exact .inl ⟨side, link, peer, w, rfl⟩
    | false => cases side <;> exact absurd hp (by simp [phase])
  | accepting p x d => rcases hp with rfl | rfl <;> exact absurd hs (by simp [Sound])
  | rejecting p r cea e d => rcases hp with rfl | rfl <;> exact absurd hs (by simp [Sound])
  | dialing rival => cases rival <;> exact absurd hp (by simp [phase])
  | introducing i rival cer d => cases rival <;> exact absurd hp (by simp [phase])
  | turningAway i link cea e d => cases i <;> exact absurd hp (by simp [phase])
  | _ => exact absurd hp (by simp [phase])

lemma eq_parting {s : Stage} (hs : s.Sound) (hp : s.phase = .closing) :
    ∃ side link peer w, s = .running true side link peer w := by
  rcases eq_late hs (.inl hp) with h | ⟨_, _, rfl⟩
  · exact h
  · exact absurd hp (by simp [phase])

lemma eq_shut {s : Stage} (hs : s.Sound) (hp : s.phase = .shutdown) :
    ∃ peer cached, s = .shut peer cached := by
  rcases eq_late hs (.inr hp) with ⟨_, _, _, _, rfl⟩ | h
  · exact absurd hp (by simp [phase])
  · exact h

end Stage

lemma Next.sound {site : Site} {expected : Option String} {n n' : Nat} {s s' : Stage} {i : Input}
    {out : List Effect} (h : Next site expected n s i out n' s') (hs : s.Sound) : s'.Sound := by
  cases h with
  | acceptFirst | acceptAwaited | undialed | win | ownLost => simp [Stage.Sound]
  | rejectFirst | rejectAwaited => simp [Stage.Sound]
  | write hl hg => exact ⟨rfl, hg⟩
  | turnAwayUnanswered | stay => exact hs
  | turnedAway => exact Stage.sound_alone _
  | _ => trivial

namespace Turn

variable {site : Site} {expected : Option String} {n : Nat} {s : Stage} {t : Turn}

/-! ### Events -/

lemma handle_follows_waiting (h : t.Begins expected n s) (hs : s.IsWaiting) (e : Event) :
    (t.handle site e).Follows site expected n s (.event e) := by
  have stay : e.isReport = false → t.Follows site expected n s (.event e) := fun he =>
    h.follows_waiting hs he rfl rfl
  cases e with
  | start => exact onStart_follows_waiting h hs
  | dialed stream => exact (onDial_follows_waiting h hs stream "").1
  | dialFailed text => exact (onDial_follows_waiting h hs 0 text).2
  | accepted stream => exact onAccepted_follows_waiting h hs stream
  | acceptedCer stream cer => exact onAcceptedCer_follows_waiting h hs stream cer
  | received l m =>
    simp only [handle]
    split
    · obtain ⟨k, hk, rfl⟩ := Connection.link?_of_sideOf? ‹_›
      exact onReceived_follows_waiting h hs hk m
    · exact stay rfl
  | receivedInvalid l x e =>
    simp only [handle]
    split
    · obtain ⟨k, hk, rfl⟩ := Connection.link?_of_sideOf? ‹_›
      exact onReceivedInvalid_follows_waiting h hs hk x e
    · exact stay rfl
  | disconnected l e =>
    simp only [handle]
    split
    · obtain ⟨k, hk, rfl⟩ := Connection.link?_of_sideOf? ‹_›
      exact onDisconnected_follows_waiting h hs hk e
    · exact stay rfl
  | wonElection => exact onWonElection_follows_waiting h hs
  | send waiter request => exact onSend_follows_waiting h hs waiter request
  | handled l answer => exact onHandled_follows_waiting h hs l answer
  | stop waiter cause => exact onStop_follows_waiting h hs waiter cause
  | watchdogIdle generation => exact onWatchdogIdle_follows_waiting h hs generation
  | watchdogReply hopByHop =>
    exact onWatchdogReply_follows h (hs.begun expected n) (h.phase_ne_waiting hs).2.2 hopByHop
  | exchangeTimeout hopByHop => exact onExchangeTimeout_follows h (hs.begun expected n) hopByHop
  | closeTimeout => exact onCloseTimeout_follows_waiting h hs

lemma handle_follows_running {closing : Bool} {side : Side} {link : Link} {peer : PeerIdentity}
    (h : t.Begins expected n (.running closing side link peer none)) (e : Event) :
    (t.handle site e).Follows site expected n (.running closing side link peer none)
      (.event e) := by
  have hb : (Stage.running closing side link peer none).begun expected n =
      (Stage.running closing side link peer none).shape expected n := by cases side <;> rfl
  have hd : e.isReport →
      ((Stage.running closing side link peer none).shape expected n).dialing = false := by
    cases side <;> exact fun _ => rfl
  have hp := h.phase
  have stay : t.Follows site expected n (.running closing side link peer none) (.event e) :=
    h.follows_stay hb hd rfl rfl
  have complain : ∀ event, (t.notAcceptable event).Follows site expected n
      (.running closing side link peer none) (.event e) := fun event =>
    h.follows_stay hb hd rfl (outline_notAcceptable t _)
  have hside : ∀ {l side'}, t.conn.sideOf? l = some side' → side' = side ∧ link.id = l := by
    intro l side' hl
    obtain ⟨k, hk, rfl⟩ := Connection.link?_of_sideOf? hl
    have hi : t.conn.initiator = _ := congrArg Shape.initiator h.shape
    have hr : t.conn.responder = _ := congrArg Shape.responder h.shape
    cases side <;> cases side' <;>
      simp_all [Connection.link?, Stage.begun, Stage.shape]
  cases e with
  -- this end dials no more, and takes no further stream
  | start =>
    have hr : t.onStart site = t.notAcceptable "Start" := by
      cases closing <;> cases side <;> simp [onStart, hp, Stage.phase]
    exact (congrArg (Follows site expected n _ _) hr).mpr (complain _)
  | dialed stream =>
    refine (onDialed_follows_undialed h hb ?_ ?_ stream "").1
    · cases closing <;> cases side <;> simp [hp, Stage.phase]
    · cases side <;> exact congrArg Shape.dialing h.shape
  | dialFailed text =>
    refine (onDialed_follows_undialed h hb ?_ ?_ 0 text).2
    · cases closing <;> cases side <;> simp [hp, Stage.phase]
    · cases side <;> exact congrArg Shape.dialing h.shape
  | accepted stream =>
    have hr : t.onAccepted site stream =
        (t.notAcceptable "R-Conn-Accepted").emit (.refuse stream) := by
      cases closing <;> cases side <;> simp [onAccepted, hp, Stage.phase]
    exact (congrArg (Follows site expected n _ _) hr).mpr
      (h.follows_refuse hb hd rfl rfl (outline_notAcceptable t _))
  | acceptedCer stream cer =>
    have hr : t.onAcceptedCer site stream cer = t.emit (.refuse stream) := by
      cases closing <;> cases side <;> simp [onAcceptedCer, hp, Stage.phase]
    exact (congrArg (Follows site expected n _ _) hr).mpr (h.follows_refuse hb hd rfl rfl rfl)
  | received l m =>
    simp only [handle]
    split
    · -- only the one stream is attached
      obtain ⟨rfl, rfl⟩ := hside ‹_›
      exact onReceived_follows_running h m
    · exact stay
  | receivedInvalid l x e =>
    simp only [handle]
    split
    · obtain ⟨rfl, rfl⟩ := hside ‹_›
      exact onReceivedInvalid_follows_running h x e
    · exact stay
  | disconnected l e =>
    simp only [handle]
    split
    · obtain ⟨rfl, rfl⟩ := hside ‹_›
      exact onDisconnected_follows_running h e
    · exact stay
  | wonElection =>
    have hr : t.onWonElection site = t.notAcceptable "Win-Election" := by
      cases closing <;> cases side <;> simp [onWonElection, hp, Stage.phase]
    exact (congrArg (Follows site expected n _ _) hr).mpr (complain _)
  | send waiter request => exact onSend_follows_running h waiter request
  | handled l answer => exact onHandled_follows_running h l answer
  | stop waiter cause => exact onStop_follows_running h waiter cause
  | watchdogIdle generation => exact onWatchdogIdle_follows_running h generation
  | watchdogReply hopByHop =>
    exact onWatchdogReply_follows h hb (phase_running_ne_shutdown _) hopByHop
  | exchangeTimeout hopByHop => exact onExchangeTimeout_follows h hb hopByHop
  | closeTimeout => exact onCloseTimeout_follows_running h

end Turn

/-! ### Every turn -/

variable {site : Site} {expected : Option String} {n : Nat} {s : Stage}

lemma Connection.Takes.begins {c : Connection} {e : Event} (ht : c.Takes (.event e))
    (hc : c.shape = s.shape expected n) (now serial : Nat) (ids : Identifiers) :
    ({ now, serial, ids, conn := c.without (.event e) } : Turn).Begins expected n s := by
  have hw : (s.shape expected n).writing = none := by
    rw [← hc]
    cases ht with
    | internal ha _ => exact ha.2
    | queued ha _ => exact ha.2
  have hi : c.internal.tail = [] := by
    rw [← s.tail_internal expected n, ← hc]
    rfl
  refine ⟨?_, rfl⟩
  rw [without_of_internal hi, Stage.begun, ← hw, ← hc]
  rfl

lemma begins_written {c : Connection} (hc : c.shape = s.shape expected n)
    (hi : (s.shape expected n).internal = []) (now serial : Nat) (ids : Identifiers) :
    ({ now, serial, ids, conn := { c with writing := none } } : Turn).Begins expected n s := by
  refine ⟨?_, rfl⟩
  rw [Stage.begun, ← hi, ← hc]
  rfl

lemma step_written {c : Connection} {w : Writing} (hw : c.writing = some w)
    (now serial : Nat) (ids : Identifiers) (result : Option Failure) :
    (c.without (.written result)).step site now serial ids (.written result) =
      ({ now, serial, ids, conn := { c with writing := none } } : Turn).settle site w.goal w.message
        result := by
  simp [Connection.step, Turn.written, Connection.without, hw]

lemma follows_written {c : Connection} {w : Writing} (hw : c.writing = some w)
    (hc : c.shape = s.shape expected n) (hs : s.Sound) (now serial : Nat) (ids : Identifiers)
    (result : Option Failure) :
    ((c.without (.written result)).step site now serial ids (.written result)).Follows site
      expected n s (.written result) := by
  let t : Turn := { now, serial, ids, conn := { c with writing := none } }
  have hws : (s.shape expected n).writing = some w := (congrArg Shape.writing hc).symm.trans hw
  have hb : (s.shape expected n).internal = [] → t.Begins expected n s := fun hi =>
    begins_written hc hi now serial ids
  rw [step_written hw]
  cases s with
  | introducing i rival cer d =>
    obtain rfl : _ = w := Option.some.inj hws
    cases result with
    | none => exact Turn.settle_introduce_follows (hb rfl)
    | some f =>
      have hst := (hb rfl).steady (by cases rival <;> simp [Stage.phase])
      obtain ⟨hf, ho⟩ := Turn.settle_failed site t (g := .introduce rival.isSome) (by simp) cer
        f hst.phase
      exact hst.follows_fallen (by cases rival <;> simp [Stage.phase]) hf ho
  | turningAway i link cea e d =>
    obtain rfl : _ = w := Option.some.inj hws
    exact Turn.settle_turnAway_follows (hb rfl)
  | accepting p x d =>
    obtain rfl : _ = w := Option.some.inj hws
    have hp : p ≠ .rOpen ∧ p ≠ .shutdown := by
      simp only [Stage.Sound, List.mem_cons, List.not_mem_nil, or_false] at hs
      rcases hs with rfl | rfl | rfl | rfl <;> decide
    cases result with
    | none => exact (Turn.settle_accept_arrives hp.1 (hb rfl)).follows .accepted
    | some f =>
      have hst := (hb rfl).steady hp.2
      obtain ⟨hf, ho⟩ := Turn.settle_failed site t (g := .accept x.peer) (by simp) x.cea
        f hst.phase
      exact hst.follows_fallen hp.2 hf ho
  | rejecting p r cea e d =>
    obtain rfl : _ = w := Option.some.inj hws
    have hp : p ≠ .shutdown := by
      simp only [Stage.Sound, List.mem_cons, List.not_mem_nil, or_false] at hs
      rcases hs with rfl | rfl <;> decide
    exact Turn.settle_reject_follows hp (hb rfl)
  | running closing side link peer v =>
    obtain rfl : v = some w := by cases side <;> exact hws
    exact Turn.settle_follows_running (hb (by cases side <;> rfl)) hs.2 result
  | closed | dialing | introduced | electing | awaitingCer | shut =>
    exact absurd hws (by simp [Stage.shape])

lemma follows_internal {t : Turn} {e : Event} (hb : t.Begins expected n s)
    (hi : e ∈ (s.shape expected n).internal) (hs : s.Sound) :
    (t.handle site e).Follows site expected n s (.event e) := by
  rcases Stage.mem_internal hi with rfl | ⟨i, x, rfl, rfl⟩
  · cases e with
    | start => exact Turn.onStart_follows hb
    | accepted stream => exact Turn.onAccepted_follows hb
    | acceptedCer stream cer => exact Turn.onAcceptedCer_follows_closed hb
    | _ => exact hs.elim
  · exact Turn.onWonElection_follows hb

lemma follows_queued {t : Turn} (hb : t.Begins expected n s) (hp : s.phase ≠ .shutdown)
    (hi : (s.shape expected n).internal = []) (hw : (s.shape expected n).writing = none)
    (e : Event) : (t.handle site e).Follows site expected n s (.event e) := by
  cases s with
  | dialing | introduced | awaitingCer => exact Turn.handle_follows_waiting hb trivial e
  | electing i x called =>
    cases called with
    | false => exact Turn.handle_follows_waiting hb trivial e
    | true => exact absurd hi (by simp [Stage.shape])
  | running closing side link peer v =>
    obtain rfl : v = none := by cases side <;> exact hw
    exact Turn.handle_follows_running hb e
  | shut => exact absurd rfl hp
  | closed => exact absurd hi (by simp [Stage.shape])
  | introducing | turningAway | accepting | rejecting =>
    exact absurd hw (by simp [Stage.shape])

/-- **From stage to stage.** Whatever a connection in a stage takes, the turn leads to a next
stage. -/
theorem Connection.Takes.follows {c : Connection} {i : Input} (ht : c.Takes i)
    (hc : c.shape = s.shape expected n) (hs : s.Sound) (now serial : Nat) (ids : Identifiers) :
    ((c.without i).step site now serial ids i).Follows site expected n s i := by
  cases ht with
  | written hw result => exact follows_written hw hc hs now serial ids result
  | @internal e rest ha hi =>
    have hb := (Takes.internal ha hi).begins hc now serial ids
    refine follows_internal hb ?_ hs
    rw [← hc, show c.shape.internal = _ from hi]
    exact List.mem_cons_self
  | @queued e ha hi =>
    have hb := (Takes.queued ha hi).begins hc now serial ids
    refine follows_queued hb ?_ ?_ ?_ e
    · rw [← Stage.phase_shape expected n s, ← hc]
      exact ha.1
    · exact (congrArg Shape.internal hc).symm.trans hi
    · exact (congrArg Shape.writing hc).symm.trans ha.2

end Diameter
