import Diameter.Proofs.Stage.Election

/-!
Where the turns of a connection lead that waits on its way to an open stream: for the outcome
of a dial, for a message of the capabilities exchange, or for the end of an election.
-/

namespace Diameter

namespace Stage

/-- A connection on its way to be opened that has nothing to do. -/
def IsWaiting : Stage → Prop
  | dialing _ | introduced _ | electing _ _ false | awaitingCer _ => True
  | _ => False

lemma IsWaiting.begun {s : Stage} (h : s.IsWaiting) (expected : Option String) (n : Nat) :
    s.begun expected n = s.shape expected n := by
  rcases s with _ | _ | _ | _ | _ | ⟨_, _, _ | _⟩ | _ | _ | _ | _ | _ <;> first | rfl | exact h.elim

lemma IsWaiting.phase_mem {s : Stage} (h : s.IsWaiting) :
    s.phase ∈ [Phase.waitConnAck, Phase.waitConnAckElect, Phase.waitICea, Phase.waitReturns,
      Phase.waitCer] := by
  rcases s with _ | ⟨_ | _⟩ | _ | _ | _ | _ | _ | _ | _ | _ | _ <;>
    first | exact h.elim | simp [Stage.phase]

end Stage

namespace Turn

variable {site : Site} {expected : Option String} {n : Nat} {s : Stage} {t u : Turn}

/-! ### Events that mean nothing on the way to an open stream -/

section

variable (h : t.Begins expected n s) (hs : s.IsWaiting)

include h hs

lemma Begins.follows_waiting {e : Event} (he : e.isReport = false)
    (hc : u.conn.shape = t.conn.shape) (ho : u.outline = t.outline) :
    u.Follows site expected n s (.event e) :=
  h.follows_stay (hs.begun expected n) (by simp [he]) hc ho

lemma Begins.phase_mem :
    t.conn.phase ∈ [Phase.waitConnAck, Phase.waitConnAckElect, Phase.waitICea, Phase.waitReturns,
      Phase.waitCer] := h.phase ▸ hs.phase_mem

lemma Begins.activeSide?_waiting : t.conn.activeSide? = none := by
  have hm := h.phase_mem hs
  simp only [List.mem_cons, List.not_mem_nil, or_false] at hm
  rcases hm with hp | hp | hp | hp | hp <;> simp [Connection.activeSide?, hp]

lemma Begins.isOpen_waiting : t.conn.phase.isOpen = false := by
  have hm := h.phase_mem hs
  simp only [List.mem_cons, List.not_mem_nil, or_false] at hm
  rcases hm with hp | hp | hp | hp | hp <;> simp [hp, Phase.isOpen]

lemma Begins.phase_ne_waiting :
    t.conn.phase ≠ .closed ∧ t.conn.phase ≠ .closing ∧ s.phase ≠ .shutdown := by
  have hm := h.phase_mem hs
  rw [← h.phase]
  simp only [List.mem_cons, List.not_mem_nil, or_false] at hm
  rcases hm with hp | hp | hp | hp | hp <;> simp [hp]

lemma onStart_follows_waiting : (t.onStart site).Follows site expected n s (.event .start) := by
  rw [onStart, if_pos (h.phase_ne_waiting hs).1]
  exact h.follows_waiting hs rfl rfl (outline_notAcceptable t _)

lemma onAccepted_follows_waiting (stream : Nat) :
    (t.onAccepted site stream).Follows site expected n s (.event (.accepted stream)) := by
  rw [onAccepted, if_pos (h.phase_ne_waiting hs).1]
  exact h.follows_refuse (hs.begun expected n) (by simp [Event.isReport]) rfl rfl
    (outline_notAcceptable t _)

lemma onSend_follows_waiting (waiter : Nat) (request : Message) :
    (t.onSend site waiter request).Follows site expected n s
      (.event (.send waiter request)) := by
  have hr : t.onSend site waiter request = t.refuseToSend site waiter request := by
    simp [onSend, h.activeSide?_waiting hs]
  rw [hr]
  exact h.follows_waiting hs rfl rfl (outline_refuseToSend site t waiter request)

lemma onHandled_follows_waiting (l : Nat) (answer : Message) :
    (t.onHandled site l answer).Follows site expected n s (.event (.handled l answer)) := by
  have hr : t.onHandled site l answer = t := by simp [onHandled, h.activeSide?_waiting hs]
  rw [hr]
  exact h.follows_waiting hs rfl rfl rfl

lemma onStop_follows_waiting (waiter : Nat) (cause : DisconnectCause) :
    (t.onStop site waiter cause).Follows site expected n s (.event (.stop waiter cause)) := by
  let v : Turn := { t with conn.stoppers := t.conn.stoppers ++ [waiter] }
  have hr : t.onStop site waiter cause = v.transition site .shutdown := by
    have hm := h.phase_mem hs
    simp only [List.mem_cons, List.not_mem_nil, or_false] at hm
    rcases hm with hp | hp | hp | hp | hp <;> simp [onStop, hp, v]
  have hv : v.Begins expected n s := h.congr rfl rfl
  have hsd := (h.phase_ne_waiting hs).2.2
  rw [hr]
  exact (hv.steady hsd).follows_transition hsd

lemma onWatchdogIdle_follows_waiting (generation : Nat) :
    (t.onWatchdogIdle site generation).Follows site expected n s
      (.event (.watchdogIdle generation)) := by
  have hr : t.onWatchdogIdle site generation = t := by
    simp [onWatchdogIdle, h.isOpen_waiting hs]
  rw [hr]
  exact h.follows_waiting hs rfl rfl rfl

lemma onCloseTimeout_follows_waiting :
    (t.onCloseTimeout site).Follows site expected n s (.event .closeTimeout) := by
  rw [onCloseTimeout, if_neg (h.phase_ne_waiting hs).2.1]
  exact h.follows_waiting hs rfl rfl rfl

end

/-! ### Streams of a connection that waits -/

lemma Begins.waiting_link? (h : t.Begins expected n s) (hs : s.IsWaiting) {side : Side} {k : Link}
    (hk : t.conn.link? side = some k) :
    (∃ x, s = .dialing (some x) ∧ side = .responder ∧ k = x.link) ∨
      (s = .introduced k ∧ side = .initiator) ∨
      (∃ x, s = .electing k x false ∧ side = .initiator) ∨
      (∃ i x, s = .electing i x false ∧ side = .responder ∧ k = x.link) ∨
      (s = .awaitingCer k ∧ side = .responder) := by
  have hi : t.conn.initiator = (s.begun expected n).initiator := congrArg Shape.initiator h.shape
  have hr : t.conn.responder = (s.begun expected n).responder := congrArg Shape.responder h.shape
  rcases s with _ | ⟨_ | x⟩ | _ | i | _ | ⟨i, x, _ | _⟩ | r | _ | _ | _ | _ <;>
    first | exact hs.elim | (cases side <;> simp_all [Connection.link?, Stage.begun, Stage.shape])

lemma onReceived_follows_waiting (h : t.Begins expected n s) (hs : s.IsWaiting) {side : Side}
    {k : Link} (hk : t.conn.link? side = some k) (m : Message) :
    (t.onReceived site side k.id m).Follows site expected n s (.event (.received k.id m)) := by
  have hn : t.onReceived site side k.id m = t.notAcceptable "Rcv-Message" →
      (t.onReceived site side k.id m).Follows site expected n s (.event (.received k.id m)) := by
    intro hr
    rw [hr]
    exact h.follows_waiting hs rfl rfl (outline_notAcceptable t _)
  have hp := h.phase
  rcases h.waiting_link? hs hk with ⟨x, rfl, rfl, rfl⟩ | ⟨rfl, rfl⟩ | ⟨x, rfl, rfl⟩ |
      ⟨i, x, rfl, rfl, rfl⟩ | ⟨rfl, rfl⟩
  · -- no CEA is expected on a rival's stream
    exact hn (by simp [onReceived, hp, Stage.phase])
  · -- the CEA on the only stream
    by_cases hc : m.isCea
    · have hr : t.onReceived site .initiator k.id m = t.onCea site m := by
        simp [onReceived, hp, Stage.phase, hc]
      rw [hr]
      exact onCea_follows_introduced h hc
    · exact hn (by simp [onReceived, hp, Stage.phase, hc])
  · -- the CEA on this end's stream, with a rival's beside it
    by_cases hc : m.isCea
    · have hr : t.onReceived site .initiator k.id m = t.onCea site m := by
        simp [onReceived, hp, Stage.phase, hc]
      rw [hr]
      exact onCea_follows_electing h hc
    · exact hn (by simp [onReceived, hp, Stage.phase, hc])
  · exact hn (by simp [onReceived, hp, Stage.phase])
  · -- the CER of the peer is awaited
    exact onReceived_follows_awaitingCer h .responder m

lemma onReceivedInvalid_follows_waiting (h : t.Begins expected n s) (hs : s.IsWaiting)
    {side : Side} {k : Link} (hk : t.conn.link? side = some k) (x : Header) (e : Failure) :
    (t.onReceivedInvalid site side x e).Follows site expected n s
      (.event (.receivedInvalid k.id x e)) := by
  by_cases hw : s.phase = .waitCer
  · rcases h.waiting_link? hs hk with ⟨y, rfl, rfl, rfl⟩ | ⟨rfl, rfl⟩ | ⟨y, rfl, rfl⟩ |
        ⟨i, y, rfl, rfl, rfl⟩ | ⟨rfl, rfl⟩
    · -- in the other stages no CER is awaited
      exact absurd hw (by simp [Stage.phase])
    · exact absurd hw (by simp [Stage.phase])
    · exact absurd hw (by simp [Stage.phase])
    · exact absurd hw (by simp [Stage.phase])
    · exact onReceivedInvalid_follows_awaitingCer h x e
  · have hp : t.conn.phase ≠ .waitCer := h.phase ▸ hw
    have ha := h.activeSide?_waiting hs
    have hsd := (h.phase_ne_waiting hs).2.2
    have hb : (t.report e).Begins expected n s := h.congr rfl (outline_report t e)
    by_cases hx : x.isRequest
    · -- a request is only reported
      have hr : t.onReceivedInvalid site side x e = t.report e := by
        simp [onReceivedInvalid, hx, hp, ha]
      rw [hr]
      exact h.follows_waiting hs rfl rfl (outline_report t e)
    · -- an answer that looks like the CEA awaited ends it
      simp only [onReceivedInvalid, hx, ha, Bool.false_eq_true, if_false, reduceCtorEq]
      split
      · exact (hb.steady hsd).follows_transition hsd
      · exact h.follows_waiting hs rfl rfl (outline_report t e)

lemma onDisconnected_follows_waiting (h : t.Begins expected n s) (hs : s.IsWaiting)
    {side : Side} {k : Link} (hk : t.conn.link? side = some k) (e : Failure) :
    (t.onDisconnected site side e).Follows site expected n s
      (.event (.disconnected k.id e)) := by
  have hp := h.phase
  have hsd := (h.phase_ne_waiting hs).2.2
  rcases h.waiting_link? hs hk with ⟨x, rfl, rfl, rfl⟩ | ⟨rfl, rfl⟩ | ⟨x, rfl, rfl⟩ |
      ⟨i, x, rfl, rfl, rfl⟩ | ⟨rfl, rfl⟩
  · exact onDisconnected_follows_dialing h e
  · have hr : t.onDisconnected site .initiator e = t.giveUp site (endOfStream e) := by
      simp [onDisconnected, hp, Stage.phase]
    rw [hr]
    exact (h.steady hsd).follows_giveUp hsd _
  · exact (onDisconnected_follows_electing h e).1
  · exact (onDisconnected_follows_electing h e).2
  · have hr : t.onDisconnected site .responder e = t.giveUp site (endOfStream e) := by
      simp [onDisconnected, hp, Stage.phase]
    rw [hr]
    exact (h.steady hsd).follows_giveUp hsd _

/-! ### The dial and further streams -/

lemma onAcceptedCer_follows_waiting (h : t.Begins expected n s) (hs : s.IsWaiting) (stream : Nat)
    (cer : Message) :
    (t.onAcceptedCer site stream cer).Follows site expected n s
      (.event (.acceptedCer stream cer)) := by
  have hp := h.phase
  have hn : t.onAcceptedCer site stream cer = t.emit (.refuse stream) →
      (t.onAcceptedCer site stream cer).Follows site expected n s
        (.event (.acceptedCer stream cer)) := by
    intro hr
    rw [hr]
    exact h.follows_refuse (hs.begun expected n) (by simp [Event.isReport]) rfl rfl rfl
  rcases s with _ | ⟨_ | x⟩ | _ | i | _ | ⟨i, x, _ | _⟩ | r | _ | _ | _ | _ <;>
    try exact hs.elim
  · -- dialing, with no rival yet
    have hr : t.onAcceptedCer site stream cer = t.electIncoming site stream cer := by
      simp [onAcceptedCer, hp, Stage.phase]
    rw [hr]
    exact electIncoming_follows (i := none) h stream cer
  · exact hn (by simp [onAcceptedCer, hp, Stage.phase])
  · -- introduced, with no rival yet
    have hr : t.onAcceptedCer site stream cer = t.electIncoming site stream cer := by
      simp [onAcceptedCer, hp, Stage.phase]
    rw [hr]
    exact electIncoming_follows (i := some i) h stream cer
  · exact hn (by simp [onAcceptedCer, hp, Stage.phase])
  · exact hn (by simp [onAcceptedCer, hp, Stage.phase])

lemma onDialed_follows_undialed (h : t.Begins expected n s)
    (hs : s.begun expected n = s.shape expected n)
    (hp : t.conn.phase ≠ .waitConnAck ∧ t.conn.phase ≠ .waitConnAckElect)
    (hd : t.conn.dialing = false) (stream : Nat) (text : String) :
    (t.onDialed site stream).Follows site expected n s (.event (.dialed stream)) ∧
      (t.onDialFailed site text).Follows site expected n s (.event (.dialFailed text)) := by
  let v : Turn := { t with conn.dialing := false }
  have hv : v.conn.shape = t.conn.shape := by simp [v, Connection.shape, hd]
  have hd' : (s.shape expected n).dialing = false := by
    rw [← hd, ← hs]
    exact congrArg Shape.dialing h.shape.symm
  constructor
  · have hr : t.onDialed site stream =
        (v.notAcceptable "I-Rcv-Conn-Ack").emit (.refuse stream) := by
      unfold onDialed
      dsimp only
      split
      · -- it would have to be dialing
        exact absurd ‹_› hp.1
      · exact absurd ‹_› hp.2
      · rfl
    rw [hr]
    exact h.follows_refuse hs (fun _ => hd') rfl hv (outline_notAcceptable v _)
  · have hr : t.onDialFailed site text = v.notAcceptable "I-Rcv-Conn-Nack" := by
      unfold onDialFailed
      dsimp only
      split
      · exact absurd ‹_› hp.1
      · exact absurd ‹_› hp.2
      · rfl
    rw [hr]
    exact h.follows_stay hs (fun _ => hd') hv (outline_notAcceptable v _)

lemma onDial_follows_waiting (h : t.Begins expected n s) (hs : s.IsWaiting) (stream : Nat)
    (text : String) :
    (t.onDialed site stream).Follows site expected n s (.event (.dialed stream)) ∧
      (t.onDialFailed site text).Follows site expected n s (.event (.dialFailed text)) := by
  have hp := h.phase
  have hd : t.conn.dialing = (s.begun expected n).dialing := congrArg Shape.dialing h.shape
  rcases s with _ | rival | _ | i | _ | ⟨i, x, _ | _⟩ | r | _ | _ | _ | _ <;>
    try exact hs.elim
  · exact ⟨onDialed_follows h stream, onDialFailed_follows h text⟩
  all_goals
    exact onDialed_follows_undialed h (hs.begun expected n) (by simp [hp, Stage.phase]) hd
      stream text

lemma onWonElection_follows_waiting (h : t.Begins expected n s) (hs : s.IsWaiting) :
    (t.onWonElection site).Follows site expected n s (.event .wonElection) := by
  have hp := h.phase
  have hn : t.conn.phase ≠ .waitReturns →
      (t.onWonElection site).Follows site expected n s (.event .wonElection) := by
    intro hne
    rw [onWonElection, if_pos hne]
    exact h.follows_waiting hs rfl rfl (outline_notAcceptable t _)
  rcases s with _ | ⟨_ | x⟩ | _ | i | _ | ⟨i, x, _ | _⟩ | r | _ | _ | _ | _ <;>
    try exact hs.elim
  · exact hn (by simp [hp, Stage.phase])
  · exact hn (by simp [hp, Stage.phase])
  · exact hn (by simp [hp, Stage.phase])
  · exact onWonElection_follows h
  · exact hn (by simp [hp, Stage.phase])

end Turn

end Diameter
