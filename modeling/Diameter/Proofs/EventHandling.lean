import Diameter.Proofs.Bypass

/-!
What handling an event comes to.

Most handlers leave requests, alarms and the watchdog alone. The few that do not are listed in
`Turn.Upshot`, each with what let it come so far. Main statement: `Turn.handle_upshot`.
-/

namespace Diameter

/-- The event is meant for the phase, and what it says has gone wrong is foreign. -/
def Event.Suits (p : Phase) : Event → Prop
  | .start | .accepted _ => p = .closed
  | .dialed _ | .dialFailed _ => p = .waitConnAck ∨ p = .waitConnAckElect
  | .wonElection => p = .waitReturns
  | .receivedInvalid _ _ e | .disconnected _ e => e.IsForeign
  | _ => True

/-- Neither a request to be sent nor the ring of an alarm. -/
def Event.IsNews : Event → Prop
  | .send _ _ | .watchdogIdle _ | .watchdogReply _ | .exchangeTimeout _ | .closeTimeout => False
  | _ => True

lemma Event.IsNews.ne_send {e : Event} (h : e.IsNews) (waiter : Nat) (request : Message) :
    e ≠ .send waiter request := by
  rintro rfl
  exact h

/-- The ring of an alarm is not too late to matter. -/
def Duty.Minds (d : Duty) : Event → Prop
  | .watchdogIdle generation => generation = d.generation ∧ d.phase.isOpen ∧ d.outstanding = none
  | .watchdogReply hopByHop => d.outstanding = some hopByHop
  | .exchangeTimeout hopByHop => d.pending.contains hopByHop
  | .closeTimeout => d.phase = .closing
  | _ => True

/-- What the reader of a stream says has gone wrong. -/
def Event.failure? : Event → Option Failure
  | .receivedInvalid _ _ e | .disconnected _ e => some e
  | _ => none

lemma Event.Suits.isForeign {p : Phase} {e : Event} (h : e.Suits p) {f : Failure}
    (hf : e.failure? = some f) : f.IsForeign := by
  cases e with
  | receivedInvalid | disconnected => exact Option.some.inj hf ▸ h
  | _ => exact absurd hf (by simp [Event.failure?])

namespace Turn

variable {site : Site} {A : Failure → Prop} {t u : Turn}

/-- The idle time starts afresh with whatever comes from the peer, unless a watchdog request is
unanswered. -/
def stir (site : Site) (t : Turn) : Turn :=
  if t.conn.outstanding.isNone && t.conn.phase.isOpen then t.armIdle site else t

lemma duty_stir (site : Site) (t : Turn) : ∃ alarms generation, (t.stir site).conn.duty =
    { t.conn.duty with alarms := alarms, generation := generation } := by
  unfold stir
  split <;> exact ⟨_, _, rfl⟩

lemma shape_stir (site : Site) (t : Turn) : (t.stir site).conn.shape = t.conn.shape := by
  unfold stir
  split <;> rfl

lemma onPeerMessage_eq (site : Site) (side : Side) (link : Nat) (m : Message) (t : Turn) :
    t.onPeerMessage site side link m =
      if m.isBaseCommand Command.deviceWatchdog then
        if m.header.isRequest then (t.stir site).write site side (site.node.dwa m) .answer
        else (t.stir site).onDwa site m
      else if m.isBaseCommand Command.disconnectPeer then
        if m.header.isRequest then (t.stir site).write site side (site.node.dpa m) .farewell
        else (t.stir site).onDpa site
      else if m.header.isRequest then (t.stir site).emit (.dispatch link m)
      else (t.stir site).onAnswer m := rfl

/-- Enters a request that is about to be written. -/
def enter (site : Site) (waiter : Nat) (request : Message) (t : Turn) : Turn :=
  let x := Exchange.ofRequest waiter request t.now
  let t := t.arm (.exchange x.key) site.settings.sendTimeout (.exchangeTimeout x.key)
  let (displaced, pending) := t.conn.pending.insert x
  let t := { t with conn.pending := pending }
  match displaced with
  | some y => t.emit (.abandon y.waiter)
  | none => t

lemma duty_enter (site : Site) (t : Turn) (waiter : Nat) (request : Message) :
    (t.enter site waiter request).conn.duty =
      let x := Exchange.ofRequest waiter request t.now
      { t.conn.duty with
        pending := (t.conn.pending.insert x).2
        alarms := t.conn.alarms.arm (.exchange x.key) (t.now + site.settings.sendTimeout) t.serial
          (.exchangeTimeout x.key) } := by
  unfold enter
  dsimp only
  split <;> rfl

lemma onWatchdogReply_eq (site : Site) {hopByHop : UInt32}
    (h : t.conn.outstanding = some hopByHop) :
    t.onWatchdogReply site hopByHop =
      let v : Turn := { t with conn.outstanding := none, conn.failures := t.conn.failures + 1 }
      if t.conn.failures + 1 ≥ site.settings.watchdogLimit then
        v.giveUp site (.watchdogExpired (t.conn.failures + 1))
      else v.armIdle site := by
  simp [onWatchdogReply, h]

lemma counted_onWatchdogReply (site : Site) {hopByHop : UInt32}
    (h : t.conn.outstanding = some hopByHop) :
    (t.onWatchdogReply site hopByHop).conn.duty.outstanding = none ∧
      (t.onWatchdogReply site hopByHop).conn.duty.failures = t.conn.failures + 1 ∧
      ((t.onWatchdogReply site hopByHop).conn.phase.isOpen → t.conn.phase.isOpen) := by
  rw [onWatchdogReply_eq site h]
  dsimp only
  split
  · let v : Turn := { t with conn.outstanding := none, conn.failures := t.conn.failures + 1 }
    have hB : Bypass site (fun _ => True) v
        (v.giveUp site (.watchdogExpired (t.conn.failures + 1))) := Bypass.refl.giveUp trivial
    exact ⟨hB.rests.outstanding, hB.rests.failures, by simp [Phase.isOpen]⟩
  · exact ⟨rfl, rfl, id⟩

lemma duty_openAs (site : Site) (t : Turn) (peer : PeerIdentity) {p : Phase} (hp : p.isOpen) :
    ∃ due serial, (t.openAs site peer p).conn.duty =
      { t.conn.duty with
        phase := p, failures := 0, outstanding := none, generation := t.conn.generation + 1
        alarms := t.conn.alarms.arm .idle due serial (.watchdogIdle (t.conn.generation + 1)) } := by
  let v : Turn := { ({ t with conn.identity := some peer } : Turn).emit (.showPeer peer) with
    conn.failures := 0, conn.outstanding := none }
  have hs : p ≠ .shutdown ∧ p ≠ .closing := by
    constructor <;> rintro rfl <;> exact absurd hp (by decide)
  have hd : (v.transition site p).conn.duty = { v.conn.duty with phase := p } :=
    duty_transition site v hs.1 hs.2
  let due := (v.transition site p).now + site.settings.watchdogInterval
  let serial := (v.transition site p).serial
  have ha : (t.openAs site peer p).conn.duty =
      { (v.transition site p).conn.duty with
        generation := (v.transition site p).conn.duty.generation + 1
        alarms := (v.transition site p).conn.duty.alarms.arm .idle due serial
          (.watchdogIdle ((v.transition site p).conn.duty.generation + 1)) } := rfl
  refine ⟨due, serial, ?_⟩
  rw [ha, hd]
  rfl

/-- A message in order that names no stranger, on the stream that carries traffic. -/
structure Trusts (t : Turn) (side : Side) (link : Nat) (m : Message) : Prop where
  attached : t.conn.sideOf? link = some side
  active : t.conn.activeSide? = some side
  flags : m.header.checkFlags = .ok ()
  other : m.isBaseCommand Command.capabilitiesExchange = false
  known : t.stranger? m = none

/-- The answer to the watchdog request that is unanswered. -/
structure Reassures (t : Turn) (link : Nat) (m : Message) : Prop where
  trusts : ∃ side, t.Trusts side link m
  watchdog : m.isBaseCommand Command.deviceWatchdog
  answer : m.header.isRequest = false
  outstanding : t.conn.outstanding = some m.header.hopByHop

/-- The CEA that a phase waits for, from the peer that is asked for. -/
structure Introduces (site : Site) (t : Turn) (link : Nat) (m : Message) (peer : PeerIdentity) :
    Prop where
  phase : t.conn.phase = .waitICea ∨ t.conn.phase = .waitReturns
  attached : t.conn.sideOf? link = some .initiator
  cea : m.isCea
  accepted : site.node.acceptCea m = .ok peer
  bound : t.boundHost?.all (Identity.same · peer.host)

/-- What handling an event comes to. -/
inductive Upshot (site : Site) (A : Failure → Prop) (t : Turn) : Event → Turn → Prop
  /-- Requests, alarms and watchdog are left alone. -/
  | bypass {e : Event} {u : Turn} (h : Bypass site A t u) (he : e.IsNews) : Upshot site A t e u
  /-- The ring of an alarm comes too late to matter. -/
  | stale {e : Event} (he : ¬ t.conn.duty.Minds e) : Upshot site A t e t
  /-- The ring of an alarm ends the connection. -/
  | fallen {e : Event} {u : Turn} (h : Bypass site A t u) (he : t.conn.duty.Minds e)
    (ha : e = .closeTimeout ∨ ∃ generation, e = .watchdogIdle generation)
    (hu : u.conn.phase = .shutdown) : Upshot site A t e u
  /-- A CEA has opened the connection. -/
  | opened {link : Nat} {m : Message} {peer : PeerIdentity} {u : Turn} (h : Bypass site A t u)
    (ht : t.Introduces site link m peer) :
    Upshot site A t (.received link m) (u.openAs site peer .iOpen)
  /-- The peer has said something that needs no more than an answer. -/
  | heard {side : Side} {link : Nat} {m : Message} {u : Turn} (h : t.Trusts side link m)
    (hu : Bypass site A (t.stir site) u) : Upshot site A t (.received link m) u
  /-- A request of the peer goes to the registry. -/
  | dispatched {side : Side} {link : Nat} {m : Message} (h : t.Trusts side link m) :
    Upshot site A t (.received link m) ((t.stir site).emit (.dispatch link m))
  /-- The unanswered watchdog request is answered. -/
  | reassured {link : Nat} {m : Message} (h : t.Reassures link m) :
    Upshot site A t (.received link m) (t.onDwa site m)
  /-- An answer of the peer. -/
  | answered {side : Side} {link : Nat} {m : Message} (h : t.Trusts side link m)
    (hm : m.header.isRequest = false) :
    Upshot site A t (.received link m) ((t.stir site).onAnswer m)
  /-- What came was no answer, but named a request. -/
  | failed {e : Event} (he : e.IsNews) (hopByHop : UInt32) (r : ResultCode) {f : Failure}
    (hf : A f) : Upshot site A t e ((t.failExchange site hopByHop r).report f)
  | expired (hopByHop : UInt32) :
    Upshot site A t (.exchangeTimeout hopByHop) (t.onExchangeTimeout site hopByHop)
  | refused (waiter : Nat) (request : Message) :
    Upshot site A t (.send waiter request) (t.refuseToSend site waiter request)
  | entered (waiter : Nat) (request : Message) (link : Link) (deadline : Nat) :
    Upshot site A t (.send waiter request)
      { t.enter site waiter request with conn.writing := some ⟨link, request, .request, deadline⟩ }
  /-- The request could not even begin to be written. -/
  | lost (waiter : Nat) (request : Message) {f : Failure} (hf : A f) :
    Upshot site A t (.send waiter request) ((t.enter site waiter request).giveUp site f)
  /-- The idle time is over. -/
  | probing {generation : Nat} (hg : generation = t.conn.generation) (ho : t.conn.phase.isOpen)
    (hn : t.conn.outstanding = none) (ids : Identifiers) (link : Link) (m : Message)
    (deadline : Nat) :
    Upshot site A t (.watchdogIdle generation)
      { t with
        ids := ids
        conn.writing := some ⟨link, m, .probe m.header.hopByHop, deadline⟩ }
  /-- The watchdog request stayed unanswered. -/
  | missed {hopByHop : UInt32} (ho : t.conn.outstanding = some hopByHop) :
    Upshot site A t (.watchdogReply hopByHop) (t.onWatchdogReply site hopByHop)

lemma onSend_upshot (hA : Spans A) (waiter : Nat) (request : Message) :
    Upshot site A t (.send waiter request) (t.onSend site waiter request) := by
  unfold onSend
  split
  · rename_i side hs
    split
    · -- the request is entered in any case, and then written
      show Upshot site A t (.send waiter request)
        ((t.enter site waiter request).write site side request .request)
      unfold write
      split
      · -- there is no stream to write it on
        exact .lost waiter request (hA.remote trivial)
      · rename_i link hl
        rcases writeOn_cases site (t.enter site waiter request) link request .request with
          ⟨-, hw⟩ | ⟨e, he, hw⟩
        · rw [hw]
          exact .entered waiter request link _
        · rw [hw]
          exact .lost waiter request (hA.remote (request.remote_checkLength e he))
    · -- closing: no more requests go out
      exact .refused waiter request
  · exact .refused waiter request

lemma isSome_activeSide? {c : Connection} (h : c.phase.isOpen) : c.activeSide?.isSome := by
  have hp : c.phase = .rOpen ∨ c.phase = .iOpen := by
    revert h
    cases c.phase <;> simp [Phase.isOpen]
  rcases hp with hp | hp <;> simp [Connection.activeSide?, hp]

lemma onWatchdogIdle_upshot (hA : Spans A) (generation : Nat) :
    Upshot site A t (.watchdogIdle generation) (t.onWatchdogIdle site generation) := by
  unfold onWatchdogIdle
  split
  · rename_i hc
    have hi : Bypass site A t { t with ids := (site.node.dwr t.ids).2 } :=
      Bypass.refl.adjust rfl rfl rfl
    have lost : ∀ {e : Failure}, A e → Upshot site A t (.watchdogIdle generation)
        (({ t with ids := (site.node.dwr t.ids).2 } : Turn).giveUp site e) := fun he =>
      .fallen (hi.giveUp he) hc (.inr ⟨_, rfl⟩) (phase_giveUp site _ _)
    split
    · -- an open connection has an active stream
      rename_i hs
      exact absurd (isSome_activeSide? hc.2.1) (by simp [hs])
    · rename_i side hs
      dsimp only
      unfold write
      split
      · exact lost (hA.remote trivial)
      · rename_i link hl
        rcases writeOn_cases site { t with ids := (site.node.dwr t.ids).2 } link
          (site.node.dwr t.ids).1 (.probe (site.node.dwr t.ids).1.header.hopByHop) with
          ⟨-, hw⟩ | ⟨e, he, hw⟩
        · rw [hw]
          exact .probing hc.1 hc.2.1 hc.2.2 _ _ _ _
        · rw [hw]
          exact lost (hA.remote (Message.remote_checkLength _ e he))
  · -- an old alarm, or there is no idle time to be over
    exact .stale ‹_›

lemma onWatchdogReply_upshot (hopByHop : UInt32) :
    Upshot site A t (.watchdogReply hopByHop) (t.onWatchdogReply site hopByHop) := by
  by_cases ho : t.conn.outstanding = some hopByHop
  · exact .missed ho
  · have hn : t.onWatchdogReply site hopByHop = t := by simp [onWatchdogReply, ho]
    rw [hn]
    exact .stale ho

lemma onCloseTimeout_upshot : Upshot site A t .closeTimeout (t.onCloseTimeout site) := by
  unfold onCloseTimeout
  split
  · exact .fallen Bypass.refl.fall ‹_› (.inl rfl) (phase_transition_shutdown site t)
  · exact .stale ‹_›

lemma onPeerMessage_upshot (hA : Spans A) {side : Side} {link : Nat} {m : Message}
    (h : t.Trusts side link m) :
    Upshot site A t (.received link m) (t.onPeerMessage site side link m) := by
  have hs : Bypass site A (t.stir site) (t.stir site) := .refl
  have ho : (t.stir site).conn.outstanding = t.conn.outstanding := by
    obtain ⟨_, _, hd⟩ := duty_stir site t
    exact congrArg Duty.outstanding hd
  rw [onPeerMessage_eq]
  split
  · -- a watchdog request or answer
    rename_i hd
    split
    · exact .heard h (hs.write hA side _ (g := .answer) trivial)
    · rename_i hm
      by_cases hx : t.conn.outstanding = some m.header.hopByHop
      · -- While a watchdog request is unanswered nothing starts the idle time afresh.
        have ht : t.stir site = t := by simp [stir, hx]
        rw [ht]
        exact .reassured ⟨⟨side, h⟩, hd, by simpa using hm, hx⟩
      · -- it answers no watchdog request of ours
        have hn : (t.stir site).onDwa site m = t.stir site := by simp [onDwa, ho, hx]
        rw [hn]
        exact .heard h hs
  · split
    · -- a disconnect request or answer
      split
      · exact .heard h (hs.write hA side _ (g := .farewell) trivial)
      · exact .heard h (hs.onDpa hA)
    · -- any other request or answer
      split
      · exact .dispatched h
      · rename_i hm
        exact .answered h (by simpa using hm)

lemma onOpenMessage_upshot (hA : Spans A) {side : Side} {link : Nat} (m : Message)
    (hs : t.conn.sideOf? link = some side) (ha : t.conn.activeSide? = some side) :
    Upshot site A t (.received link m) (t.onOpenMessage site side link m) := by
  have plain : ∀ {u : Turn}, Bypass site A t u → Upshot site A t (.received link m) u :=
    fun h => .bypass h trivial
  unfold onOpenMessage
  split
  · -- its flags are illegal
    rename_i e he
    have hf : A e := hA.remote (m.header.remote_checkFlags e he)
    split
    · exact plain (Bypass.refl.write hA side _ (g := .complain e) hf)
    · exact plain (Bypass.refl.report hf)
  · rename_i hf
    split
    · -- a CER or CEA
      exact plain (Bypass.refl.onLateCapabilities hA m)
    · rename_i hc
      split
      · -- its origin is not the bound peer
        rename_i host hn
        dsimp only
        split
        · exact plain (Bypass.refl.write hA side _ (g := .complain (.unknownPeer host))
            (hA.remote trivial))
        · exact .failed (e := .received link m) trivial m.header.hopByHop .unknownPeer
            (f := .unknownPeer host) (hA.remote trivial)
      · rename_i hn
        exact onPeerMessage_upshot hA ⟨hs, ha, hf, by simpa using hc, hn⟩

lemma onReceived_upshot (hA : Spans A) {side : Side} {link : Nat} (m : Message)
    (hs : t.conn.sideOf? link = some side) :
    Upshot site A t (.received link m) (t.onReceived site side link m) := by
  have plain : ∀ {u : Turn}, Bypass site A t u → Upshot site A t (.received link m) u :=
    fun h => .bypass h trivial
  have hn : Bypass site A t (t.notAcceptable "Rcv-Message") :=
    Bypass.refl.notAcceptable (hA.mistake _ (by simp [peerMistakes]))
  have hc : t.conn.phase = .waitICea ∨ t.conn.phase = .waitReturns →
      Upshot site A t (.received link m) (if side = .initiator && m.isCea then t.onCea site m
        else t.notAcceptable "Rcv-Message") := by
    intro hp
    split
    · rename_i hm
      simp only [Bool.and_eq_true, decide_eq_true_eq] at hm
      rcases Bypass.refl.onCea hA m with h | ⟨v, peer, ha, hb, hv, he⟩
      · exact plain h
      · rw [he]
        exact .opened hv ⟨hp, hm.1 ▸ hs, hm.2, ha, hb⟩
    · exact plain hn
  have ho : Upshot site A t (.received link m)
      (if t.conn.activeSide? = some side then t.onOpenMessage site side link m
      else t.notAcceptable "Rcv-Message") := by
    split
    · exact onOpenMessage_upshot hA m hs ‹_›
    · exact plain hn
  unfold onReceived
  split
  · -- the first message of an accepted stream
    split
    · exact plain (Bypass.refl.answerFirstCer hA m)
    · exact plain (Bypass.refl.notAcceptable (hA.mistake _ (by simp [peerMistakes]))).fall
  -- the other phases expect a CEA, any message on the active stream, or none
  all_goals first | exact hc (.inl ‹_›) | exact hc (.inr ‹_›) | exact ho | exact plain hn

lemma phase_of_activeSide? {c : Connection} {side : Side} (h : c.activeSide? = some side) :
    c.phase = .rOpen ∨ c.phase = .iOpen ∨ c.phase = .closing := by
  revert h
  unfold Connection.activeSide?
  cases c.phase <;> simp

lemma onReceived_of_activeSide? (site : Site) {side : Side} (link : Nat) (m : Message)
    (h : t.conn.activeSide? = some side) :
    t.onReceived site side link m = t.onOpenMessage site side link m := by
  rcases phase_of_activeSide? h with hp | hp | hp <;> simp [onReceived, hp, h]

lemma handle_of_trusts {side : Side} {link : Nat} {m : Message} (h : t.Trusts side link m) :
    t.handle site (.received link m) = t.onPeerMessage site side link m := by
  have hm : t.onOpenMessage site side link m = t.onPeerMessage site side link m := by
    simp [onOpenMessage, h.flags, h.other, h.known]
  simp only [handle, h.attached]
  rw [onReceived_of_activeSide? site link m h.active, hm]

lemma handle_of_introduces {link : Nat} {m : Message} {peer : PeerIdentity}
    (h : t.Introduces site link m peer) :
    t.handle site (.received link m) =
      (if t.conn.phase = .waitReturns then t.dropCandidate else t).openAs site peer .iOpen := by
  have hr : t.onReceived site .initiator link m = t.onCea site m := by
    unfold onReceived
    rcases h.phase with hp | hp <;> simp [hp, h.cea]
  simp only [handle, h.attached]
  rw [hr]
  simp only [onCea, h.accepted]
  rw [if_pos h.bound]

lemma onReceivedInvalid_upshot (hA : Spans A) (link : Nat) (side : Side) (k : Header)
    {e : Failure} (he : A e) :
    Upshot site A t (.receivedInvalid link k e) (t.onReceivedInvalid site side k e) := by
  have plain : ∀ {u : Turn}, Bypass site A t u → Upshot site A t (.receivedInvalid link k e) u :=
    fun h => .bypass h trivial
  unfold onReceivedInvalid
  dsimp only
  split
  · -- a request
    split
    · exact plain (Bypass.refl.write hA side _ (g := .reject e) he)
    · split
      · exact plain (Bypass.refl.write hA side _ (g := .complain e) he)
      · exact plain (Bypass.refl.report he)
  · -- an answer on the active stream names an exchange, and it is too late for a CEA
    by_cases ha : t.conn.activeSide? = some side
    · have hp : t.conn.phase ≠ .waitICea ∧ t.conn.phase ≠ .waitReturns := by
        rcases phase_of_activeSide? ha with hp | hp | hp <;> simp [hp]
      obtain ⟨hi, hr⟩ := hp
      simp only [ha, if_true, hi, hr, decide_false, Bool.or_self, Bool.and_false, Bool.false_and,
        Bool.false_eq_true, if_false]
      exact .failed (e := .receivedInvalid link k e) trivial _ _ he
    · rw [if_neg ha]
      split
      · exact plain (Bypass.refl.report he).fall
      · exact plain (Bypass.refl.report he)

/-- **What handling an event comes to.** The event suits the phase, or any event may be reported
to have no place in it. -/
theorem handle_upshot (hA : Spans A) {e : Event}
    (hp : e.Suits t.conn.phase ∨ ∀ p event, A (.notAcceptable p event))
    (hf : ∀ f, e.failure? = some f → A f) : Upshot site A t e (t.handle site e) := by
  have ill : ∀ {p : Phase} {event : String},
      (¬ e.Suits t.conn.phase) → A (.notAcceptable p event) := by
    intro p event hn
    exact hp.elim (fun hs => absurd hs hn) fun h => h p event
  cases e with
  | start => exact .bypass (Bypass.refl.onStart ill) trivial
  | dialed stream => exact .bypass (Bypass.refl.onDialed hA stream ill) trivial
  | dialFailed text => exact .bypass (Bypass.refl.onDialFailed hA text ill) trivial
  | accepted stream => exact .bypass (Bypass.refl.onAccepted stream ill) trivial
  | acceptedCer stream cer => exact .bypass (Bypass.refl.onAcceptedCer hA stream cer) trivial
  | received link m =>
    unfold handle
    dsimp only
    split
    · rename_i side hs
      exact onReceived_upshot hA m hs
    · exact .bypass .refl trivial
  | receivedInvalid link k e =>
    unfold handle
    dsimp only
    split
    · exact onReceivedInvalid_upshot hA link _ k (hf e rfl)
    · exact .bypass .refl trivial
  | disconnected link e =>
    unfold handle
    dsimp only
    split
    · exact .bypass (Bypass.refl.onDisconnected hA _ (hf e rfl)) trivial
    · exact .bypass .refl trivial
  | wonElection => exact .bypass (Bypass.refl.onWonElection hA ill) trivial
  | send waiter request => exact onSend_upshot hA waiter request
  | handled link answer => exact .bypass (Bypass.refl.onHandled hA link answer) trivial
  | stop waiter cause => exact .bypass (Bypass.refl.onStop hA waiter cause) trivial
  | watchdogIdle generation => exact onWatchdogIdle_upshot hA generation
  | watchdogReply hopByHop => exact onWatchdogReply_upshot hopByHop
  | exchangeTimeout hopByHop => exact .expired hopByHop
  | closeTimeout => exact onCloseTimeout_upshot

lemma handle_upshot_any (site : Site) (t : Turn) (e : Event) :
    Upshot site (fun _ => True) t e (t.handle site e) :=
  handle_upshot spans_any (.inr fun _ _ => trivial) fun _ _ => trivial

end Turn

end Diameter
