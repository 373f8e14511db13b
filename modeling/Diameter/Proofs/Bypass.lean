import Diameter.Proofs.Foreign
import Diameter.Proofs.Ringing
import Diameter.Proofs.Shape

/-!
What a connection has to see to, and the handlers that leave it alone.

The duty of a connection is its requests, its alarms and its watchdog. Most handlers are made of
moves that do not touch it, except that the shutdown ends all of it at once (`Turn.Bypass`). Main
statement: `Turn.Bypass.rests`.
-/

namespace Diameter

/-- The connection is open or about to part. -/
def Phase.isRunning (p : Phase) : Bool := p.isOpen || p = .closing

lemma Phase.isRunning_iff {p : Phase} : p.isRunning ↔ p = .rOpen ∨ p = .iOpen ∨ p = .closing := by
  cases p <;> decide

/-- Requests, alarms and watchdog of a connection, and its phase. -/
structure Duty where
  phase : Phase
  pending : Pending
  alarms : Alarms AlarmSlot Event
  generation : Nat
  outstanding : Option UInt32
  failures : UInt32
  /-- The watchdog request that is on its way. -/
  probe : Option UInt32

/-- The watchdog request that is being written. -/
def Connection.probe? (c : Connection) : Option UInt32 :=
  match c.writing with
  | some ⟨_, _, .probe hopByHop, _⟩ => some hopByHop
  | _ => none

def Connection.duty (c : Connection) : Duty where
  phase := c.phase
  probe := c.probe?
  pending := c.pending
  alarms := c.alarms
  generation := c.generation
  outstanding := c.outstanding
  failures := c.failures

/-- The duty is the same as before, or has ended: no phase has been entered in which the connection
runs, and no watchdog request has begun to be written. -/
inductive Duty.Rests (d : Duty) : Duty → Prop
  | kept {p : Phase} {probe : Option UInt32} (hp : p = d.phase ∨ p.isRunning = false)
    (hb : probe = d.probe ∨ probe = none) : d.Rests { d with phase := p, probe := probe }
  | ended {p : Phase} {probe : Option UInt32} {alarms : Alarms AlarmSlot Event}
    (hp : p.isRunning = false) (hb : probe = d.probe ∨ probe = none)
    (ha : alarms.armed.Sublist d.alarms.armed) :
    d.Rests { d with phase := p, pending := {}, alarms := alarms, probe := probe }

namespace Duty.Rests

variable {d d' d'' : Duty}

lemma refl : d.Rests d := .kept (.inl rfl) (.inl rfl)

lemma trans (h : d.Rests d') (h' : d'.Rests d'') : d.Rests d'' := by
  have running : ∀ {p q : Phase}, p.isRunning = false → q = p ∨ q.isRunning = false →
      q.isRunning = false := by
    rintro p q hp (rfl | hq)
    · exact hp
    · exact hq
  have either : ∀ {a b c : Option UInt32}, b = a ∨ b = none → c = b ∨ c = none →
      c = a ∨ c = none := by
    rintro a b c hb (rfl | hc)
    · exact hb
    · exact .inr hc
  cases h with
  | kept hp hb =>
    cases h' with
    | kept hq hc => exact .kept (hq.elim (fun he => hp.imp he.trans (he ▸ ·)) .inr) (either hb hc)
    | ended hq hc ha => exact .ended hq (either hb hc) ha
  | ended hp hb ha =>
    cases h' with
    | kept hq hc => exact .ended (running hp hq) (either hb hc) ha
    | ended hq hc ha' => exact .ended hq (either hb hc) (ha'.trans ha)

lemma probe (h : d.Rests d') (hb : d.probe = none) : d'.probe = none := by
  cases h with
  | kept _ hn | ended _ hn _ => exact hn.elim (·.trans hb) id

lemma outstanding (h : d.Rests d') : d'.outstanding = d.outstanding := by
  cases h <;> rfl

lemma failures (h : d.Rests d') : d'.failures = d.failures := by
  cases h <;> rfl

end Duty.Rests

/-- What a peer may send in a phase that has no use for it. -/
def peerMistakes : List String := ["Rcv-Non-CER", "Rcv-Message", "Rcv-CE", "Rcv-DPA"]

/-- Only streams and the dial are concerned. -/
def Effect.IsSilent : Effect → Prop
  | .dial | .listen _ | .hangUp _ | .refuse _ => True
  | _ => False

/-- What is written is neither a request nor a watchdog request, and it reports a failure of this
kind or none. -/
def Goal.IsAside (A : Failure → Prop) : Goal → Prop
  | .reject e | .turnAway _ e | .complain e => A e
  | .request | .probe _ => False
  | _ => True

lemma Goal.IsAside.reported {A : Failure → Prop} {g : Goal} (hg : g.IsAside A) (e : Failure)
    (he : g = .reject e ∨ g = .complain e ∨ ∃ link, g = .turnAway link e) : A e := by
  rcases he with rfl | rfl | ⟨link, rfl⟩ <;> exact hg

/-- Nothing but what was shown, reported and closed follows the end of the write. -/
def Goal.IsSettled : Goal → Prop
  | .introduce _ | .reject _ | .turnAway _ _ | .complain _ | .answer | .farewell => True
  | _ => False

namespace Turn

/-- Moves lead from one turn to another that leave requests, alarms and the watchdog alone and
report only failures of a kind. -/
inductive Bypass (site : Site) (A : Failure → Prop) (t : Turn) : Turn → Prop
  | refl : Bypass site A t t
  | adjust {u v : Turn} (h : Bypass site A t u) (he : v.effects = u.effects)
    (hd : v.conn.duty = u.conn.duty) (hw : v.conn.writing = u.conn.writing) : Bypass site A t v
  | emit {u : Turn} (h : Bypass site A t u) {e : Effect} (he : e.IsSilent) :
    Bypass site A t (u.emit e)
  | report {u : Turn} (h : Bypass site A t u) {e : Failure} (he : A e) :
    Bypass site A t (u.report e)
  | transition {u : Turn} (h : Bypass site A t u) {p : Phase} (hp : p.isRunning = false) :
    Bypass site A t (u.transition site p)
  /-- The peer has parted. -/
  | part {u : Turn} (h : Bypass site A t u) :
    Bypass site A t ((u.transition site .closing).transition site .shutdown)
  | begin {u : Turn} (h : Bypass site A t u) {w : Writing} (hw : w.goal.IsAside A) :
    Bypass site A t { u with conn.writing := some w }

/-- The kind spans whatever is wrong with a message or a stream, and mistakes of a peer. -/
structure Spans (A : Failure → Prop) : Prop where
  remote {e : Failure} (h : e.IsRemote) : A e
  mistake (p : Phase) {event : String} (h : event ∈ peerMistakes) : A (.notAcceptable p event)

lemma spans_any : Spans fun _ => True := ⟨fun _ => trivial, fun _ _ _ => trivial⟩

variable {site : Site} {A : Failure → Prop} {t u v : Turn}

lemma remote_judge {cer cea : Message} {e : Failure} (h : t.judge site cer = .reject e cea) :
    e.IsRemote := by
  unfold judge Node.answerCer at h
  cases hi : site.node.identify cer with
  | error d =>
    simp only [hi, CerVerdict.reject.injEq] at h
    exact h.1 ▸ site.node.remote_identify cer d hi
  | ok peer =>
    simp only [hi] at h
    split at h
    · exact absurd h (by simp)
    · simp only [CerVerdict.reject.injEq] at h
      exact h.1 ▸ trivial

namespace Bypass

/-! ### Moves -/

lemma notAcceptable (h : Bypass site A t u) {event : String}
    (he : A (.notAcceptable u.conn.phase event)) : Bypass site A t (u.notAcceptable event) :=
  h.report he

lemma fall (h : Bypass site A t u) : Bypass site A t (u.transition site .shutdown) :=
  h.transition rfl

lemma giveUp (h : Bypass site A t u) {e : Failure} (he : A e) :
    Bypass site A t (u.giveUp site e) :=
  (h.report he).fall

lemma hangUp (h : Bypass site A t u) (side : Side) : Bypass site A t (u.hangUp side) := by
  unfold Turn.hangUp
  split
  · exact h
  · refine emit ?_ trivial
    cases side <;> exact h.adjust rfl rfl rfl

lemma dropCandidate (h : Bypass site A t u) : Bypass site A t u.dropCandidate :=
  (h.hangUp .responder).adjust rfl rfl rfl

lemma elect (h : Bypass site A t u) : Bypass site A t (u.elect site) := by
  unfold Turn.elect
  split
  · exact h
  · split
    · exact h.adjust rfl rfl rfl
    · exact h

lemma attach (h : Bypass site A t u) (stream : Nat) : Bypass site A t (u.attach stream).2 := by
  have ha : Bypass site A t { u with conn.attached := u.conn.attached + 1 } :=
    h.adjust rfl rfl rfl
  exact ha.emit (e := .listen ⟨u.conn.attached + 1, stream⟩) trivial

/-! ### Writing -/

lemma settle_failed (h : Bypass site A t u) {g : Goal}
    (hg : ∀ e, g = .reject e ∨ g = .complain e ∨ (∃ link, g = .turnAway link e) → A e)
    (m : Message) {w : Failure} (hw : A w) : Bypass site A t (u.settle site g m (some w)) := by
  cases g with
  | turnAway link e => exact (h.report (hg e (by simp))).emit trivial
  | reject e => exact (h.giveUp hw).giveUp (hg e (by simp))
  | complain e => exact (h.giveUp hw).report (hg e (by simp))
  | _ => exact h.giveUp hw

lemma settle (h : Bypass site A t u) {g : Goal} (hg : g.IsAside A) (hs : g.IsSettled)
    (m : Message) {result : Option Failure} (hr : ∀ e, result = some e → A e) :
    Bypass site A t (u.settle site g m result) := by
  cases result with
  | some w => exact h.settle_failed hg.reported m (hr w rfl)
  | none =>
    cases g with
    | turnAway link e => exact (h.report hg).emit trivial
    | reject e => exact h.giveUp hg
    | complain e => exact h.report hg
    | introduce electing =>
      cases electing with
      | true => exact (Bypass.transition h rfl).elect
      | false =>
        have hn : Bypass site A t (u.transition site .waitICea) := h.transition rfl
        exact hn
    | answer => exact h
    | farewell => exact h.part
    | accept | request | disconnect | probe => exact hs.elim

lemma writeOn (h : Bypass site A t u) (hA : Spans A) (link : Link) (m : Message) {g : Goal}
    (hg : g.IsAside A) : Bypass site A t (u.writeOn site link m g) := by
  rcases writeOn_cases site u link m g with ⟨-, hw⟩ | ⟨e, he, hw⟩
  · rw [hw]
    exact h.begin hg
  · rw [hw]
    exact h.settle_failed hg.reported m (hA.remote (m.remote_checkLength e he))

lemma write (h : Bypass site A t u) (hA : Spans A) (side : Side) (m : Message) {g : Goal}
    (hg : g.IsAside A) : Bypass site A t (u.write site side m g) := by
  unfold Turn.write
  split
  · exact h.settle_failed hg.reported m (hA.remote trivial)
  · exact h.writeOn hA _ m hg

/-! ### The handshake -/

lemma onStart (h : Bypass site A t u)
    (hp : u.conn.phase ≠ .closed → A (.notAcceptable u.conn.phase "Start")) :
    Bypass site A t (u.onStart site) := by
  unfold Turn.onStart
  split
  · rename_i hc
    exact h.notAcceptable (hp hc)
  · have hd : Bypass site A t { u.transition site .waitConnAck with conn.dialing := true } :=
      (Bypass.transition h rfl).adjust rfl rfl rfl
    exact hd.emit (e := .dial) trivial

lemma introduce (h : Bypass site A t u) (hA : Spans A) (stream : Nat) (electing : Bool) :
    Bypass site A t (u.introduce site stream electing) := by
  have ha : Bypass site A t { (u.attach stream).2 with
      conn.initiator := some (u.attach stream).1, ids := (site.node.cer u.ids).2 } :=
    (h.attach stream).adjust rfl rfl rfl
  exact ha.write hA .initiator _ (g := .introduce electing) trivial

lemma onDialed (h : Bypass site A t u) (hA : Spans A) (stream : Nat)
    (hp : ¬ (u.conn.phase = .waitConnAck ∨ u.conn.phase = .waitConnAckElect) →
      A (.notAcceptable u.conn.phase "I-Rcv-Conn-Ack")) :
    Bypass site A t (u.onDialed site stream) := by
  have hd : Bypass site A t { u with conn.dialing := false } := h.adjust rfl rfl rfl
  unfold Turn.onDialed
  dsimp only
  split
  · exact hd.introduce hA stream false
  · exact hd.introduce hA stream true
  · rename_i hn hm
    exact (hd.notAcceptable (hp (not_or.mpr ⟨hn, hm⟩))).emit (e := .refuse stream) trivial

lemma openResponder (h : Bypass site A t u) (hA : Spans A) :
    Bypass site A t (u.openResponder site) := by
  have hf : Bypass site A t { u with conn.cachedCea := none, conn.cachedPeer := none } :=
    h.adjust rfl rfl rfl
  unfold Turn.openResponder
  dsimp only
  split
  · exact hf.write hA .responder _ (g := .accept _) trivial
  · exact hf.fall

lemma onDialFailed (h : Bypass site A t u) (hA : Spans A) (text : String)
    (hp : ¬ (u.conn.phase = .waitConnAck ∨ u.conn.phase = .waitConnAckElect) →
      A (.notAcceptable u.conn.phase "I-Rcv-Conn-Nack")) :
    Bypass site A t (u.onDialFailed site text) := by
  have hd : Bypass site A t { u with conn.dialing := false } := h.adjust rfl rfl rfl
  unfold Turn.onDialFailed
  dsimp only
  split
  · exact hd.giveUp (e := .refused text) (hA.remote trivial)
  · exact (hd.report (e := .refused text) (hA.remote trivial)).openResponder hA
  · rename_i hn hm
    exact hd.notAcceptable (hp (not_or.mpr ⟨hn, hm⟩))

lemma onAccepted (h : Bypass site A t u) (stream : Nat)
    (hp : u.conn.phase ≠ .closed → A (.notAcceptable u.conn.phase "R-Conn-Accepted")) :
    Bypass site A t (u.onAccepted site stream) := by
  unfold Turn.onAccepted
  split
  · rename_i hc
    exact (h.notAcceptable (hp hc)).emit (e := .refuse stream) trivial
  · have ha : Bypass site A t { (u.attach stream).2 with
        conn.responder := some (u.attach stream).1 } :=
      (h.attach stream).adjust rfl rfl rfl
    exact ha.transition rfl

lemma answerFirstCer (h : Bypass site A t u) (hA : Spans A) (cer : Message) :
    Bypass site A t (u.answerFirstCer site cer) := by
  unfold Turn.answerFirstCer
  split
  · exact h.write hA .responder _ (g := .accept _) trivial
  · rename_i e cea hj
    exact h.write hA .responder cea (g := .reject e) (hA.remote (remote_judge hj))

lemma electIncoming (h : Bypass site A t u) (hA : Spans A) (stream : Nat) (cer : Message) :
    Bypass site A t (u.electIncoming site stream cer) := by
  have ha := h.attach stream
  unfold Turn.electIncoming
  dsimp only
  split
  · rename_i e cea hj
    exact ha.writeOn hA _ cea (g := .turnAway _ e) (hA.remote (remote_judge hj))
  · rename_i peer cea hj
    have hv : Bypass site A t { (u.attach stream).2 with
        conn.responder := some (u.attach stream).1
        conn.cachedCea := some cea, conn.cachedPeer := some peer } :=
      ha.adjust rfl rfl rfl
    split
    · exact hv.transition rfl
    · exact (Bypass.transition hv rfl).elect

lemma onAcceptedCer (h : Bypass site A t u) (hA : Spans A) (stream : Nat) (cer : Message) :
    Bypass site A t (u.onAcceptedCer site stream cer) := by
  unfold Turn.onAcceptedCer
  split
  · have ha : Bypass site A t { (u.attach stream).2 with
        conn.responder := some (u.attach stream).1 } :=
      (h.attach stream).adjust rfl rfl rfl
    exact ha.answerFirstCer hA cer
  · exact h.electIncoming hA stream cer
  · exact h.electIncoming hA stream cer
  · exact h.emit (e := .refuse stream) trivial

lemma onWonElection (h : Bypass site A t u) (hA : Spans A)
    (hp : u.conn.phase ≠ .waitReturns → A (.notAcceptable u.conn.phase "Win-Election")) :
    Bypass site A t (u.onWonElection site) := by
  unfold Turn.onWonElection
  split
  · rename_i hc
    exact h.notAcceptable (hp hc)
  · exact (h.hangUp .initiator).openResponder hA

lemma onCea (h : Bypass site A t u) (hA : Spans A) (cea : Message) :
    Bypass site A t (u.onCea site cea) ∨ ∃ v peer, site.node.acceptCea cea = .ok peer ∧
      u.boundHost?.all (Identity.same · peer.host) ∧ Bypass site A t v ∧
      u.onCea site cea = v.openAs site peer .iOpen := by
  unfold Turn.onCea
  split
  · rename_i e ha
    exact .inl (h.giveUp (hA.remote (site.node.remote_acceptCea cea e ha)))
  · rename_i peer ha
    split
    · rename_i hb
      refine .inr ⟨_, peer, ha, hb, ?_, rfl⟩
      split
      · exact h.dropCandidate
      · exact h
    · exact .inl (h.giveUp (e := .unknownPeer peer.host) (hA.remote trivial))

/-! ### Messages and the disconnect -/

lemma onLateCapabilities (h : Bypass site A t u) (hA : Spans A) (m : Message) :
    Bypass site A t (u.onLateCapabilities site m) := by
  have decided : ∀ b : Bool, Bypass site A t (if b then u.notAcceptable "Rcv-CE"
      else u.giveUp site (.unknownPeer (m.originHost?.getD ""))) := by
    intro b
    split
    · exact h.notAcceptable (hA.mistake _ (by simp [peerMistakes]))
    · exact h.giveUp (e := .unknownPeer _) (hA.remote trivial)
  exact decided _

lemma onDpa (h : Bypass site A t u) (hA : Spans A) : Bypass site A t (u.onDpa site) := by
  unfold Turn.onDpa
  split
  · exact h.fall
  · exact h.notAcceptable (hA.mistake _ (by simp [peerMistakes]))

lemma onDisconnected (h : Bypass site A t u) (hA : Spans A) (side : Side) {e : Failure}
    (he : A e) : Bypass site A t (u.onDisconnected site side e) := by
  have hs : A (endOfStream e) := by
    unfold endOfStream
    split
    · exact hA.remote trivial
    · exact he
  unfold Turn.onDisconnected
  split
  · exact (h.hangUp .initiator).openResponder hA
  · exact Bypass.transition h.dropCandidate rfl
  · exact Bypass.transition h.dropCandidate rfl
  · exact h.fall
  · exact h.giveUp hs

lemma onHandled (h : Bypass site A t u) (hA : Spans A) (link : Nat) (answer : Message) :
    Bypass site A t (u.onHandled site link answer) := by
  unfold Turn.onHandled
  split
  · split
    · exact h.write hA _ answer (g := .answer) trivial
    · exact h
  · exact h

lemma onStop (h : Bypass site A t u) (hA : Spans A) (waiter : Nat) (cause : DisconnectCause) :
    Bypass site A t (u.onStop site waiter cause) := by
  have hs : Bypass site A t { u with conn.stoppers := u.conn.stoppers ++ [waiter] } :=
    h.adjust rfl rfl rfl
  have hd : ∀ {v : Turn}, Bypass site A t v → ∀ side,
      Bypass site A t (v.disconnect site side cause) := by
    intro v hv side
    have hi : Bypass site A t { v with ids := (site.node.dpr cause v.ids).2 } :=
      hv.adjust rfl rfl rfl
    exact hi.write hA side _ (g := .disconnect) trivial
  unfold Turn.onStop
  dsimp only
  split
  · exact hd hs _
  · exact hd hs _
  · exact hs
  · exact hs.fall

end Bypass

/-! ### The duty -/

@[simp] lemma duty_hangUp (side : Side) : (t.hangUp side).conn.duty = t.conn.duty := by
  cases h : t.conn.link? side <;> cases side <;> simp [hangUp, h] <;> rfl

@[simp] lemma duty_stopDialing : t.stopDialing.conn.duty = t.conn.duty := by
  cases h : t.conn.dialing <;> simp [stopDialing, h]
  rfl

@[simp] lemma duty_dropStreams : t.dropStreams.conn.duty = t.conn.duty := by
  calc _ = ((t.hangUp .initiator).hangUp .responder).conn.duty := rfl
    _ = _ := by simp

lemma duty_foldl_disarm (t : Turn) (xs : List Exchange) : ∃ alarms : Alarms AlarmSlot Event,
    alarms.armed.Sublist t.conn.alarms.armed ∧
      (xs.foldl (fun t x => t.disarm (.exchange x.key)) t).conn.duty =
        { t.conn.duty with alarms := alarms } := by
  induction xs generalizing t with
  | nil => exact ⟨_, .refl _, rfl⟩
  | cons x xs ih =>
    obtain ⟨alarms, hs, hd⟩ := ih (t.disarm (.exchange x.key))
    exact ⟨alarms, hs.trans (Alarms.sublist_cancel _ _), hd⟩

lemma duty_teardown (site : Site) (t : Turn) : ∃ alarms : Alarms AlarmSlot Event,
    alarms.armed.Sublist t.conn.alarms.armed ∧
      (t.teardown site).conn.duty = { t.conn.duty with pending := {}, alarms := alarms } := by
  let u : Turn := ((t.stopDialing.dropStreams.disarm .idle).disarm .reply).disarm .close
  have hd : u.conn.duty = { t.conn.duty with alarms := u.conn.alarms } := by
    have h : t.stopDialing.dropStreams.conn.duty = t.conn.duty := by simp
    rw [← h]
    rfl
  have ha : u.conn.alarms.armed.Sublist t.conn.alarms.armed := by
    have h : t.stopDialing.dropStreams.conn.alarms = t.conn.alarms :=
      congrArg Duty.alarms (show t.stopDialing.dropStreams.conn.duty = t.conn.duty by simp)
    rw [← h]
    exact (Alarms.sublist_cancel _ _).trans ((Alarms.sublist_cancel _ _).trans (Alarms.sublist_cancel _ _))
  obtain ⟨alarms, hs, he⟩ := duty_foldl_disarm u u.conn.pending.entries
  refine ⟨alarms, hs.trans ha, ?_⟩
  calc (t.teardown site).conn.duty
      = { (u.conn.pending.entries.foldl (fun t x => t.disarm (.exchange x.key)) u).conn.duty with
          pending := {} } := rfl
    _ = _ := by rw [he, hd]

lemma duty_fall (site : Site) (h : t.conn.phase ≠ .shutdown) : ∃ alarms : Alarms AlarmSlot Event,
    alarms.armed.Sublist t.conn.alarms.armed ∧ (t.transition site .shutdown).conn.duty =
      { t.conn.duty with phase := .shutdown, pending := {}, alarms := alarms } := by
  have hf : ∀ u : Turn, u.conn.duty = { t.conn.duty with phase := .shutdown } →
      ∃ alarms : Alarms AlarmSlot Event, alarms.armed.Sublist t.conn.alarms.armed ∧
        (u.teardown site).conn.duty =
          { t.conn.duty with phase := .shutdown, pending := {}, alarms := alarms } := by
    intro u hu
    obtain ⟨alarms, hs, he⟩ := duty_teardown site u
    rw [show u.conn.alarms = t.conn.alarms from congrArg Duty.alarms hu] at hs
    exact ⟨alarms, hs, by rw [he, hu]⟩
  rw [transition, if_neg h]
  exact hf _ rfl

lemma duty_transition (site : Site) (t : Turn) {p : Phase} (hs : p ≠ .shutdown)
    (hc : p ≠ .closing) :
    (t.transition site p).conn.duty = { t.conn.duty with phase := p } := by
  by_cases h : t.conn.phase = p
  · rw [transition_of_phase site t h, ← h]
    rfl
  · rw [transition, if_neg h]
    cases p <;> first | rfl | exact absurd rfl hs | exact absurd rfl hc

lemma duty_transition_closing (site : Site) (h : t.conn.phase ≠ .closing) :
    (t.transition site .closing).conn.duty =
      { t.conn.duty with
        phase := .closing, alarms := (t.conn.alarms.cancel .idle).cancel .reply } := by
  rw [transition, if_neg h]
  rfl

lemma rests_fall : t.conn.duty.Rests (t.transition site .shutdown).conn.duty := by
  by_cases h : t.conn.phase = .shutdown
  · rw [transition_of_phase site t h]
    exact .refl
  · obtain ⟨alarms, hs, hd⟩ := duty_fall site h
    rw [hd]
    exact .ended rfl (.inl rfl) hs

lemma rests_part :
    t.conn.duty.Rests ((t.transition site .closing).transition site .shutdown).conn.duty := by
  by_cases h : t.conn.phase = .closing
  · rw [transition_of_phase site t h]
    exact rests_fall
  · have hd := duty_transition_closing site h
    have hp : (t.transition site .closing).conn.phase = .closing := congrArg Duty.phase hd
    have ha : (t.transition site .closing).conn.alarms =
        (t.conn.alarms.cancel .idle).cancel .reply := congrArg Duty.alarms hd
    have hn : (t.transition site .closing).conn.phase ≠ .shutdown := by rw [hp]; decide
    obtain ⟨alarms, hs, he⟩ := duty_fall site hn
    rw [he, hd]
    refine .ended rfl (.inl rfl) ?_
    rw [ha] at hs
    exact hs.trans ((Alarms.sublist_cancel _ _).trans (Alarms.sublist_cancel _ _))

/-- **Moves that bypass the duty leave it alone, or end all of it.** -/
theorem Bypass.rests (h : Bypass site A t u) : t.conn.duty.Rests u.conn.duty := by
  induction h with
  | refl => exact .refl
  | adjust _ _ hd _ ih => exact hd ▸ ih
  | emit _ _ ih => exact ih
  | report _ _ ih => exact ih
  | @transition u _ p hp ih =>
    refine ih.trans ?_
    by_cases hs : p = .shutdown
    · subst hs
      exact rests_fall
    · have hc : p ≠ .closing := by
        rintro rfl
        exact absurd hp (by decide)
      rw [duty_transition site _ hs hc]
      exact .kept (.inr hp) (.inl rfl)
  | part _ ih => exact ih.trans rests_part
  | @begin u _ w hw ih =>
    refine ih.trans ?_
    have hn : ({ u.conn with writing := some w } : Connection).probe? = none := by
      rcases w with ⟨_, _, g, _⟩
      cases g <;> first | rfl | exact hw.elim
    exact .kept (.inl rfl) (.inr hn)

end Turn

end Diameter
