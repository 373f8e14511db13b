import Diameter.Proofs.Flags
import Diameter.Proofs.Rebuff
import Diameter.Proofs.PendingTurns
import Diameter.Proofs.OctetWords

/-!
Messages under another name than the peer's.

On the stream that carries traffic a message is denied if it names a host and a realm that are not
both the peer's: a request is answered so, an answer fails the request it names. Any other message
is taken to be the peer's, also one that names a strange host and no realm at all. Main statement:
`Connection.Run.guards`.
-/

namespace Diameter

/-- The message names a host and a realm, and they are not both the peer's. -/
def PeerIdentity.Disowns (p : PeerIdentity) (m : Message) (host : String) : Prop :=
  ∃ realm, m.originHost? = some host ∧ m.originRealm? = some realm ∧ p.isOrigin host realm = false

/-- An answer to this request, with this result. -/
structure Message.Answers (a m : Message) (r : ResultCode) : Prop where
  answer : a.header.isRequest = false
  command : a.header.command = m.header.command
  hopByHop : a.header.hopByHop = m.header.hopByHop
  endToEnd : a.header.endToEnd = m.header.endToEnd
  result : a.resultCode? = some r.code

namespace Node

variable (n : Node)

lemma answerHeader_keeps {α : Type} (f : Header → α) (hf : ∀ h : Header, f h.setError = f h)
    (h : Header) (r : ResultCode) : f (answerHeader h r) = f h.answer := by
  unfold answerHeader
  split
  · exact hf _
  · rfl

lemma find_resultCode {session : Option Avp} (hs : ∀ a ∈ session, a.code = Avp.Code.sessionId)
    (r : ResultCode) (rest : List Avp) :
    Avp.find (session.toList ++ resultAvp r :: rest) Avp.Code.resultCode = some (resultAvp r) := by
  cases session with
  | none => rfl
  | some a =>
    have ha : a.code = Avp.Code.sessionId := hs a rfl
    simp [Avp.find, ha, resultAvp, Avp.mandatory, Avp.make, Avp.Code.sessionId,
      Avp.Code.resultCode]

lemma answers_of_avps (m : Message) (r : ResultCode) (rest : List Avp) :
    Message.Answers ⟨answerHeader m.header r, m.sessionId?.toList ++ resultAvp r :: rest⟩ m r := by
  have hs : ∀ a ∈ m.sessionId?, a.code = Avp.Code.sessionId := by
    intro a ha
    have hc := List.find?_some ha
    simp only [Bool.and_eq_true, beq_iff_eq] at hc
    exact hc.1
  exact
    { answer := isRequest_answerHeader _ _
      command := answerHeader_keeps Header.command (fun _ => rfl) _ _
      hopByHop := answerHeader_keeps Header.hopByHop (fun _ => rfl) _ _
      endToEnd := answerHeader_keeps Header.endToEnd (fun _ => rfl) _ _
      result := by
        rw [Message.resultCode?, Message.find, find_resultCode hs]
        simp [resultAvp, Avp.mandatory, Avp.make, Avp.asUnsigned32, Avp.Value.encode,
          Except.toOption] }

lemma answer_answers (m : Message) (r : ResultCode) : (n.answer m r).Answers m r :=
  answers_of_avps m r n.origin

lemma errorAnswer_answers (m : Message) (e : Failure) :
    (n.errorAnswer m e).Answers m e.resultCode := by
  have ha : n.errorAnswer m e = ⟨answerHeader m.header e.resultCode,
      m.sessionId?.toList ++ resultAvp e.resultCode :: (n.origin ++ errorDetails m.avps e)⟩ := by
    simp [errorAnswer, answer, localAnswer]
  rw [ha]
  exact answers_of_avps m e.resultCode _

end Node

lemma Stage.isSome_peer? {s : Stage} (hs : s.Sound)
    (h : s.phase = .rOpen ∨ s.phase = .iOpen ∨ s.phase = .closing) : s.peer?.isSome := by
  cases s with
  | running => rfl
  | accepting source | rejecting source =>
    simp only [Stage.Sound, List.mem_cons, List.not_mem_nil, or_false] at hs
    simp only [Stage.phase] at h
    rcases hs with rfl | rfl | rfl | rfl <;> simp at h
  | dialing rival | introducing _ rival => cases rival <;> simp [Stage.phase] at h
  | turningAway i => cases i <;> simp [Stage.phase] at h
  | _ => simp [Stage.phase] at h

namespace Turn

variable {site : Site} {t : Turn} {m : Message} {p : PeerIdentity} {host : String}

lemma stranger?_eq_some (hp : t.conn.identity = some p) :
    t.stranger? m = some host ↔ p.Disowns m host := by
  unfold stranger? PeerIdentity.Disowns
  rw [hp]
  -- no Origin-Host, or no Origin-Realm: nobody is disowned
  cases m.originHost? with
  | none => simp
  | some h =>
    cases m.originRealm? with
    | none => simp
    | some r =>
      cases hx : p.isOrigin h r
      · simp only [hx, Bool.false_eq_true, if_false, Option.some.injEq]
        exact ⟨fun he => ⟨r, he, rfl, he ▸ hx⟩, fun ⟨_, he, _⟩ => he⟩
      · simp only [hx, if_true]
        constructor
        · exact fun he => absurd he (by simp)
        · rintro ⟨r', he, hr, hf⟩
          obtain rfl := Option.some.inj he
          obtain rfl := Option.some.inj hr
          exact absurd (hx.symm.trans hf) (by simp)

lemma failExchange_of_find? (site : Site) {k : UInt32} (r : ResultCode) {x : Exchange}
    (h : t.conn.pending.find? k = some x) :
    .complete ⟨x.waiter, x.localAnswer site.node r⟩ ∈ (t.failExchange site k r).effects ∧
      (t.failExchange site k r).conn.pending.find? k = none := by
  rw [failExchange_eq h]
  exact ⟨by simp [conclude, note, emit, complete], Pending.find?_erase_self⟩

lemma shape_failExchange (k : UInt32) (r : ResultCode) :
    (t.failExchange site k r).conn.shape = t.conn.shape := by
  unfold failExchange
  split <;> rfl

lemma onAnswer_of_find? {x : Exchange} (h : t.conn.pending.find? m.header.hopByHop = some x) :
    .complete ⟨x.waiter, m⟩ ∈ (t.onAnswer m).effects := by
  rw [onAnswer_eq h]
  simp [conclude, note, emit, complete]

lemma onDwa_of_outstanding (site : Site) (h : t.conn.outstanding = some m.header.hopByHop) :
    (t.onDwa site m).conn.outstanding = none ∧ (t.onDwa site m).conn.failures = 0 := by
  simp only [onDwa, h, ne_eq, not_true_eq_false, if_false]
  split <;> exact ⟨rfl, rfl⟩

end Turn

namespace Beat

variable {site : Site} {b : Beat} {side : Side} {link : Nat} {m : Message} {p : PeerIdentity}
  {host : String}

/-- A message with legal flags, other than a capabilities exchange, comes on the stream that carries
traffic. -/
structure Receives (b : Beat) (side : Side) (link : Nat) (m : Message) : Prop where
  input : b.input = .event (.received link m)
  attached : b.conn.sideOf? link = some side
  active : b.conn.activeSide? = some side
  flags : m.header.checkFlags = .ok ()
  other : m.isBaseCommand Command.capabilitiesExchange = false

/-- The message is turned down for the name of its origin. -/
structure Denies (site : Site) (b : Beat) (m : Message) (host : String) : Prop where
  rebuffs : b.Rebuffs site
  /-- A request is answered, if the answer is not too long to be written. -/
  answered : m.header.isRequest →
    (site.node.errorAnswer m (.unknownPeer host)).checkLength = .ok () →
    ∃ w, (b.turn site).conn.writing = some w ∧ b.conn.activeLink? = some w.link ∧
      w.message.Answers m .unknownPeer ∧ w.goal = .complain (.unknownPeer host)
  /-- An answer is reported, and the phase is kept. -/
  reported : m.header.isRequest = false → (b.turn site).conn.phase = b.conn.phase ∧
    .note (.failure b.conn.peerHost? (.unknownPeer host)) ∈ (b.turn site).effects
  /-- The request that an answer names has failed. -/
  failed : m.header.isRequest = false → ∀ x, b.conn.pending.find? m.header.hopByHop = some x →
    .complete ⟨x.waiter, x.localAnswer site.node .unknownPeer⟩ ∈ (b.turn site).effects ∧
      (b.turn site).conn.pending.find? m.header.hopByHop = none

/-- The message is taken to be the peer's. -/
structure Admits (site : Site) (b : Beat) (link : Nat) (m : Message) : Prop where
  dispatched : m.header.isRequest → m.isBaseCommand Command.deviceWatchdog = false →
    m.isBaseCommand Command.disconnectPeer = false → .dispatch link m ∈ (b.turn site).effects
  delivered : m.header.isRequest = false → m.isBaseCommand Command.deviceWatchdog = false →
    m.isBaseCommand Command.disconnectPeer = false →
    ∀ x, b.conn.pending.find? m.header.hopByHop = some x →
      .complete ⟨x.waiter, m⟩ ∈ (b.turn site).effects
  /-- The answer to the watchdog request that is unanswered sets the count back. -/
  reassured : m.header.isRequest = false → m.isBaseCommand Command.deviceWatchdog →
    b.conn.outstanding = some m.header.hopByHop →
    (b.turn site).conn.outstanding = none ∧ (b.turn site).conn.failures = 0
  /-- The answer to the request to part ends the connection. -/
  parted : m.header.isRequest = false → m.isBaseCommand Command.disconnectPeer →
    b.conn.phase = .closing → (b.turn site).conn.phase = .shutdown

lemma turn_received (hi : b.input = .event (.received link m))
    (hs : b.conn.sideOf? link = some side) (ha : b.conn.activeSide? = some side) :
    b.turn site = b.begun.onOpenMessage site side link m := by
  have hs' : b.begun.conn.sideOf? link = some side := (sideOf?_begun hi link).trans hs
  have ha' : b.begun.conn.activeSide? = some side := (activeSide?_begun hi).trans ha
  rw [turn_event hi]
  simp only [Turn.handle, hs']
  exact Turn.onReceived_of_activeSide? site link m ha'

lemma Receives.turn (h : b.Receives side link m) :
    b.turn site = b.begun.onOpenMessage site side link m :=
  turn_received h.input h.attached h.active

lemma Receives.stranger?_begun (h : b.Receives side link m) (hp : b.conn.identity = some p) :
    b.begun.stranger? m = some host ↔ p.Disowns m host :=
  Turn.stranger?_eq_some ((congrArg Connection.identity (conn_begun h.input)).trans hp)

lemma Receives.denies_request (h : b.Receives side link m) (ht : b.conn.Takes b.input)
    (hs : b.begun.stranger? m = some host) (hm : m.header.isRequest) : b.Denies site m host := by
  have hu : b.turn site = b.begun.write site side (site.node.errorAnswer m (.unknownPeer host))
      (.complain (.unknownPeer host)) := by
    rw [h.turn]
    simp [Turn.onOpenMessage, h.flags, h.other, hs, hm]
  refine ⟨?_, fun _ hl => ?_, by simp [hm], by simp [hm]⟩
  · unfold Rebuffs
    rw [hu]
    exact (Turn.Rebuffs.idle (writing_begun_of_event ht h.input)).write _ _ trivial
  · obtain ⟨k, hk, -⟩ := Connection.link?_of_sideOf? h.attached
    have hk' : b.begun.conn.link? side = some k := by
      rw [conn_begun h.input]
      exact hk
    rw [hu, Turn.write_of_link site b.begun hk', Turn.writeOn_of_checkLength site b.begun k _ hl]
    exact ⟨_, rfl, by simp [Connection.activeLink?, h.active, hk],
      site.node.errorAnswer_answers m (.unknownPeer host), rfl⟩

lemma Receives.denies_answer (h : b.Receives side link m) (ht : b.conn.Takes b.input)
    (hs : b.begun.stranger? m = some host) (hm : m.header.isRequest = false) :
    b.Denies site m host := by
  let v := b.begun.failExchange site m.header.hopByHop .unknownPeer
  have hu : b.turn site = v.report (.unknownPeer host) := by
    rw [h.turn]
    simp [v, Turn.onOpenMessage, h.flags, h.other, hs, hm]
  have hc : v.conn.shape = b.begun.conn.shape := Turn.shape_failExchange _ _
  have hh : v.conn.peerHost? = b.conn.peerHost? :=
    (Connection.peerHost?_congr hc).trans b.peerHost?_begun
  refine ⟨?_, by simp [hm], fun _ => ⟨?_, ?_⟩, fun _ x hx => ?_⟩
  · -- it changes nothing but the exchange that fails
    unfold Rebuffs
    rw [hu]
    exact ((Turn.Rebuffs.idle (writing_begun_of_event ht h.input)).failExchange _ _).report _
  · rw [hu]
    exact (congrArg Shape.phase hc).trans (congrArg Duty.phase b.duty_begun)
  · -- the failure is reported
    rw [hu, ← hh]
    exact List.mem_append_right _ (List.mem_singleton_self _)
  · -- the exchange that it names fails
    have hx' : b.begun.conn.pending.find? m.header.hopByHop = some x := by
      rw [conn_begun h.input]
      exact hx
    obtain ⟨he, hn⟩ := Turn.failExchange_of_find? site .unknownPeer hx'
    rw [hu]
    exact ⟨List.mem_append_left _ he, hn⟩

lemma Receives.denies (h : b.Receives side link m) (ht : b.conn.Takes b.input)
    (hp : b.conn.identity = some p) (hd : p.Disowns m host) : b.Denies site m host := by
  have hs : b.begun.stranger? m = some host := (h.stranger?_begun hp).mpr hd
  cases hm : m.header.isRequest with
  | true => exact h.denies_request ht hs hm
  | false => exact h.denies_answer ht hs hm

lemma Receives.admits (h : b.Receives side link m) (hp : b.conn.identity = some p)
    (hd : ∀ host, ¬ p.Disowns m host) : b.Admits site link m := by
  have hs : b.begun.stranger? m = none :=
    Option.eq_none_iff_forall_ne_some.mpr fun host he => hd host ((h.stranger?_begun hp).mp he)
  have hu : b.turn site = b.begun.onPeerMessage site side link m := by
    rw [h.turn]
    simp [Turn.onOpenMessage, h.flags, h.other, hs]
  rw [Turn.onPeerMessage_eq] at hu
  obtain ⟨_, _, hst⟩ := Turn.duty_stir site b.begun
  rw [b.duty_begun] at hst
  have hpend : (b.begun.stir site).conn.pending = b.conn.pending := congrArg Duty.pending hst
  have hout : (b.begun.stir site).conn.outstanding = b.conn.outstanding :=
    congrArg Duty.outstanding hst
  have hph : (b.begun.stir site).conn.phase = b.conn.phase := congrArg Duty.phase hst
  refine ⟨fun hr hw hx => ?_, fun hr hw hx x hf => ?_, fun hr hw ho => ?_, fun hr hx hcl => ?_⟩
  · -- a request goes to the registry
    simp [hu, hr, hw, hx, Turn.emit]
  · -- an answer goes to whoever waits for it
    simp only [hr, hw, hx, Bool.false_eq_true, if_false] at hu
    rw [hu]
    exact Turn.onAnswer_of_find? (hpend ▸ hf)
  · -- a watchdog answer
    simp only [hr, hw, Bool.false_eq_true, if_false, if_true] at hu
    rw [hu]
    exact Turn.onDwa_of_outstanding site (hout.trans ho)
  · -- a disconnect answer, which is no watchdog answer
    have hw : m.isBaseCommand Command.deviceWatchdog = false := by
      simp only [Message.isBaseCommand, Bool.and_eq_true, beq_iff_eq] at hx
      simp [Message.isBaseCommand, hx.2, Command.deviceWatchdog, Command.disconnectPeer]
    simp only [hr, hw, hx, Bool.false_eq_true, if_false, if_true] at hu
    rw [hu, Turn.onDpa, if_pos (hph.trans hcl)]
    exact Turn.phase_transition_shutdown site _

end Beat

namespace Connection

variable {site : Site} {expected : Option String} {first : Event} {as ds : List Beat} {b : Beat}
  {c : Connection} {side : Side} {link : Nat} {m : Message}

lemma Run.bound (h : Run site (fresh expected first) as c) (hf : first.IsOpening)
    (ha : c.activeSide? = some side) : ∃ p, c.identity = some p := by
  obtain ⟨n, s, hc, hsh⟩ := h.course hf
  have hph : c.phase = s.phase := Stage.phase_of_shape hsh
  have hid : c.identity = s.peer? :=
    (congrArg Shape.identity hsh).trans (Stage.identity_shape _ _ _)
  rw [hid]
  exact Option.isSome_iff_exists.mp
    (Stage.isSome_peer? (hc.sound hf) (hph ▸ Turn.phase_of_activeSide? ha))

/-- **Who speaks on an open connection.** A message that names a host and a realm which are not
both the peer's is denied, and nothing more comes of it once the complaint is written. Any other
message is taken to be the peer's, whatever single name it gives. -/
theorem Run.guards (h : Run site (fresh expected first) (as ++ b :: ds) c) (hf : first.IsOpening)
    (hb : b.Receives side link m) :
    ∃ p, b.conn.identity = some p ∧
      ((∃ host, p.Disowns m host ∧ b.Denies site m host ∧
        ∀ d es result, ds = d :: es → d.input = .written result → d.Rebuffs site) ∨
      (∀ host, ¬ p.Disowns m host) ∧ b.Admits site link m) := by
  obtain ⟨hr, ht, hs⟩ := h.split
  obtain ⟨p, hid⟩ := hr.bound hf hb.active
  refine ⟨p, hid, ?_⟩
  by_cases hd : ∃ host, p.Disowns m host
  · obtain ⟨host, hd⟩ := hd
    have hden : b.Denies site m host := hb.denies ht hid hd
    refine .inl ⟨host, hd, hden, ?_⟩
    rintro d es result rfl hi
    have hrun : Run site (b.turn site).conn ([] ++ d :: es) c := hs
    obtain ⟨h₀, htd, -⟩ := hrun.split
    exact hden.rebuffs.written h₀.shape_nil hi htd
  · simp only [not_exists] at hd
    exact .inr ⟨hd, hb.admits hid hd⟩

/-- A connection that is open. -/
def opened (site : Site) (cer : Message) : List Beat × Connection :=
  let b := opening (.acceptedCer 0 cer)
  let r := (b.turn site).conn.play site [.written none]
  ([b] ++ r.1, r.2)

lemma run_opened (m : Message) :
    let site : Site := ⟨Node.plain "a", {}⟩
    let cer := ((Node.plain "b").cer {}).1
    let b := (opened site cer).2.beat (.event (.received 1 m))
    Run site (fresh none (.acceptedCer 0 cer)) ((opened site cer).1 ++ b :: [])
      (b.turn site).conn := by
  intro site cer b
  have h : Run site (fresh none (.acceptedCer 0 cer)) (opened site cer).1 b.conn :=
    (run_opening site (.acceptedCer 0 cer)).play (by decide +kernel)
  have hp : (opened site cer).2.mayTake (.event .closeTimeout) := by decide +kernel
  have ht : b.conn.mayTake b.input := hp
  exact h.turn (takes_of_mayTake ht)

/-- A request from another host in the peer's realm is denied. -/
theorem denies_otherHost :
    let site : Site := ⟨Node.plain "a", {}⟩
    let cer := ((Node.plain "b").cer {}).1
    let m : Message := ⟨.request 272 4, [.mandatory Avp.Code.originHost (.diameterIdentity "evil"),
      .mandatory Avp.Code.originRealm (.diameterIdentity "realm")]⟩
    let b := (opened site cer).2.beat (.event (.received 1 m))
    Run site (fresh none (.acceptedCer 0 cer)) ((opened site cer).1 ++ b :: [])
      (b.turn site).conn ∧ b.Receives .responder 1 m ∧ b.Denies site m "evil" := by
  intro site cer m b
  have h : Run site (fresh none (.acceptedCer 0 cer)) ((opened site cer).1 ++ b :: [])
      (b.turn site).conn := run_opened m
  have hb : b.Receives .responder 1 m :=
    ⟨rfl, by decide +kernel, by decide +kernel, by decide +kernel, by decide +kernel⟩
  have hh : m.originHost? = some "evil" := by decide +kernel
  have hr : m.originRealm? = some "realm" := by decide +kernel
  have ho : b.conn.identity.all (fun p => p.isOrigin "evil" "realm" = false) := by decide +kernel
  refine ⟨h, hb, ?_⟩
  obtain ⟨p, hp, ⟨host, hd, hden, -⟩ | ⟨hn, -⟩⟩ := h.guards trivial hb
  · obtain ⟨_, he, -, -⟩ := hd
    obtain rfl := Option.some.inj (hh.symm.trans he)
    exact hden
  · rw [hp] at ho
    exact absurd ⟨"realm", hh, hr, by simpa using ho⟩ (hn "evil")

/-- A request that names another host and no realm goes to the registry. -/
theorem dispatches_hostAlone :
    let site : Site := ⟨Node.plain "a", {}⟩
    let cer := ((Node.plain "b").cer {}).1
    let m : Message := ⟨.request 272 4, [.mandatory Avp.Code.originHost (.diameterIdentity "evil")]⟩
    let b := (opened site cer).2.beat (.event (.received 1 m))
    Run site (fresh none (.acceptedCer 0 cer)) ((opened site cer).1 ++ b :: [])
      (b.turn site).conn ∧ b.Receives .responder 1 m ∧ b.conn.phase = .rOpen ∧
      b.conn.identity.map (·.host) = some "b" ∧ m.originHost? = some "evil" ∧
      Identity.same "b" "evil" = false ∧ m.header.isRequest ∧
      .dispatch 1 m ∈ (b.turn site).effects := by
  intro site cer m b
  have hb : b.Receives .responder 1 m :=
    ⟨rfl, by decide +kernel, by decide +kernel, by decide +kernel, by decide +kernel⟩
  have hr : m.originRealm? = none := by decide +kernel
  have hi : b.conn.identity.isSome := by decide +kernel
  obtain ⟨p, hp⟩ := Option.isSome_iff_exists.mp hi
  have hn : ∀ host, ¬ p.Disowns m host := by
    rintro host ⟨realm, -, he, -⟩
    exact absurd (hr.symm.trans he) (by simp)
  have ha : b.Admits site 1 m := hb.admits hp hn
  exact ⟨run_opened m, hb, by decide +kernel, by decide +kernel, by decide +kernel,
    by decide +kernel, by decide +kernel,
    ha.dispatched (by decide +kernel) (by decide +kernel) (by decide +kernel)⟩

end Connection

end Diameter
