import Diameter.Proofs.Duel
import Diameter.Proofs.Handshake

/-!
The stages that an end of a duel goes through, and where each of its turns leads.

Whoever wins the election drops the stream it dialed once it has been dialed itself, and opens on
the other one; whoever loses keeps to the stream it dialed. Neither ever turns a stream away with
an answer, rejects a CER or is shut down (`Duel.Admits`).
-/

namespace Diameter

namespace Stage

/-- The CER of this end is out. -/
def called : Stage → Bool
  | closed _ | dialing _ => false
  | _ => true

/-- The connection holds on to a stream that it was dialed on. -/
def courted : Stage → Bool
  | running _ side _ _ _ => side = .responder
  | s => s.rival?.isSome

/-- It is decided on which stream the connection opens. -/
def settled : Stage → Bool
  | accepting _ _ _ | running _ _ _ _ _ => true
  | _ => false

/-- How far the end is from being open. -/
def distance : Stage → Nat
  | closed _ => 6
  | dialing _ => 5
  | introducing _ _ _ _ => 4
  | electing _ _ _ => 3
  | introduced _ => 2
  | accepting _ _ _ => 1
  | _ => 0

end Stage

namespace Connection

variable {c : Connection} {k : Link}

lemma sideOf?_initiator (h : c.initiator = some k) : c.sideOf? k.id = some .initiator := by
  simp [sideOf?, h]

lemma sideOf?_responder (h : c.responder = some k) (hi : ∀ i ∈ c.initiator, i.id ≠ k.id) :
    c.sideOf? k.id = some .responder := by
  have hn : ¬c.initiator.any (·.id = k.id) := by
    rw [Option.any_eq_true]
    rintro ⟨i, hm, hk⟩
    exact hi i hm (by simpa using hk)
  simp [sideOf?, h, hn]

end Connection

lemma Turn.handle_cea {site : Site} {t : Turn} {i : Link} {cea : Message}
    (hi : t.conn.initiator = some i)
    (hp : t.conn.phase = .waitICea ∨ t.conn.phase = .waitReturns) (hc : cea.isCea) :
    t.handle site (.received i.id cea) = t.onCea site cea := by
  simp only [handle, Connection.sideOf?_initiator hi]
  rcases hp with hp | hp <;> simp [onReceived, hp, hc]

namespace Duel

variable (d : Duel) (p : Party)

def IsCer (m : Message) : Prop := ∃ ids, m = ((d.node p).cer ids).1

def IsCea (m : Message) : Prop := ∃ cer : Message, cer.isCer ∧ m = (d.node p).cea cer .success

/-- A stream of the other end whose CER was in order. -/
structure Courts (n : Nat) (x : Rival) : Prop where
  stream : x.link.stream = d.stream p.other
  id : x.link.id ≤ n
  host : x.peer.host = d.host p.other
  cea : d.IsCea p x.cea

/-- The stream that the election leaves to an end. -/
def chosen : Nat := if d.wins p then d.stream p.other else d.stream p

/-- The stages that an end goes through, with `n` streams attached. -/
def Admits (n : Nat) : Stage → Prop
  | .closed first => first = .start
  | .dialing rival => ∀ x ∈ rival, d.Courts p n x
  | .introducing i rival cer _ =>
    d.IsCer p cer ∧ i.stream = d.stream p ∧ i.id ≤ n ∧
      ∀ x ∈ rival, d.Courts p n x ∧ i.id ≠ x.link.id
  | .introduced i => i.stream = d.stream p ∧ i.id ≤ n
  | .electing i x called =>
    called = d.wins p ∧ i.stream = d.stream p ∧ i.id ≤ n ∧ d.Courts p n x ∧ i.id ≠ x.link.id
  | .accepting source x _ => d.wins p ∧ source = .waitReturns ∧ d.Courts p n x
  | .running closing side link _ writing =>
    closing = false ∧ writing = none ∧
      if d.wins p then side = .responder ∧ link.stream = d.stream p.other
      else side = .initiator ∧ link.stream = d.stream p
  | _ => False

/-- The connection of an end is in a stage. -/
def Stands (c : Connection) (s : Stage) : Prop :=
  ∃ n, c.shape = s.shape (some (d.host p.other)) n ∧ d.Admits p n s

/-- A turn has led an end to a stage. -/
def Lands (s : Stage) (out : List Effect) (t : Turn) : Prop :=
  ∃ n, t.Arrives (some (d.host p.other)) n s out ∧ d.Admits p n s

variable {d p} {s : State} {a : Stage} {out : List Effect} {t : Turn}

lemma Fair.chosen_other (h : d.Fair) (p : Party) : d.chosen p.other = d.chosen p := by
  cases hw : d.wins p <;> simp [chosen, h.wins_other, hw]

lemma Courts.mono {n n' : Nat} {x : Rival} (h : d.Courts p n x) (hn : n ≤ n') :
    d.Courts p n' x :=
  ⟨h.stream, h.id.trans hn, h.host, h.cea⟩

lemma Lands.stands (h : d.Lands p a out t) : d.Stands p t.conn a := by
  obtain ⟨n, ht, ha⟩ := h
  exact ⟨n, ht.shape, ha⟩

lemma Lands.closes (h : d.Lands p a out t) (stream : Nat) :
    t.closes stream = out.any (Effect.closes stream) := by
  obtain ⟨n, ht, -⟩ := h
  rw [t.closes_eq, ht.outline]

lemma Lands.writing (h : d.Lands p a out t) : ∃ n, d.Admits p n a ∧
    t.conn.writing = (a.shape (some (d.host p.other)) n).writing := by
  obtain ⟨n, ht, ha⟩ := h
  exact ⟨n, ha, congrArg Shape.writing ht.shape⟩

lemma Courts.wonElection {n : Nat} {x : Rival} (h : d.Courts p n x) :
    Diameter.wonElection (d.site p).node.host x.peer.host = d.wins p := by
  rw [h.host]
  rfl

lemma Stands.begins {e : Event} (h : d.Stands p (s.conn p) a) (ht : (s.conn p).Takes (.event e))
    (m : Moment) :
    ∃ n t, d.turn s p m (.event e) = Turn.handle (d.site p) e t ∧
      t.Begins (some (d.host p.other)) n a ∧ d.Admits p n a := by
  obtain ⟨n, hc, ha⟩ := h
  exact ⟨n, _, rfl, ht.begins hc m.now m.serial m.ids, ha⟩

lemma Stands.idle {c : Connection} {e : Event} (h : d.Stands p c a) (ht : c.Takes (.event e))
    (hs : e ≠ .start) (hw : e ≠ .wonElection) : c.internal = [] ∧ c.writing = none := by
  cases ht with
  | queued hacc hi => exact ⟨hi, hacc.2⟩
  | internal hacc hi =>
    obtain ⟨n, hc, ha⟩ := h
    have hm : e ∈ (a.shape (some (d.host p.other)) n).internal := by
      rw [← hc, show c.shape.internal = _ from hi]
      exact List.mem_cons_self
    rcases Stage.mem_internal hm with rfl | ⟨i, x, rfl, rfl⟩
    · exact absurd ha hs
    · exact absurd rfl hw

lemma Stands.ready {c : Connection} {e : Event} (h : d.Stands p c a) (ht : c.Takes (.event e))
    (hs : e ≠ .start) (hw : e ≠ .wonElection) :
    (∃ rival, a = .dialing rival) ∨ (∃ i, a = .introduced i) ∨ (∃ i x, a = .electing i x false) ∨
      ∃ side link peer, a = .running false side link peer none := by
  have hidle := h.idle ht hs hw
  obtain ⟨n, hc, ha⟩ := h
  have hi : (a.shape (some (d.host p.other)) n).internal = [] := hc ▸ hidle.1
  have hwr : (a.shape (some (d.host p.other)) n).writing = none := hc ▸ hidle.2
  cases a with
  | dialing rival => exact .inl ⟨rival, rfl⟩
  | introduced i => exact .inr (.inl ⟨i, rfl⟩)
  | electing i x called =>
    cases called with
    | false => exact .inr (.inr (.inl ⟨i, x, rfl⟩))
    | true => cases hi
  | running closing side link peer w =>
    obtain ⟨rfl, rfl, -⟩ := ha
    exact .inr (.inr (.inr ⟨side, link, peer, rfl⟩))
  | closed => cases hi
  | introducing | accepting => cases hwr
  | turningAway | awaitingCer | rejecting | shut => cases ha

lemma Stands.takes {c : Connection} (h : d.Stands p c a) (hp : a.phase ≠ .shutdown)
    (hi : ∀ expected n, (a.shape expected n).internal = [])
    (hw : ∀ expected n, (a.shape expected n).writing = none) (e : Event) :
    c.Takes (.event e) := by
  obtain ⟨n, hc, -⟩ := h
  have hph : c.phase = a.phase := Stage.phase_of_shape hc
  exact .queued ⟨hph ▸ hp, (congrArg Shape.writing hc).trans (hw _ n)⟩
    ((congrArg Shape.internal hc).trans (hi _ n))

lemma Stands.takes_internal {c : Connection} {e : Event} (h : d.Stands p c a)
    (he : e ∈ c.internal) : c.Takes (.event e) := by
  obtain ⟨n, hc, -⟩ := h
  have hp : c.phase = a.phase := Stage.phase_of_shape hc
  have hi : c.internal = _ := congrArg Shape.internal hc
  have hw : c.writing = _ := congrArg Shape.writing hc
  have hm : e ∈ (a.shape (some (d.host p.other)) n).internal := hc ▸ he
  rcases Stage.mem_internal hm with rfl | ⟨i, x, rfl, rfl⟩
  · exact .internal ⟨by simp [hp, Stage.phase], hw⟩ hi
  · exact .internal ⟨by simp [hp, Stage.phase], hw⟩ hi

lemma Stands.writes {c : Connection} (h : d.Stands p c a) (hw : c.writing.isSome) :
    (∃ i rival cer deadline, a = .introducing i rival cer deadline) ∨
      ∃ source x deadline, a = .accepting source x deadline := by
  obtain ⟨n, hc, ha⟩ := h
  rw [show c.writing = _ from congrArg Shape.writing hc] at hw
  cases a with
  | introducing i rival cer deadline => exact .inl ⟨i, rival, cer, deadline, rfl⟩
  | accepting source x deadline => exact .inr ⟨source, x, deadline, rfl⟩
  | running closing side link peer w =>
    obtain ⟨-, rfl, -⟩ := ha
    cases side <;> cases hw
  | closed | dialing | introduced | electing => cases hw
  | turningAway | awaitingCer | rejecting | shut => cases ha

lemma Stands.dials {c : Connection} (h : d.Stands p c a) (hd : c.dialing) :
    ∃ rival, a = .dialing rival := by
  obtain ⟨n, hc, ha⟩ := h
  rw [show c.dialing = _ from congrArg Shape.dialing hc] at hd
  cases a with
  | dialing rival => exact ⟨rival, rfl⟩
  | running closing side => cases side <;> cases hd
  | closed | introducing | introduced | electing | accepting => cases hd
  | turningAway | awaitingCer | rejecting | shut => cases ha

lemma Stands.initiator {c : Connection} {link : Link} (h : d.Stands p c a)
    (hl : c.initiator = some link) :
    link.stream = d.stream p ∧ (d.wins p → a.settled = false) := by
  obtain ⟨n, hc, ha⟩ := h
  rw [show c.initiator = _ from congrArg Shape.initiator hc] at hl
  cases a with
  | introducing i rival cer deadline =>
    obtain rfl : i = link := Option.some.inj hl
    exact ⟨ha.2.1, fun _ => rfl⟩
  | introduced i =>
    obtain rfl : i = link := Option.some.inj hl
    exact ⟨ha.1, fun _ => rfl⟩
  | electing i x called =>
    obtain rfl : i = link := Option.some.inj hl
    exact ⟨ha.2.1, fun _ => rfl⟩
  | running closing side k peer w =>
    cases side with
    | initiator =>
      obtain rfl : k = link := Option.some.inj hl
      obtain ⟨-, -, ha⟩ := ha
      by_cases hw : d.wins p
      · rw [if_pos hw] at ha
        cases ha.1
      · rw [if_neg hw] at ha
        exact ⟨ha.2, fun h => absurd h hw⟩
    | responder => cases hl
  | closed | dialing | accepting => cases hl
  | turningAway | awaitingCer | rejecting | shut => cases ha

lemma Stands.responder {c : Connection} {link : Link} (h : d.Stands p c a)
    (hl : c.responder = some link) : link.stream = d.stream p.other ∧ a.courted := by
  obtain ⟨n, hc, ha⟩ := h
  rw [show c.responder = _ from congrArg Shape.responder hc] at hl
  cases a with
  | dialing rival =>
    obtain ⟨x, rfl, rfl⟩ := Option.map_eq_some_iff.mp hl
    exact ⟨(ha x rfl).stream, rfl⟩
  | introducing i rival cer deadline =>
    obtain ⟨x, rfl, rfl⟩ := Option.map_eq_some_iff.mp hl
    exact ⟨(ha.2.2.2 x rfl).1.stream, rfl⟩
  | electing i x called =>
    obtain rfl : x.link = link := Option.some.inj hl
    exact ⟨ha.2.2.2.1.stream, rfl⟩
  | accepting source x deadline =>
    obtain rfl : x.link = link := Option.some.inj hl
    exact ⟨ha.2.2.stream, rfl⟩
  | running closing side k peer w =>
    cases side with
    | responder =>
      obtain rfl : k = link := Option.some.inj hl
      obtain ⟨-, -, ha⟩ := ha
      by_cases hw : d.wins p
      · rw [if_pos hw] at ha
        exact ⟨ha.2, rfl⟩
      · rw [if_neg hw] at ha
        cases ha.1
    | initiator => cases hl
  | closed | introduced => cases hl
  | turningAway | awaitingCer | rejecting | shut => cases ha

lemma Stands.courted_of_wins {c : Connection} (h : d.Stands p c a) (hw : d.wins p)
    (hs : a.settled) : a.courted := by
  obtain ⟨n, hc, ha⟩ := h
  cases a with
  | accepting => rfl
  | running closing side link peer w =>
    obtain ⟨-, -, ha⟩ := ha
    rw [if_pos hw] at ha
    simp [Stage.courted, ha.1]
  | _ => cases hs

lemma Stands.opened {c : Connection} {closing : Bool} {side : Side} {link : Link}
    {peer : PeerIdentity} {writing : Option Writing}
    (h : d.Stands p c (.running closing side link peer writing)) :
    c.phase = (if d.wins p then .rOpen else .iOpen) ∧ c.activeLink? = some link ∧
      link.stream = d.chosen p := by
  obtain ⟨n, hc, rfl, rfl, ha⟩ := h
  have hp : c.phase = _ := congrArg Shape.phase hc
  have hi : c.initiator = _ := congrArg Shape.initiator hc
  have hr : c.responder = _ := congrArg Shape.responder hc
  cases hw : d.wins p with
  | true =>
    rw [if_pos hw] at ha
    obtain ⟨rfl, hs⟩ := ha
    simp [Connection.activeLink?, Connection.activeSide?, Connection.link?, chosen, hp, hr, hs, hw,
      Stage.shape, Stage.phase]
  | false =>
    rw [if_neg (by simp [hw])] at ha
    obtain ⟨rfl, hs⟩ := ha
    simp [Connection.activeLink?, Connection.activeSide?, Connection.link?, chosen, hp, hi, hs, hw,
      Stage.shape, Stage.phase]

lemma Stands.phase {c : Connection} (h : d.Stands p c a) :
    c.phase ≠ .shutdown ∧
      (c.phase.isOpen → ∃ link, c.activeLink? = some link ∧ link.stream = d.chosen p) := by
  have hp : c.phase = a.phase := by
    obtain ⟨n, hc, -⟩ := h
    exact Stage.phase_of_shape hc
  cases a with
  | running closing side link peer w =>
    obtain ⟨hp, hl, hs⟩ := h.opened
    refine ⟨?_, fun _ => ⟨link, hl, hs⟩⟩
    rw [hp]
    split <;> decide
  | accepting source x deadline =>
    obtain ⟨n, -, -, rfl, -⟩ := h
    simp [hp, Stage.phase, Phase.isOpen]
  | dialing rival => cases rival <;> simp [hp, Stage.phase, Phase.isOpen]
  | introducing i rival => cases rival <;> simp [hp, Stage.phase, Phase.isOpen]
  | closed | introduced | electing => simp [hp, Stage.phase, Phase.isOpen]
  | turningAway | awaitingCer | rejecting | shut =>
    obtain ⟨n, -, ha⟩ := h
    cases ha

/-! ### Dialing -/

lemma Stands.start (h : d.Stands p (s.conn p) (.closed .start))
    (ht : (s.conn p).Takes (.event .start)) (m : Moment) :
    d.Lands p (.dialing none) [.showPhase .waitConnAck, .dial]
      (d.turn s p m (.event .start)) := by
  obtain ⟨n, t, hr, hb, -⟩ := h.begins ht m
  rw [hr]
  exact ⟨n, Turn.onStart_arrives hb, by simp [Admits]⟩

lemma Stands.dialed (hd : d.Fair) {rival : Option Rival}
    (h : d.Stands p (s.conn p) (.dialing rival))
    (ht : (s.conn p).Takes (.event (.dialed (d.stream p)))) (m : Moment) :
    ∃ i cer deadline, d.Lands p (.introducing i rival cer deadline) [.listen i]
      (d.turn s p m (.event (.dialed (d.stream p)))) := by
  obtain ⟨n, t, hr, hb, ha⟩ := h.begins ht m
  rw [hr]
  refine ⟨⟨n + 1, d.stream p⟩, _, _, n + 1,
    Turn.onDialed_arrives hb (d.stream p) (hd.cer p t.ids), ⟨_, rfl⟩, rfl, Nat.le_refl _, ?_⟩
  intro x hx
  exact ⟨(ha x hx).mono (Nat.le_succ n), Nat.ne_of_gt (Nat.lt_succ_of_le (ha x hx).id)⟩

/-! ### The end of a write -/

lemma Stands.introduced {i : Link} {cer : Message} {deadline : Nat}
    (h : d.Stands p (s.conn p) (.introducing i none cer deadline)) (m : Moment) :
    d.Lands p (.introduced i) [.showPhase .waitICea] (d.turn s p m (.written none)) := by
  obtain ⟨n, hc, -, hi, hn, -⟩ := h
  refine ⟨n, ?_, hi, hn⟩
  rw [turn, Beat.turn, step_written (congrArg Shape.writing hc)]
  exact Turn.settle_introduce_arrives (begins_written hc rfl _ _ _)

lemma Stands.elects {i : Link} {x : Rival} {cer : Message} {deadline : Nat}
    (h : d.Stands p (s.conn p) (.introducing i (some x) cer deadline)) (m : Moment) :
    d.Lands p (.electing i x (d.wins p)) [.showPhase .waitReturns]
      (d.turn s p m (.written none)) := by
  obtain ⟨n, hc, -, hi, hn, hx⟩ := h
  obtain ⟨hx, hne⟩ := hx x rfl
  refine ⟨n, ?_, rfl, hi, hn, hx, hne⟩
  rw [turn, Beat.turn, step_written (congrArg Shape.writing hc), ← hx.wonElection]
  exact Turn.settle_introduce_arrives_electing (begins_written hc rfl _ _ _)

lemma Stands.accepts {source : Phase} {x : Rival} {deadline : Nat}
    (h : d.Stands p (s.conn p) (.accepting source x deadline)) (m : Moment) :
    d.Lands p (.running false .responder x.link x.peer none) [.showPeer x.peer, .showPhase .rOpen]
      (d.turn s p m (.written none)) := by
  obtain ⟨n, hc, hw, rfl, hx⟩ := h
  refine ⟨n, ?_, rfl, rfl, ?_⟩
  · rw [turn, Beat.turn, step_written (congrArg Shape.writing hc)]
    exact Turn.settle_accept_arrives (by decide) (begins_written hc rfl _ _ _)
  · rw [if_pos hw]
    exact ⟨rfl, hx.stream⟩

/-! ### The stream of the other end -/

lemma Fair.courts (hd : d.Fair) (p : Party) (n : Nat) {cer : Message} (hc : d.IsCer p.other cer) :
    ∃ peer, (d.node p).identify cer = .ok peer ∧
      (some (d.host p.other)).all (Identity.same · peer.host) ∧
      d.Courts p (n + 1) ⟨⟨n + 1, d.stream p.other⟩, (d.node p).cea cer .success, peer⟩ := by
  obtain ⟨ids, rfl⟩ := hc
  obtain ⟨peer, hp, hh⟩ := hd.identify_cer p ids
  exact ⟨peer, hp, by simp [hh, Identity.same], rfl, Nat.le_refl _, hh, _, Node.isCer_cer ids, rfl⟩

lemma Stands.courted (hd : d.Fair) {cer : Message} (hc : d.IsCer p.other cer)
    (h : d.Stands p (s.conn p) (.dialing none))
    (ht : (s.conn p).Takes (.event (.acceptedCer (d.stream p.other) cer))) (m : Moment) :
    ∃ x, d.Lands p (.dialing (some x)) [.listen x.link, .showPhase .waitConnAckElect]
      (d.turn s p m (.event (.acceptedCer (d.stream p.other) cer))) := by
  obtain ⟨n, t, hr, hb, -⟩ := h.begins ht m
  obtain ⟨peer, hp, he, hx⟩ := hd.courts p n hc
  have hph : t.conn.phase = .waitConnAck := hb.phase
  have ho : t.onAcceptedCer (d.site p) (d.stream p.other) cer =
      t.electIncoming (d.site p) (d.stream p.other) cer := by
    simp [Turn.onAcceptedCer, hph]
  rw [hr, Turn.handle, ho]
  refine ⟨_, n + 1, Turn.electIncoming_arrives_dialing hb _ hp he, ?_⟩
  rintro y hy
  obtain rfl := Option.some.inj hy
  exact hx

lemma Stands.challenged (hd : d.Fair) {cer : Message} (hc : d.IsCer p.other cer) {i : Link}
    (h : d.Stands p (s.conn p) (.introduced i))
    (ht : (s.conn p).Takes (.event (.acceptedCer (d.stream p.other) cer))) (m : Moment) :
    ∃ x, d.Lands p (.electing i x (d.wins p)) [.listen x.link, .showPhase .waitReturns]
      (d.turn s p m (.event (.acceptedCer (d.stream p.other) cer))) := by
  obtain ⟨n, t, hr, hb, hi, hn⟩ := h.begins ht m
  obtain ⟨peer, hp, he, hx⟩ := hd.courts p n hc
  have hph : t.conn.phase = .waitICea := hb.phase
  have ho : t.onAcceptedCer (d.site p) (d.stream p.other) cer =
      t.electIncoming (d.site p) (d.stream p.other) cer := by
    simp [Turn.onAcceptedCer, hph]
  rw [hr, Turn.handle, ho, ← hx.wonElection]
  refine ⟨_, n + 1, Turn.electIncoming_arrives_introduced hb _ hp he, hx.wonElection, hi,
    hn.trans (Nat.le_succ n), hx, Nat.ne_of_lt (Nat.lt_succ_of_le hn)⟩

lemma Stands.refuses {side : Side} {link : Link} {peer : PeerIdentity} {cer : Message}
    (h : d.Stands p (s.conn p) (.running false side link peer none))
    (ht : (s.conn p).Takes (.event (.acceptedCer (d.stream p.other) cer))) (m : Moment) :
    d.Lands p (.running false side link peer none) [.refuse (d.stream p.other)]
      (d.turn s p m (.event (.acceptedCer (d.stream p.other) cer))) := by
  obtain ⟨n, t, hr, hb, ha⟩ := h.begins ht m
  have ho : t.onAcceptedCer (d.site p) (d.stream p.other) cer =
      t.emit (.refuse (d.stream p.other)) := by
    have hph := hb.phase
    cases side <;> simp [Turn.onAcceptedCer, hph, Stage.phase]
  rw [hr, Turn.handle, ho]
  refine ⟨n, ⟨?_, ?_⟩, ha⟩
  · rw [Turn.conn_emit, hb.shape]
    cases side <;> rfl
  · rw [Turn.outline_emit, hb.outline]
    rfl

/-! ### The election -/

lemma Stands.wins (hd : d.Fair) {i : Link} {x : Rival}
    (h : d.Stands p (s.conn p) (.electing i x true))
    (ht : (s.conn p).Takes (.event .wonElection)) (m : Moment) :
    ∃ deadline, d.Lands p (.accepting .waitReturns x deadline) [.hangUp i]
      (d.turn s p m (.event .wonElection)) := by
  obtain ⟨n, t, hr, hb, hw, -, -, hx, -⟩ := h.begins ht m
  obtain ⟨cer, -, hcea⟩ := hx.cea
  rw [hr, Turn.handle, Turn.onWonElection_eq _ hb]
  exact ⟨_, n, Turn.hangUp_openResponder_arrives hb (hcea ▸ hd.cea p cer), hw.symm, rfl, hx⟩

lemma Stands.confirmed (hd : d.Fair) (hw : d.wins p = false) {i : Link} {cea : Message}
    (hc : d.IsCea p.other cea) (h : d.Stands p (s.conn p) (.introduced i))
    (ht : (s.conn p).Takes (.event (.received i.id cea))) (m : Moment) :
    ∃ peer, d.Lands p (.running false .initiator i peer none) [.showPeer peer, .showPhase .iOpen]
      (d.turn s p m (.event (.received i.id cea))) := by
  obtain ⟨n, t, hr, hb, hi, -⟩ := h.begins ht m
  obtain ⟨cer, hcer, rfl⟩ := hc
  obtain ⟨peer, hp, hh⟩ := hd.acceptCea_cea p cer
  rw [hr, Turn.handle_cea (congrArg Shape.initiator hb.shape) (.inl hb.phase)
    (Node.isCea_cea hcer)]
  refine ⟨peer, n, Turn.onCea_arrives_introduced hb hp (by simp [hh, Identity.same]), rfl, rfl, ?_⟩
  simp [hw, hi]

lemma Stands.prevails (hd : d.Fair) {i : Link} {x : Rival} {cea : Message}
    (hc : d.IsCea p.other cea) (h : d.Stands p (s.conn p) (.electing i x false))
    (ht : (s.conn p).Takes (.event (.received i.id cea))) (m : Moment) :
    ∃ peer, d.Lands p (.running false .initiator i peer none)
      [.hangUp x.link, .showPeer peer, .showPhase .iOpen]
      (d.turn s p m (.event (.received i.id cea))) := by
  obtain ⟨n, t, hr, hb, hw, hi, -, hx, -⟩ := h.begins ht m
  obtain ⟨cer, hcer, rfl⟩ := hc
  obtain ⟨peer, hp, hh⟩ := hd.acceptCea_cea p cer
  rw [hr, Turn.handle_cea (congrArg Shape.initiator hb.shape) (.inr hb.phase)
    (Node.isCea_cea hcer)]
  refine ⟨peer, n, Turn.onCea_arrives_electing hb hp (by simp [hx.host, hh, Identity.same]), rfl,
    rfl, ?_⟩
  simp [← hw, hi]

lemma Stands.forsaken {i : Link} {x : Rival} (h : d.Stands p (s.conn p) (.electing i x false))
    {e : Failure} (ht : (s.conn p).Takes (.event (.disconnected x.link.id e))) (m : Moment) :
    d.Lands p (.introduced i) [.hangUp x.link, .showPhase .waitICea]
      (d.turn s p m (.event (.disconnected x.link.id e))) := by
  obtain ⟨n, t, hr, hb, -, hi, hn, -, hne⟩ := h.begins ht m
  have ho : t.handle (d.site p) (.disconnected x.link.id e) =
      t.onDisconnected (d.site p) .responder e := by
    have hs := Connection.sideOf?_responder (congrArg Shape.responder hb.shape) (by
      intro k hk
      obtain rfl : i = k := Option.some.inj ((congrArg Shape.initiator hb.shape).symm.trans hk)
      exact hne)
    simp [Turn.handle, hs]
  rw [hr, ho]
  exact ⟨n, Turn.onDisconnected_arrives_electing hb e, hi, hn⟩

lemma Stands.strays {e : Event} {link : Nat} (h : d.Stands p (s.conn p) a) (he : e.isNewsOf link)
    (hl : (s.conn p).sideOf? link = none) (ht : (s.conn p).Takes (.event e)) (m : Moment) :
    d.Stands p (d.turn s p m (.event e)).conn a ∧ (d.turn s p m (.event e)).effects = [] ∧
      (d.turn s p m (.event e)).conn.writing = none := by
  obtain ⟨hi, hw⟩ := h.idle ht (by rintro rfl; cases he) (by rintro rfl; cases he)
  obtain ⟨n, hc, ha⟩ := h
  let t : Turn :=
    { now := m.now, serial := m.serial, ids := m.ids, conn := (s.conn p).without (.event e) }
  have hr : d.turn s p m (.event e) = t := by
    have hs : t.conn.sideOf? link = none := hl
    show t.handle (d.site p) e = t
    cases e <;> simp_all [Event.isNewsOf, Turn.handle]
  have ht : t.conn = s.conn p := by
    show (s.conn p).without (.event e) = s.conn p
    rw [Connection.without_of_internal (congrArg List.tail hi), List.tail_nil, ← hi]
  rw [hr, ht]
  exact ⟨⟨n, hc, ha⟩, rfl, hw⟩

end Duel

end Diameter
