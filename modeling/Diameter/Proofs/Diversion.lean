import Diameter.Network.Run
import Diameter.Proofs.Links
import Diameter.Proofs.Padding

/-!
Frames that have no business in the handshake.

While this end waits for the answer to its CER, or for the outcome of an election, a frame is of use
only if it is that answer. Any other frame is reported and leaves the connection as it is, whether
its AVPs can be read or not (`Beat.OnlyReports`). One kind of frame is taken for the answer that it
is not: on the dialed stream, an answer to a capabilities exchange of another application whose AVPs
cannot be read. Main statement: `Connection.Run.undiverted`.
-/

namespace Diameter

/-- This end waits for the answer to its CER, or for the outcome of an election. -/
def Phase.IsContested (p : Phase) : Prop := p = waitConnAckElect ∨ p = waitReturns ∨ p = waitICea

/-- The header of an answer to a capabilities exchange of the base protocol. -/
def Header.IsCea (k : Header) : Prop :=
  k.isAnswer ∧ k.isBase ∧ k.command = Command.capabilitiesExchange

namespace Beat

/-- A frame comes on a side of the connection. -/
structure Brings (b : Beat) (side : Side) (k : Header) (body : Octets) : Prop where
  comes : ∃ link, b.conn.sideOf? link = some side ∧
    b.input = .event (Network.eventOf link (.ofFrame k body))

/-- A report is all that comes of the turn. -/
structure OnlyReports (site : Site) (b : Beat) : Prop where
  conn : (b.turn site).conn = b.conn
  effects : ∃ e, (b.turn site).effects = [.note (.failure b.conn.peerHost? e)]

/-- A frame on the dialed stream that looks like a CEA, but for its application, and cannot be
read. -/
structure MocksCea (side : Side) (k : Header) (body : Octets) : Prop where
  side : side = .initiator
  answer : k.isAnswer
  command : k.command = Command.capabilitiesExchange
  unreadable : ∃ e, Message.ofBody k body = .error e

end Beat

lemma Stage.peer?_of_isContested {s : Stage} (hp : s.phase.IsContested) : s.peer? = none := by
  rcases s with _ | _ | _ | _ | _ | _ | _ | _ | _ | ⟨_ | _, _ | _⟩ | _ <;>
    first | rfl | simp [Phase.IsContested, Stage.phase] at hp

namespace Turn

variable {site : Site} {t : Turn} {side : Side} {k : Header} {e : Failure}

lemma activeSide?_of_isContested (hp : t.conn.phase.IsContested) : t.conn.activeSide? = none := by
  rcases hp with hp | hp | hp <;> simp [Connection.activeSide?, hp]

lemma isCea_iff {m : Message} : m.isCea ↔ m.header.IsCea := by
  simp only [Message.isCea, Message.isBaseCommand, Message.isBase, Header.IsCea, Bool.and_eq_true,
    beq_iff_eq, and_comm]

lemma onReceived_of_isContested (site : Site) (link : Nat) {m : Message}
    (hp : t.conn.phase.IsContested) (hn : ¬ (side = .initiator ∧ m.header.IsCea)) :
    t.onReceived site side link m = t.notAcceptable "Rcv-Message" := by
  have hc : (side = .initiator && m.isCea) = false := by
    by_contra hc
    simp only [Bool.not_eq_false, Bool.and_eq_true, decide_eq_true_eq] at hc
    exact hn ⟨hc.1, isCea_iff.mp hc.2⟩
  rcases hp with hp | hp | hp <;> simp [onReceived, hp, hc]

lemma onReceivedInvalid_of_isContested (site : Site) (hp : t.conn.phase.IsContested)
    (hn : ¬ (side = .initiator ∧ k.isAnswer ∧ k.command = Command.capabilitiesExchange)) :
    t.onReceivedInvalid site side k e = t.report e := by
  have ha : t.conn.activeSide? ≠ some side := by simp [activeSide?_of_isContested hp]
  cases hr : k.isRequest with
  | true =>
    have hw : t.conn.phase ≠ .waitCer := by rcases hp with hp | hp | hp <;> simp [hp]
    simp only [onReceivedInvalid, hr, hw, ha, if_true, if_false]
  | false =>
    have hc : (side = .initiator && (t.conn.phase = .waitICea || t.conn.phase = .waitReturns) &&
        k.command = Command.capabilitiesExchange) = false := by
      by_contra hc
      simp only [Bool.not_eq_false, Bool.and_eq_true, decide_eq_true_eq] at hc
      exact hn ⟨hc.1.1, by simp [Header.isAnswer, hr], hc.2⟩
    simp only [onReceivedInvalid, hr, ha, hc, Bool.false_eq_true, if_false]

lemma phase_onReceivedInvalid (site : Site) (hp : t.conn.phase = .waitICea ∨
    t.conn.phase = .waitReturns) (ha : k.isAnswer) (hc : k.command = Command.capabilitiesExchange)
    (e : Failure) : (t.onReceivedInvalid site .initiator k e).conn.phase = .shutdown := by
  have hr : k.isRequest = false := by simpa [Header.isAnswer] using ha
  have hx : (t.conn.phase = .waitICea || t.conn.phase = .waitReturns) = true := by simpa using hp
  simp only [onReceivedInvalid, hr, hx, hc, Bool.false_eq_true, if_false, decide_true,
    Bool.and_self, if_true]
  exact phase_transition_shutdown site _

end Turn

namespace Connection

variable {site : Site} {expected : Option String} {first : Event} {as ds : List Beat} {b : Beat}
  {c : Connection} {side : Side} {k : Header} {body : Octets}

lemma Run.begun_of_brings (h : Run site (fresh expected first) as b.conn) (hf : first.IsOpening)
    (ht : b.conn.Takes b.input) (hb : b.Brings side k body) : b.begun.conn = b.conn := by
  obtain ⟨link, -, hi⟩ := hb.comes
  obtain ⟨n, s, hs, hc⟩ := h.course hf
  rw [Beat.conn_begun hi]
  rw [hi] at ht
  generalize he : Network.eventOf link (.ofFrame k body) = ev at ht
  cases ht with
  | queued _ hn => rw [hn, List.tail_nil, ← hn]
  | internal _ hl =>
    have hm : ev ∈ (s.shape expected n).internal := by
      have hs : b.conn.internal = (s.shape expected n).internal := congrArg Shape.internal hc
      rw [← hs, hl]
      exact List.mem_cons_self
    have ho : ev.IsOpening ∨ ev = .wonElection := by
      rcases Stage.mem_internal hm with rfl | ⟨_, _, -, rfl⟩
      · exact .inl (hs.sound hf)
      · exact .inr rfl
    rw [← he] at ho
    cases hd : Frame.Delivery.ofFrame k body <;>
      simp [hd, Network.eventOf, Event.IsOpening] at ho

lemma Run.phase_of_initiator (h : Run site (fresh expected first) as c) (hf : first.IsOpening)
    (hw : c.writing = none) (hp : c.phase.IsContested) {link : Nat}
    (hl : c.sideOf? link = some .initiator) : c.phase = .waitICea ∨ c.phase = .waitReturns := by
  obtain ⟨n, s, -, hsh⟩ := h.course hf
  have hfit : c.shape.Fits := hsh ▸ Stage.fits (hsh ▸ hw)
  obtain ⟨i, hi, -⟩ := link?_of_sideOf? hl
  rcases hp with hp | hp | hp
  · have hn := hfit.links
    rw [show c.shape.phase = .waitConnAckElect from hp] at hn
    exact absurd (hi.symm.trans hn.1) (by simp)
  · exact .inr hp
  · exact .inl hp

/-- **Only a CEA moves the handshake.** While this end waits for the answer to its CER, or for the
outcome of an election, it is bound to nobody, and any frame that comes on one of its streams, other
than a CEA on the dialed one, is reported and changes nothing. But what mocks a CEA on the dialed
stream and cannot be read ends the connection. -/
theorem Run.undiverted (h : Run site (fresh expected first) (as ++ b :: ds) c)
    (hf : first.IsOpening) (hb : b.Brings side k body) (hp : b.conn.phase.IsContested)
    (hn : ¬ (side = .initiator ∧ k.IsCea)) :
    b.conn.identity = none ∧
      (¬ Beat.MocksCea side k body ∧ b.OnlyReports site ∨
        Beat.MocksCea side k body ∧ (b.turn site).conn.phase = .shutdown) := by
  obtain ⟨hr, ht, -⟩ := h.split
  have hc : b.begun.conn = b.conn := hr.begun_of_brings hf ht hb
  obtain ⟨link, hl, hi⟩ := hb.comes
  have hw : b.conn.writing = none := hc ▸ Beat.writing_begun_of_event ht hi
  have hpb : b.begun.conn.phase.IsContested := hc.symm ▸ hp
  have hlb : b.begun.conn.sideOf? link = some side := hc.symm ▸ hl
  obtain ⟨n, s, -, hsh⟩ := hr.course hf
  have hid : b.conn.identity = none :=
    (congrArg Shape.identity hsh).trans ((Stage.identity_shape _ _ _).trans
      (Stage.peer?_of_isContested (Stage.phase_of_shape hsh ▸ hp)))
  refine ⟨hid, ?_⟩
  have reports {e : Failure} (hu : b.turn site = b.begun.report e) : b.OnlyReports site :=
    ⟨(congrArg Turn.conn hu).trans hc, e, by rw [hu, ← hc]; rfl⟩
  rw [Beat.turn_event hi] at reports ⊢
  -- a reader passes on a whole message, or the header of what it cannot read
  cases hm : Message.ofBody k body with
  | ok m =>
    obtain rfl : m.header = k := (Message.ofBody_eq_ok hm).1
    simp only [Frame.Delivery.ofFrame, hm, Network.eventOf, Turn.handle, hlb] at reports ⊢
    refine .inl ⟨fun hx => ?_, reports (Turn.onReceived_of_isContested site link hpb hn)⟩
    obtain ⟨e, he⟩ := hx.unreadable
    exact absurd (hm.symm.trans he) (by simp)
  | error e =>
    simp only [Frame.Delivery.ofFrame, hm, Network.eventOf, Turn.handle, hlb] at reports ⊢
    by_cases hx : side = .initiator ∧ k.isAnswer ∧ k.command = Command.capabilitiesExchange
    · obtain ⟨rfl, ha, hk⟩ := hx
      exact .inr ⟨⟨rfl, ha, hk, e, hm⟩, Turn.phase_onReceivedInvalid site
        (hc.symm ▸ hr.phase_of_initiator hf hw hp hl) ha hk e⟩
    · exact .inl ⟨fun hy => hx ⟨hy.side, hy.answer, hy.command⟩,
        reports (Turn.onReceivedInvalid_of_isContested site hpb hx)⟩

/-- While the election goes on a CEA on the accepted stream is only reported. -/
theorem undiverted_otherSide :
    let site : Site := ⟨Node.plain "a", {}⟩
    let cer := ((Node.plain "b").cer {}).1
    let cea := (Node.plain "b").cea ((Node.plain "a").cer {}).1 .success
    let r := (opening .start |>.turn site).conn.play site
      [.event (.dialed 0), .written none, .event (.acceptedCer 1 cer)]
    let b := r.2.beat (.event (Network.eventOf 2 (.ofFrame cea.header (Avp.encodeAll cea.avps))))
    r.2.phase = .waitReturns ∧ cea.isCea ∧ b.OnlyReports site := by
  intro site cer cea r b
  have hr : Run site (fresh none .start) ([opening .start] ++ r.1) b.conn :=
    (run_opening site _).play (by decide +kernel)
  have h : Run site (fresh none .start) (([opening .start] ++ r.1) ++ b :: [])
      (b.turn site).conn := hr.beat (by decide +kernel)
  have hb : b.Brings .responder cea.header (Avp.encodeAll cea.avps) :=
    ⟨2, by decide +kernel, rfl⟩
  refine ⟨by decide +kernel, by decide +kernel, ?_⟩
  rcases (h.undiverted trivial hb (.inr (.inl (by decide +kernel))) (by simp)).2 with h | h
  · exact h.2
  · exact absurd h.1.side (by simp)

/-- An answer to a capabilities exchange of another application, whose AVP announces more octets
than there are, ends a connection that waits for the CEA. -/
theorem falls_unreadableAnswer :
    let site : Site := ⟨Node.plain "a", {}⟩
    let k : Header := ⟨1, 0, Command.capabilitiesExchange, 4, 1, 1⟩
    let body : Octets := [0, 0, 1, 7, 0x40, 0, 0, 100]
    let r := (opening .start |>.turn site).conn.play site [.event (.dialed 0), .written none]
    let b := r.2.beat (.event (Network.eventOf 1 (.ofFrame k body)))
    Run site (fresh none .start) ([opening .start] ++ r.1 ++ [b]) (b.turn site).conn ∧
      b.conn.phase = .waitICea ∧ b.Brings .initiator k body ∧ k.isBase = false ∧
      (b.turn site).conn.phase = .shutdown := by
  intro site k body r b
  have hr : Run site (fresh none .start) ([opening .start] ++ r.1) b.conn :=
    (run_opening site _).play (by decide +kernel)
  exact ⟨hr.beat (by decide +kernel), by decide +kernel, ⟨1, by decide +kernel, rfl⟩,
    by decide +kernel, by decide +kernel⟩

end Connection

end Diameter
