import Diameter.Proofs.Settlement
import Diameter.Proofs.Strangers

/-!
What becomes of the answer to a pending request.

An answer that comes on the stream that carries traffic ends the exchange it names in the same turn:
its waiter gets it, or, if it is a stranger's or cannot be read, an answer of this node that says
so. The one exception is an answer with illegal flags, of which nothing comes but a report. Main
statement: `Connection.Run.redeems`.
-/

namespace Diameter

lemma Turn.conclude_fields (x : Exchange) (m : Message) (n : Note) (k : UInt32) (t : Turn) :
    (t.conclude x m n k).effects = t.effects ++ [.complete ⟨x.waiter, m⟩, .note n] ∧
      (t.conclude x m n k).conn.pending = t.conn.pending.erase k ∧
      (t.conclude x m n k).conn.alarms = t.conn.alarms.cancel (.exchange x.key) :=
  ⟨List.append_assoc _ _ _, rfl, rfl⟩

namespace Beat

variable {site : Site} {b : Beat} {x : Exchange} {side : Side} {link : Nat} {m : Message}
  {p : PeerIdentity} {host : String} {k : Header} {f : Failure}

/-- The exchange ends with the turn: its waiter gets the answer, which is noted with its result, and
neither the request nor its alarm is left. -/
structure Ends (site : Site) (b : Beat) (x : Exchange) (a : Message) (rest : List Effect) :
    Prop where
  effects : (b.turn site).effects = .complete ⟨x.waiter, a⟩ ::
    .note (.answered x.header.command x.key a.resultCode? (x.elapsed b.moment.now)) :: rest
  pending : (b.turn site).conn.pending = b.conn.pending.erase x.key
  alarm : ∀ y ∈ (b.turn site).conn.alarms.armed, y.slot ≠ .exchange x.key

/-- An answer comes on the stream that carries traffic, whole or so that only its header can be
read. It names a pending request, and belongs to no capabilities exchange, watchdog or
disconnect. -/
structure Returns (b : Beat) (k : Header) (x : Exchange) : Prop where
  comes : ∃ side link, b.conn.sideOf? link = some side ∧ b.conn.activeSide? = some side ∧
    ((∃ m, b.input = .event (.received link m) ∧ m.header = k) ∨
      ∃ f, b.input = .event (.receivedInvalid link k f))
  answer : k.isRequest = false
  other : ∀ c ∈ [Command.capabilitiesExchange, Command.deviceWatchdog, Command.disconnectPeer],
    (k.isBase && k.command == c) = false
  pending : b.conn.pending.find? k.hopByHop = some x

/-- What becomes of an answer that comes back, on a connection to this peer. -/
inductive Redeems (site : Site) (b : Beat) (p : PeerIdentity) (k : Header) (x : Exchange) : Prop
  /-- Its flags are legal and its origin is not a stranger: it is handed over. -/
  | delivered {link : Nat} {m : Message} (hi : b.input = .event (.received link m))
    (hk : m.header = k) (hf : k.checkFlags = .ok ()) (hd : ∀ host, ¬ p.Disowns m host)
    (h : b.Ends site x m [])
  /-- It is a stranger's. -/
  | denied {link : Nat} {m : Message} {host : String} (hi : b.input = .event (.received link m))
    (hk : m.header = k) (hf : k.checkFlags = .ok ()) (hd : p.Disowns m host)
    (h : b.Ends site x (x.localAnswer site.node .unknownPeer)
      [.note (.failure b.conn.peerHost? (.unknownPeer host))])
  /-- It cannot be read. -/
  | unreadable {link : Nat} {f : Failure} (hi : b.input = .event (.receivedInvalid link k f))
    (h : b.Ends site x (x.localAnswer site.node f.resultCode)
      [.note (.failure b.conn.peerHost? f)])
  /-- Its flags are illegal: that is reported, and nothing changes. -/
  | ignored {link : Nat} {m : Message} (hi : b.input = .event (.received link m))
    (hk : m.header = k) (hf : k.checkFlags = .error (.invalidMessage .badHeaderBits))
    (he : (b.turn site).effects =
      [.note (.failure b.conn.peerHost? (.invalidMessage .badHeaderBits))])
    (hc : (b.turn site).conn = b.begun.conn)

lemma Ends.of_conclude {t : Turn} {a : Message} (hn : t.now = b.moment.now) (he : t.effects = [])
    (hp : t.conn.pending = b.conn.pending)
    (hu : (b.turn site).conn = (t.conclude x a (.answered x.header.command x.key a.resultCode?
      (x.elapsed t.now)) x.key).conn) {rest : List Effect}
    (hr : (b.turn site).effects = (t.conclude x a (.answered x.header.command x.key a.resultCode?
      (x.elapsed t.now)) x.key).effects ++ rest) : b.Ends site x a rest := by
  obtain ⟨hef, hpe, hal⟩ := t.conclude_fields x a
    (.answered x.header.command x.key a.resultCode? (x.elapsed t.now)) x.key
  refine ⟨?_, ?_, ?_⟩
  · rw [hr, hef, he, hn]
    rfl
  · rw [hu, hpe, hp]
  · intro y hy
    rw [hu, hal] at hy
    simpa using (List.mem_filter.mp hy).2

lemma pending_begun : b.begun.conn.pending = b.conn.pending := congrArg Duty.pending b.duty_begun

lemma Receives.delivers (h : b.Receives side link m) (hp : b.conn.identity = some p)
    (hd : ∀ host, ¬ p.Disowns m host) (hr : m.header.isRequest = false)
    (hw : m.isBaseCommand Command.deviceWatchdog = false)
    (hx : m.isBaseCommand Command.disconnectPeer = false)
    (hf : b.conn.pending.find? m.header.hopByHop = some x) : b.Ends site x m [] := by
  let t := b.begun.stir site
  have hs : b.begun.stranger? m = none :=
    Option.eq_none_iff_forall_ne_some.mpr fun host he => hd host ((h.stranger?_begun hp).mp he)
  have hu : b.turn site = t.onAnswer m := by
    rw [h.turn]
    simp [t, Turn.onOpenMessage, Turn.onPeerMessage_eq, h.flags, h.other, hs, hr, hw, hx]
  obtain ⟨_, _, hst⟩ := Turn.duty_stir site b.begun
  have hpe : t.conn.pending = b.conn.pending := (congrArg Duty.pending hst).trans b.pending_begun
  have ht : t.now = b.moment.now ∧ t.effects = [] := by
    simp only [t, Turn.stir]
    split <;> exact ⟨rfl, rfl⟩
  rw [Turn.onAnswer_eq (hpe ▸ hf), ← Pending.key_of_find? hf] at hu
  exact .of_conclude ht.1 ht.2 hpe (by rw [hu]) (by rw [hu, List.append_nil])

variable {j now : Nat} {q : Message}

lemma ends_failExchange {r : ResultCode} {e : Failure} (hq : x = .ofRequest j q now)
    (hf : b.conn.pending.find? k.hopByHop = some x)
    (hu : b.turn site = (b.begun.failExchange site k.hopByHop r).report e) :
    b.Ends site x (x.localAnswer site.node r) [.note (.failure b.conn.peerHost? e)] := by
  have hc : (x.localAnswer site.node r).resultCode? = some r.code := by
    subst hq
    exact (site.node.answer_answers q r).result
  have hh : (b.begun.failExchange site k.hopByHop r).conn.peerHost? = b.conn.peerHost? :=
    (Connection.peerHost?_congr (Turn.shape_failExchange _ _)).trans b.peerHost?_begun
  have hv := (Turn.failExchange_eq (b.pending_begun ▸ hf) r :
    b.begun.failExchange site k.hopByHop r = _)
  rw [← Pending.key_of_find? hf, ← hc] at hv
  refine .of_conclude (t := b.begun) rfl rfl b.pending_begun ?_ ?_
  · rw [hu, Turn.conn_report, ← Pending.key_of_find? hf, hv]
  · rw [hu, Turn.report, Turn.note, Turn.emit, hh, ← Pending.key_of_find? hf, hv]

lemma turn_receivedInvalid (hi : b.input = .event (.receivedInvalid link k f))
    (hs : b.conn.sideOf? link = some side) (ha : b.conn.activeSide? = some side)
    (hk : k.isRequest = false) :
    b.turn site = (b.begun.failExchange site k.hopByHop f.resultCode).report f := by
  have hs' : b.begun.conn.sideOf? link = some side := (sideOf?_begun hi link).trans hs
  have ha' : b.begun.conn.activeSide? = some side := (activeSide?_begun hi).trans ha
  rw [turn_event hi]
  simp only [Turn.handle, hs']
  rcases Turn.phase_of_activeSide? ha' with hp | hp | hp <;>
    simp [Turn.onReceivedInvalid, hk, hp, ha']

/-- **What becomes of an answer that comes back.** -/
lemma Returns.outcome (h : b.Returns k x) (hp : b.conn.identity = some p)
    (hq : x = .ofRequest j q now) : b.Redeems site p k x := by
  obtain ⟨side, link, hs, ha, ⟨m, hi, rfl⟩ | ⟨f, hi⟩⟩ := h.comes
  · -- an answer read whole
    cases hf : m.header.checkFlags with
    | ok _ =>
      have base : ∀ c ∈ [Command.capabilitiesExchange, Command.deviceWatchdog,
          Command.disconnectPeer], m.isBaseCommand c = false := h.other
      have hb : b.Receives side link m := ⟨hi, hs, ha, hf, base _ (by simp)⟩
      -- its origin is not the bound peer, so the exchange fails
      by_cases hd : ∃ host, p.Disowns m host
      · obtain ⟨host, hd⟩ := hd
        have hst : b.begun.stranger? m = some host := (hb.stranger?_begun hp).mpr hd
        refine .denied hi rfl hf hd (ends_failExchange hq h.pending ?_)
        rw [hb.turn]
        simp [Turn.onOpenMessage, hf, hb.other, hst, h.answer]
      · -- its waiter is given it
        simp only [not_exists] at hd
        exact .delivered hi rfl hf hd
          (hb.delivers hp hd h.answer (base _ (by simp)) (base _ (by simp)) h.pending)
    -- its flags are illegal, and it is only reported
    | error e =>
      obtain rfl := Header.eq_of_checkFlags_error hf
      have hu : b.turn site = b.begun.report (.invalidMessage .badHeaderBits) := by
        rw [turn_received hi hs ha]
        simp [Turn.onOpenMessage, hf, h.answer]
      refine .ignored hi rfl hf ?_ ?_
      · rw [hu, Turn.report, b.peerHost?_begun]
        rfl
      · rw [hu, Turn.conn_report]
  · -- an answer that could not be decoded
    exact .unreadable hi
      (ends_failExchange hq h.pending (turn_receivedInvalid hi hs ha h.answer))

end Beat

namespace Connection

variable {site : Site} {expected : Option String} {first : Event} {as bs ds : List Beat} {b : Beat}
  {c : Connection} {x : Exchange} {k : Header}

lemma Run.asked (h : Run site (fresh expected first) bs c) (hx : x ∈ c.pending.entries) :
    ∃ j q now, x = .ofRequest j q now := by
  induction h with
  | nil => exact absurd hx (by simp [fresh])
  | ring _ _ ih => exact ih hx
  | turn h ht ih =>
    have hc := h.cleared fun _ => rfl
    rcases (ht.trades hc _ _ _ _).trade.mem_entries hx with hx | ⟨j, q, now, -, rfl⟩
    · exact ih hx
    · exact ⟨j, q, now, rfl⟩

/-- **An answer that comes back ends its exchange** in the same turn, with itself or with an answer
of this node, unless its flags are illegal. -/
theorem Run.redeems (h : Run site (fresh expected first) (as ++ b :: ds) c) (hf : first.IsOpening)
    (hb : b.Returns k x) :
    ∃ p j q now, b.conn.identity = some p ∧ x = .ofRequest j q now ∧
      (∀ r, (x.localAnswer site.node r).Answers q r) ∧ b.Redeems site p k x := by
  obtain ⟨hr, -, -⟩ := h.split
  obtain ⟨side, link, -, ha, -⟩ := hb.comes
  obtain ⟨p, hp⟩ := hr.bound hf ha
  obtain ⟨j, q, now, rfl⟩ := hr.asked (Pending.mem_of_find? hb.pending)
  exact ⟨p, j, q, now, hp, rfl, site.node.answer_answers q, hb.outcome hp rfl⟩

/-- A connection has sent a request. -/
def asking (site : Site) (cer : Message) : List Beat × Connection :=
  let r := (opened site cer).2.play site [.event (.send 7 (.request 272 4)), .written none]
  ((opened site cer).1 ++ r.1, r.2)

lemma run_asking (e : Event) :
    let site : Site := ⟨Node.plain "a", {}⟩
    let cer := ((Node.plain "b").cer {}).1
    let b := (asking site cer).2.beat (.event e)
    Run site (fresh none (.acceptedCer 0 cer)) ((asking site cer).1 ++ [b]) (b.turn site).conn := by
  intro site cer b
  have h₁ : Run site (fresh none (.acceptedCer 0 cer)) (opened site cer).1 (opened site cer).2 :=
    (run_opening site (.acceptedCer 0 cer)).play (by decide +kernel)
  have h₂ : Run site (fresh none (.acceptedCer 0 cer)) (asking site cer).1 (asking site cer).2 :=
    h₁.play (by decide +kernel)
  have ht : (asking site cer).2.mayTake (.event .closeTimeout) := by decide +kernel
  exact h₂.beat (i := .event e) ht

/-- An answer that cannot be read fails the request. -/
theorem redeems_unreadable :
    let site : Site := ⟨Node.plain "a", {}⟩
    let cer := ((Node.plain "b").cer {}).1
    let k := (Header.request 272 4).answer
    let x := Exchange.ofRequest 7 (.request 272 4) 0
    let b := (asking site cer).2.beat (.event (.receivedInvalid 1 k (.invalidAvp 263 .badLength)))
    Run site (fresh none (.acceptedCer 0 cer)) ((asking site cer).1 ++ [b]) (b.turn site).conn ∧
      b.Returns k x ∧ (∃ p, b.Redeems site p k x) ∧ (b.turn site).conn.pending.find? 0 = none := by
  intro site cer k x b
  have h : Run site (fresh none (.acceptedCer 0 cer)) ((asking site cer).1 ++ [b])
      (b.turn site).conn := run_asking _
  have hb : b.Returns k x :=
    ⟨⟨.responder, 1, by decide +kernel, by decide +kernel, .inr ⟨_, rfl⟩⟩, by decide,
      fun _ _ => rfl, by decide +kernel⟩
  obtain ⟨p, _, _, _, -, -, -, hr⟩ := h.redeems trivial hb
  exact ⟨h, hb, ⟨p, hr⟩, by decide +kernel⟩

/-- Of an answer that is marked as a retransmission nothing comes but a report. The request stays
pending until its alarm rings, and then it counts as never answered. -/
theorem keeps_retransmittedAnswer :
    let site : Site := ⟨Node.plain "a", {}⟩
    let cer := ((Node.plain "b").cer {}).1
    let m : Message := ⟨(Header.request 272 4).answer.setRetransmit, []⟩
    let x := Exchange.ofRequest 7 (.request 272 4) 0
    let b := (asking site cer).2.beat (.event (.received 1 m))
    let d := (b.turn site).conn.beat (.event (.exchangeTimeout 0))
    Run site (fresh none (.acceptedCer 0 cer)) ((asking site cer).1 ++ [b]) (b.turn site).conn ∧
      b.Returns m.header x ∧ b.completions site = [] ∧
      (b.turn site).conn.pending.find? 0 = some x ∧
      d.completions site = [⟨7, x.localAnswer site.node .unableToDeliver⟩] := by
  intro site cer m x b d
  have hb : b.Returns m.header x :=
    ⟨⟨.responder, 1, by decide +kernel, by decide +kernel, .inl ⟨_, rfl, rfl⟩⟩, by decide,
      fun _ _ => rfl, by decide +kernel⟩
  exact ⟨run_asking _, hb, by decide +kernel, by decide +kernel, by decide +kernel⟩

end Connection

end Diameter
