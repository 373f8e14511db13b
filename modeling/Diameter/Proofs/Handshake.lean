import Diameter.Proofs.Introduction
import Diameter.Proofs.Sight

/-!
A connection opens after a successful capabilities exchange, once, and is shut down for good.

`Stage.rival?` is the accepted stream that a stage holds on to; every such stream has introduced
itself with a CER in order (`Course.heard`). Main statement: `Connection.Run.opensOnce`.
-/

namespace Diameter

/-! ### Accepted streams -/

namespace Stage

/-- The accepted stream that is in order, if there is one and the connection is not open yet. -/
def rival? : Stage → Option Rival
  | dialing rival => rival
  | introducing _ rival _ _ => rival
  | electing _ x _ => some x
  | accepting _ x _ => some x
  | _ => none

end Stage

/-- A CER has come in on an accepted stream: along with the stream, or as a message on it. -/
inductive Beat.Hears (site : Site) (b : Beat) (link : Link) (cer : Message) : Prop
  | along (hi : b.input = .event (.acceptedCer link.stream cer))
    (hl : .listen link ∈ (b.turn site).effects)
  | message (hi : b.input = .event (.received link.id cer)) (hl : b.conn.responder = some link)
    (hc : cer.isCer)

variable {site : Site} {expected : Option String} {first : Event} {bs : List Beat} {b : Beat}
  {c : Connection} {n n' : Nat} {s s' : Stage} {i : Input} {out : List Effect}

lemma Turn.mem_outline {t : Turn} {e : Effect} (he : e.isStructural) :
    e ∈ t.outline ↔ e ∈ t.effects := by
  simp [outline, he]

lemma Next.rival (h : Next site expected n s i out n' s') {x : Rival} (hx : s'.rival? = some x) :
    s.rival? = some x ∨ ∃ cer, site.node.answerCer cer = .accept x.peer x.cea ∧
      (i = .event (.acceptedCer x.link.stream cer) ∧ .listen x.link ∈ out ∨
        i = .event (.received x.link.id cer) ∧ s = .awaitingCer x.link ∧ cer.isCer) := by
  have judged : ∀ {cer : Message} {peer : PeerIdentity}, site.node.identify cer = .ok peer →
      site.node.answerCer cer = .accept peer (site.node.cea cer .success) := by
    intro cer peer hp
    simp [Node.answerCer, hp]
  cases h with
  | @acceptFirst stream cer peer d hp | @court stream cer peer hp
  | @challenge i stream cer peer hp =>
    obtain rfl := Option.some.inj hx
    exact .inr ⟨cer, judged hp, .inl ⟨rfl, by simp⟩⟩
  | @acceptAwaited r cer peer d hc hp =>
    obtain rfl := Option.some.inj hx
    exact .inr ⟨cer, judged hp, .inr ⟨rfl, rfl, hc⟩⟩
  | introduce | elect | undialed | win | ownLost | stay | refuse => exact .inl hx
  | @turnAwayUnanswered i | @turnedAway i =>
    cases i <;> exact absurd hx (by simp [Stage.alone, Stage.rival?])
  | _ => exact absurd hx (by simp [Stage.rival?])

/-- Every accepted stream has introduced itself with a CER that was accepted. -/
lemma Course.heard (h : Course site expected first bs n s) {x : Rival} (hx : s.rival? = some x) :
    ∃ b ∈ bs, ∃ cer, b.Hears site x.link cer ∧ site.node.answerCer cer = .accept x.peer x.cea := by
  induction h with
  | nil => exact absurd hx (by simp [Stage.rival?])
  | @turn bs n s b n' s' h hc _ hn _ ih =>
    rcases hn.rival hx with hx | ⟨cer, ha, ⟨hi, hl⟩ | ⟨hi, rfl, hm⟩⟩
    · obtain ⟨d, hd, cer, hh⟩ := ih hx
      exact ⟨d, List.mem_append_left _ hd, cer, hh⟩
    · exact ⟨b, by simp, cer, .along hi ((Turn.mem_outline rfl).mp hl), ha⟩
    · exact ⟨b, by simp, cer, .message hi (congrArg Shape.responder hc) hm, ha⟩

/-! ### Opening -/

/-- The turn shows the phase. -/
def Beat.Enters (site : Site) (p : Phase) (b : Beat) : Prop :=
  .showPhase p ∈ (b.turn site).effects

/-- A connection opens on the dialed stream with a CEA, and on the accepted one when its own CEA
is written. -/
lemma Next.enters (h : Next site expected n s i out n' s') {p : Phase} (hp : p.isOpen)
    (he : .showPhase p ∈ out) :
    (∃ l cea peer, p = .iOpen ∧ i = .event (.received l.id cea) ∧ cea.isCea ∧
      site.node.acceptCea cea = .ok peer ∧ (s.shape expected n).initiator = some l ∧
      s'.peer? = some peer) ∨
    ∃ source x d, p = .rOpen ∧ i = .written none ∧ s = .accepting source x d ∧
      s'.peer? = some x.peer := by
  have shown : ∀ {es : List Effect}, out.filter Effect.isShow = es → .showPhase p ∈ es := by
    rintro es rfl
    exact List.mem_filter.mpr ⟨he, rfl⟩
  cases h with
  | @confirm i cea peer hc ha =>
    refine .inl ⟨i, cea, peer, ?_, rfl, hc, ha, rfl, rfl⟩
    simpa using he
  | @prevail i x cea peer hc ha =>
    refine .inl ⟨i, cea, peer, ?_, rfl, hc, ha, rfl, rfl⟩
    simpa using he
  | @accepted source x d =>
    refine .inr ⟨source, x, d, ?_, rfl, rfl, rfl⟩
    simpa using he
  | fall _ ho =>
    have hq : p = .shutdown := by simpa using shown ho
    exact absurd hp (by simp [hq, Phase.isOpen])
  | partAndFall =>
    have hq : p = .closing ∨ p = .shutdown := by simpa using he
    rcases hq with rfl | rfl <;> exact absurd hp (by decide)
  | _ =>
    have hn : ¬ p.isOpen := by
      revert he
      simp +contextual [Phase.isOpen]
    exact absurd hp hn

/-! ### After the shutdown -/

namespace Turn

variable {t : Turn}

lemma phase_handle_shutdown (h : t.conn.phase = .shutdown) (hi : t.conn.initiator = none)
    (hr : t.conn.responder = none) (e : Event) : (t.handle site e).conn.phase = .shutdown := by
  -- no stream is attached, so whatever comes from one is ignored
  have hside : ∀ l, t.conn.sideOf? l = none := by
    intro l
    simp [Connection.sideOf?, hi, hr]
  have ha : t.conn.activeSide? = none := by simp [Connection.activeSide?, h]
  cases e with
  | start => simp [handle, onStart, h]
  | dialed stream => simp [handle, onDialed, h]
  | dialFailed text => simp [handle, onDialFailed, h]
  | accepted stream => simp [handle, onAccepted, h]
  | acceptedCer stream cer => simp [handle, onAcceptedCer, h]
  | received l m => simp [handle, hside, h]
  | receivedInvalid l x e => simp [handle, hside, h]
  | disconnected l e => simp [handle, hside, h]
  | wonElection => simp [handle, onWonElection, h]
  | send waiter request => simp [handle, onSend, ha, refuseToSend, h]
  | handled l answer => simp [handle, onHandled, ha, h]
  | stop waiter cause =>
    simp only [handle, onStop, h]
    exact phase_transition_shutdown site _
  | watchdogIdle generation => simp [handle, onWatchdogIdle, h, Phase.isOpen]
  | watchdogReply hopByHop =>
    simp only [handle, onWatchdogReply]
    split
    · -- an alarm that rings too late
      exact h
    · split
      · -- one request too many was missed, which ends what has ended
        exact phase_giveUp site _ _
      · exact h
  | exchangeTimeout hopByHop =>
    simp only [handle, onExchangeTimeout]
    split <;> exact h
  | closeTimeout => simp [handle, onCloseTimeout, h]

end Turn

/-! ### Runs -/

/-- What holds of a connection and of the turns that led to it. -/
structure OpensOnce (site : Site) (bs : List Beat) (c : Connection) : Prop where
  /-- A connection opens on the dialed stream while a CEA is handled that came in on it and is
  accepted, and it is bound to whom that CEA introduces. -/
  initiator : ∀ b ∈ bs, b.Enters site .iOpen → ∃ link cea peer,
    b.input = .event (.received link cea) ∧ b.conn.sideOf? link = some .initiator ∧ cea.isCea ∧
      site.node.acceptCea cea = .ok peer ∧ (b.turn site).conn.identity = some peer
  /-- A connection opens on the accepted stream when a CEA that reports success has been written
  on it, the answer to a CER that came in before and was accepted, and it is bound to whom that
  CER introduces. -/
  responder : ∀ as b ds, bs = as ++ b :: ds → b.Enters site .rOpen → b.input = .written none ∧
    ∃ w peer, b.conn.writing = some w ∧ b.conn.responder = some w.link ∧
      w.message.resultCode? = some 2001 ∧ (b.turn site).conn.identity = some peer ∧
      ∃ a ∈ as, ∃ cer, a.Hears site w.link cer ∧
        site.node.answerCer cer = .accept peer w.message ∧ (cer.isCer → w.message.isCea)
  /-- A turn that changes the phase shows the phase it leads to. -/
  shows : ∀ b ∈ bs, ∀ p, b.conn.phase ≠ p → (b.turn site).conn.phase = p → b.Enters site p
  /-- What an onlooker has seen is how the connection is. -/
  seen : ({} : Sight).seeAll (Beat.effectsOf site bs) = ⟨c.phase, c.identity⟩
  /-- An open phase is entered at most once. -/
  once : (Beat.effectsOf site bs).countP Effect.showsOpen ≤ 1
  /-- At any time, whoever has been shown as the peer remains the peer. -/
  bound : ∀ es ds, es <+: ds → ds <+: Beat.effectsOf site bs → ∀ q,
    (({} : Sight).seeAll es).peer = some q → (({} : Sight).seeAll ds).peer = some q
  /-- At any time, a connection that is shown open is shown with its peer. -/
  known : ∀ es, es <+: Beat.effectsOf site bs → (({} : Sight).seeAll es).phase.isOpen →
    (({} : Sight).seeAll es).peer.isSome
  /-- At any time, what has been shown as shut down remains so. -/
  final : ∀ es ds, es <+: ds → ds <+: Beat.effectsOf site bs →
    (({} : Sight).seeAll es).phase = .shutdown → (({} : Sight).seeAll ds).phase = .shutdown
  /-- No event changes the phase of a connection that is shut down. -/
  still : c.phase = .shutdown → ∀ now serial ids e,
    (c.step site now serial ids (.event e)).conn.phase = .shutdown

lemma Course.initiator (h : Course site expected first bs n s) (hb : b ∈ bs)
    (he : b.Enters site .iOpen) : ∃ link cea peer,
    b.input = .event (.received link cea) ∧ b.conn.sideOf? link = some .initiator ∧ cea.isCea ∧
      site.node.acceptCea cea = .ok peer ∧ (b.turn site).conn.identity = some peer := by
  obtain ⟨as, ds, rfl⟩ := List.append_of_mem hb
  obtain ⟨n₁, s₁, n₂, s₂, -, hc, hn, hs⟩ := h.split
  rcases hn.enters (by decide) ((Turn.mem_outline rfl).mpr he) with
    ⟨l, cea, peer, -, hi, hm, ha, hl, hp⟩ | ⟨_, _, _, hp, -⟩
  · have hl' : b.conn.initiator = some l := (congrArg Shape.initiator hc).trans hl
    have hp' : (b.turn site).conn.identity = s₂.peer? :=
      (congrArg Shape.identity hs).trans (Stage.identity_shape _ _ _)
    exact ⟨l.id, cea, peer, hi, by simp [Connection.sideOf?, hl'], hm, ha, hp'.trans hp⟩
  · exact absurd hp (by decide)

lemma Course.responder {as ds : List Beat}
    (h : Course site expected first (as ++ b :: ds) n s) (he : b.Enters site .rOpen) :
    b.input = .written none ∧
      ∃ x : Rival, ∃ d, b.conn.writing = some ⟨x.link, x.cea, .accept x.peer, d⟩ ∧
        b.conn.responder = some x.link ∧ (b.turn site).conn.identity = some x.peer ∧
        ∃ a ∈ as, ∃ cer, a.Hears site x.link cer ∧
          site.node.answerCer cer = .accept x.peer x.cea := by
  obtain ⟨n₁, s₁, n₂, s₂, hs₁, hc, hn, hs⟩ := h.split
  rcases hn.enters (by decide) ((Turn.mem_outline rfl).mpr he) with
    ⟨_, _, _, hp, -⟩ | ⟨source, x, d, -, hi, rfl, hp⟩
  · exact absurd hp (by decide)
  · have hp' : (b.turn site).conn.identity = s₂.peer? :=
      (congrArg Shape.identity hs).trans (Stage.identity_shape _ _ _)
    exact ⟨hi, x, d, congrArg Shape.writing hc, congrArg Shape.responder hc, hp'.trans hp,
      hs₁.heard rfl⟩

lemma Course.shows (h : Course site expected first bs n s) (hf : first.IsOpening) (hb : b ∈ bs)
    {p : Phase} (hp : b.conn.phase ≠ p) (hq : (b.turn site).conn.phase = p) :
    b.Enters site p := by
  obtain ⟨as, ds, rfl⟩ := List.append_of_mem hb
  obtain ⟨n₁, s₁, n₂, s₂, hs₁, hc, hn, hs⟩ := h.split
  have hv := (hn.lawful (hs₁.sound hf)).2
  have h₁ : b.conn.phase = s₁.phase := Stage.phase_of_shape hc
  have h₂ : (b.turn site).conn.phase = s₂.phase := Stage.phase_of_shape hs
  have hv' : (s₁.sight.seeAll (b.turn site).outline).phase = p := by
    rw [hv, ← hq, h₂]
    rfl
  have hm : .showPhase (s₁.sight.seeAll (b.turn site).outline).phase ∈ (b.turn site).outline :=
    Sight.showPhase_mem fun he => hp (h₁.trans (he.symm.trans hv'))
  rw [hv'] at hm
  exact (Turn.mem_outline rfl).mp hm

/-- **A connection opens after a capabilities exchange, once, and is shut down for good.** -/
theorem Connection.Run.opensOnce (h : Run site (fresh expected first) bs c) (hf : first.IsOpening) :
    OpensOnce site bs c := by
  obtain ⟨n, s, hs, hc⟩ := h.course hf
  obtain ⟨hl, hv⟩ := h.lawful hf
  have lawful : ∀ {es ds}, es <+: ds → ds <+: Beat.effectsOf site bs →
      ({} : Sight).Lawful es ∧ ∃ us, (({} : Sight).seeAll es).Lawful us ∧
        (({} : Sight).seeAll ds) = (({} : Sight).seeAll es).seeAll us := by
    rintro es ds ⟨us, rfl⟩ ⟨rs, hr⟩
    rw [← hr, List.append_assoc, Sight.lawful_append, Sight.lawful_append] at hl
    exact ⟨hl.1, us, hl.2.1, Sight.seeAll_append⟩
  exact
    { initiator := fun b hb he => hs.initiator hb he
      responder := by
        rintro as b ds rfl he
        obtain ⟨hi, x, d, hw, hr, hp, a, ha, cer, hh, hx⟩ := hs.responder he
        -- the CEA that went out is the one of success
        have hx' : x.cea = site.node.cea cer .success := by
          unfold Node.answerCer at hx
          split at hx
          · exact ((CerVerdict.accept.injEq _ _ _ _).mp hx).2.symm
          · exact absurd hx (by simp)
        refine ⟨hi, _, x.peer, hw, hr, ?_, hp, a, ha, cer, hh, hx, ?_⟩
        · rw [hx']; exact Node.resultCode?_cea _ _ _
        · rw [hx']; exact Node.isCea_cea
      shows := fun b hb p => hs.shows hf hb
      seen := hv
      once := hl.countP_le_one
      bound := by
        -- the identity is bound once, and later effects leave it
        intro es ds he hd q hq
        obtain ⟨-, us, hu, hs⟩ := lawful he hd
        rw [hs]
        exact hu.peer_eq hq
      known := by
        intro es he
        exact (lawful (List.prefix_refl es) he).1.isSome_of_isOpen (by simp [Phase.isOpen])
      final := by
        intro es ds he hd hq
        obtain ⟨-, us, hu, hs⟩ := lawful he hd
        rw [hs]
        exact hu.eq_shutdown hq
      still := by
        -- shut for good, with no stream to hear from
        intro hp now serial ids e
        have hp' : s.phase = .shutdown := by
          rw [← hp, ← Stage.phase_shape expected n, ← hc]
          rfl
        obtain ⟨q, cached, rfl⟩ := Stage.eq_shut (hs.sound hf) hp'
        exact Turn.phase_handle_shutdown hp (congrArg Shape.initiator hc)
          (congrArg Shape.responder hc) e }

namespace Connection

/-- Two turns: the CER of a stream is answered, and the answer has been written. -/
def answeringRun (site : Site) (stream : Nat) (cer : Message) : List Beat :=
  let c := fresh none (.acceptedCer stream cer)
  let hear : Beat := ⟨c, ⟨0, 0, {}⟩, .event (.acceptedCer stream cer)⟩
  [hear, ⟨(hear.turn site).conn, ⟨0, 0, {}⟩, .written none⟩]

/-- A connection that is handed a CER opens with two turns. -/
theorem opensOnce_answeringRun :
    let site : Site := ⟨Node.plain "a", {}⟩
    let cer := ((Node.plain "b").cer {}).1
    ∃ c, Run site (fresh none (.acceptedCer 0 cer)) (answeringRun site 0 cer) c ∧
      c.phase = .rOpen ∧ OpensOnce site (answeringRun site 0 cer) c := by
  intro site cer
  let hear : Beat := ⟨fresh none (.acceptedCer 0 cer), ⟨0, 0, {}⟩, .event (.acceptedCer 0 cer)⟩
  have hw : (hear.turn site).conn.writing.isSome := by decide +kernel
  have h₁ : Run site (fresh none (.acceptedCer 0 cer)) [hear] (hear.turn site).conn :=
    .turn (b := hear) .nil (.internal ⟨by decide, rfl⟩ rfl)
  have h₂ := h₁.turn (b := ⟨(hear.turn site).conn, ⟨0, 0, {}⟩, .written none⟩)
    (.written (Option.some_get hw).symm none)
  exact ⟨_, h₂, by decide +kernel, h₂.opensOnce trivial⟩

end Connection

end Diameter
