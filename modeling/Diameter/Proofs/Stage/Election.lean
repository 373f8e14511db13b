import Diameter.Proofs.Stage.Opening

/-!
Where the turns of an election lead: a second stream, the loss of either, and the end of the
writes of the handshake.
-/

namespace Diameter.Turn

variable {site : Site} {expected : Option String} {n : Nat} {s : Stage} {t u : Turn}

/-! ### The comparison -/

lemma shape_elect {peer : PeerIdentity} (h : t.conn.cachedPeer = some peer) :
    (t.elect site).conn.shape =
      { t.conn.shape with
        internal := t.conn.internal ++
          if wonElection site.node.host peer.host then [.wonElection] else [] } := by
  rw [elect_of_cachedPeer site t h]
  split
  · rfl
  · rw [List.append_nil]; rfl

lemma outline_elect {peer : PeerIdentity} (h : t.conn.cachedPeer = some peer) :
    (t.elect site).outline = t.outline := by
  rw [elect_of_cachedPeer site t h]
  split <;> rfl

/-! ### A second stream -/

lemma electIncoming_eq (site : Site) {i : Option Link} {cer : Message} {peer : PeerIdentity}
    (h : t.Begins expected n (.alone i)) (stream : Nat) (hi : site.node.identify cer = .ok peer)
    (he : expected.all (Identity.same · peer.host)) :
    ∃ v : Turn, t.electIncoming site stream cer =
        (if t.conn.phase = .waitConnAck then v.transition site .waitConnAckElect
          else (v.transition site .waitReturns).elect site) ∧
      v.conn.shape = { (Stage.alone i).begun expected n with
        attached := n + 1
        responder := some ⟨n + 1, stream⟩
        cachedCea := some (site.node.cea cer .success), cachedPeer := some peer } ∧
      v.outline = [.listen ⟨n + 1, stream⟩] := by
  obtain rfl := h.attached
  have ho := outline_attach t stream
  rw [h.outline] at ho
  have hj : (t.attach stream).2.judge site cer = .accept peer (site.node.cea cer .success) :=
    judge_of_identify hi (h.expectedHost.symm ▸ he)
  refine ⟨{ (t.attach stream).2 with
    conn.responder := some ⟨t.conn.attached + 1, stream⟩
    conn.cachedCea := some (site.node.cea cer .success), conn.cachedPeer := some peer },
    ?_, ?_, ho⟩
  · simp only [electIncoming, hj, link_attach]
    rfl
  · rw [← h.shape]
    rfl

lemma electIncoming_of_judge {stream : Nat} {cer cea : Message} {e : Failure}
    (h : (t.attach stream).2.judge site cer = .reject e cea) :
    t.electIncoming site stream cer =
      (t.attach stream).2.writeOn site ⟨t.conn.attached + 1, stream⟩ cea
        (.turnAway ⟨t.conn.attached + 1, stream⟩ e) := by
  simp [electIncoming, h, link_attach]

lemma electIncoming_arrives_dialing {cer : Message} {peer : PeerIdentity}
    (h : t.Begins expected n (.dialing none)) (stream : Nat)
    (hi : site.node.identify cer = .ok peer) (he : expected.all (Identity.same · peer.host)) :
    (t.electIncoming site stream cer).Arrives expected (n + 1)
      (.dialing (some ⟨⟨n + 1, stream⟩, site.node.cea cer .success, peer⟩))
      [.listen ⟨n + 1, stream⟩, .showPhase .waitConnAckElect] := by
  obtain ⟨v, hr, hv, ho⟩ := electIncoming_eq site (i := none) h stream hi he
  have hp : t.conn.phase = .waitConnAck := h.phase
  have hvp : v.conn.phase = .waitConnAck := congrArg Shape.phase hv
  rw [hr, if_pos hp]
  refine ⟨?_, ?_⟩
  · rw [shape_transition _ _ (by decide), hv]; rfl
  · rw [outline_transition _ _ (by decide) (by simp [hvp]), ho]; rfl

lemma electIncoming_arrives_introduced {i : Link} {cer : Message} {peer : PeerIdentity}
    (h : t.Begins expected n (.introduced i)) (stream : Nat)
    (hi : site.node.identify cer = .ok peer) (he : expected.all (Identity.same · peer.host)) :
    (t.electIncoming site stream cer).Arrives expected (n + 1)
      (.electing i ⟨⟨n + 1, stream⟩, site.node.cea cer .success, peer⟩
        (wonElection site.node.host peer.host))
      [.listen ⟨n + 1, stream⟩, .showPhase .waitReturns] := by
  obtain ⟨v, hr, hv, ho⟩ := electIncoming_eq site (i := some i) h stream hi he
  have hp : t.conn.phase = .waitICea := h.phase
  have hvp : v.conn.phase = .waitICea := congrArg Shape.phase hv
  have hs := shape_transition site v (p := .waitReturns) (by decide)
  rw [hv] at hs
  have hc : (v.transition site .waitReturns).conn.cachedPeer = some peer :=
    congrArg Shape.cachedPeer hs
  have hn : (v.transition site .waitReturns).conn.internal = [] := congrArg Shape.internal hs
  rw [hr, if_neg (by simp [hp])]
  refine ⟨?_, ?_⟩
  · rw [shape_elect hc, hs, hn]; rfl
  · rw [outline_elect hc, outline_transition _ _ (by decide) (by simp [hvp]), ho]; rfl

lemma electIncoming_follows {i : Option Link} (h : t.Begins expected n (.alone i)) (stream : Nat)
    (cer : Message) :
    (t.electIncoming site stream cer).Follows site expected n (.alone i)
      (.event (.acceptedCer stream cer)) := by
  rcases judge_cases site cer (t.attach stream).2 with ⟨peer, hi, he, -⟩ | ⟨e, hj⟩
  · -- it stands for election, before or after this end has introduced itself
    have he' : expected.all (Identity.same · peer.host) := h.expectedHost ▸ he
    cases i with
    | none => exact (electIncoming_arrives_dialing h stream hi he').follows (.court hi he')
    | some j => exact (electIncoming_arrives_introduced h stream hi he').follows (.challenge hi he')
  · -- it is turned away
    obtain rfl := h.attached
    have hu : (t.attach stream).2.conn.shape =
        { t.conn.shape with attached := t.conn.attached + 1 } := rfl
    have ho := outline_attach t stream
    rw [h.outline] at ho
    have hr := electIncoming_of_judge hj
    rcases writeOn_cases site (t.attach stream).2 ⟨t.conn.attached + 1, stream⟩
        (site.node.errorCea cer e) (.turnAway ⟨t.conn.attached + 1, stream⟩ e) with
      ⟨hm, hw⟩ | ⟨f, -, hw⟩
    · -- the answer is on its way
      refine ⟨_, _, _, .turnAway (d := t.now + site.settings.sendTimeout) hm, ?_, ?_⟩
      · rw [hr, hw, shape_writing, hu, h.shape]
        cases i <;> rfl
      · rw [hr, hw]; exact ho
    · -- the answer does not fit, and the stream is hung up at once
      refine ⟨_, _, _, .turnAwayUnanswered, ?_, ?_⟩
      · rw [hr, hw]
        calc _ = (t.attach stream).2.conn.shape := rfl
          _ = _ := by rw [hu, h.shape]; cases i <;> rfl
      · rw [hr, hw]
        simp only [settle, outline_emit, outline_report, ho, Effect.isStructural]
        rfl

/-! ### The accepted stream is kept, or lost -/

lemma hangUp_openResponder_arrives {i : Link} {x : Rival} {called : Bool}
    (h : t.Begins expected n (.electing i x called)) (hl : x.cea.checkLength = .ok ()) :
    ((t.hangUp .initiator).openResponder site).Arrives expected n
      (.accepting .waitReturns x (t.now + site.settings.sendTimeout)) [.hangUp i] := by
  have hi : t.conn.initiator = some i := congrArg Shape.initiator h.shape
  have hs := shape_hangUp_initiator t
  have ho := outline_hangUp t .initiator
  rw [h.shape] at hs
  rw [h.outline] at ho
  let v : Turn := { t.hangUp .initiator with
    conn.cachedCea := none, conn.cachedPeer := none }
  have hr : (t.hangUp .initiator).openResponder site = v.write site .responder x.cea
      (.accept x.peer) :=
    openResponder_eq site (congrArg Shape.cachedCea hs) (congrArg Shape.cachedPeer hs)
  have hv : v.conn.link? .responder = some x.link := congrArg Shape.responder hs
  rw [hr, write_of_link site v hv, writeOn_of_checkLength site v _ _ hl]
  refine ⟨?_, ?_⟩
  · calc _ = { (t.hangUp .initiator).conn.shape with
          cachedCea := none, cachedPeer := none
          writing := some ⟨x.link, x.cea, .accept x.peer,
            (t.hangUp .initiator).now + site.settings.sendTimeout⟩ } := rfl
      _ = _ := by rw [hs, now_hangUp]; rfl
  · calc _ = (t.hangUp .initiator).outline := rfl
      _ = [.hangUp i] := by rw [ho]; simp [Connection.link?, hi]

lemma follows_hangUp_openResponder {e : Event} {i : Link} {x : Rival} {called : Bool}
    (h : t.Begins expected n (.electing i x called))
    (hnext : ∀ d, x.cea.checkLength = .ok () →
      Next site expected n (.electing i x called) (.event e) [.hangUp i] n
        (.accepting .waitReturns x d)) :
    ((t.hangUp .initiator).openResponder site).Follows site expected n (.electing i x called)
      (.event e) := by
  have hst := h.steady (by simp [Stage.phase])
  have hi : t.conn.initiator = some i := congrArg Shape.initiator h.shape
  have hs := shape_hangUp_initiator t
  have ho := outline_hangUp t .initiator
  rw [h.shape] at hs
  rw [h.outline] at ho
  have ho' : (t.hangUp .initiator).outline = [.hangUp i] := by
    rw [ho]; simp [Connection.link?, hi]
  have hst' : (t.hangUp .initiator).Steady expected (.electing i x called) :=
    ⟨congrArg Shape.expectedHost hs, congrArg Shape.identity hs, congrArg Shape.internal hs,
      congrArg Shape.writing hs,
      by have hp : (t.hangUp .initiator).conn.phase = .waitReturns := congrArg Shape.phase hs
         simp [hp],
      by rw [ho']; rfl⟩
  refine hst'.follows_openResponder (by simp [Stage.phase]) (congrArg Shape.responder hs)
    (congrArg Shape.cachedCea hs) (congrArg Shape.cachedPeer hs) ?_
  intro d hlen
  refine ⟨_, _, _, hnext d hlen, ?_, ho'⟩
  calc _ = { (t.hangUp .initiator).conn.shape with
        cachedCea := none, cachedPeer := none
        writing := some ⟨x.link, x.cea, .accept x.peer, d⟩ } := rfl
    _ = _ := by rw [hs]; rfl

lemma onWonElection_eq (site : Site) {i : Link} {x : Rival} {called : Bool}
    (h : t.Begins expected n (.electing i x called)) :
    t.onWonElection site = (t.hangUp .initiator).openResponder site := by
  have hp : t.conn.phase = .waitReturns := h.phase
  simp [onWonElection, hp]

lemma onWonElection_follows {i : Link} {x : Rival} {called : Bool}
    (h : t.Begins expected n (.electing i x called)) :
    (t.onWonElection site).Follows site expected n (.electing i x called)
      (.event .wonElection) := by
  rw [onWonElection_eq site h]
  exact follows_hangUp_openResponder h fun d hlen => .win hlen

lemma shape_dropCandidate_of (h : t.conn.shape = s.begun expected n) :
    (t.dropCandidate).conn.shape =
      { s.begun expected n with
        responder := none, cachedCea := none, cachedPeer := none } := by
  rw [shape_dropCandidate, h]

lemma onDisconnected_follows_dialing {x : Rival} (h : t.Begins expected n (.dialing (some x)))
    (e : Failure) :
    (t.onDisconnected site .responder e).Follows site expected n (.dialing (some x))
      (.event (.disconnected x.link.id e)) := by
  have hp : t.conn.phase = .waitConnAckElect := h.phase
  have hr : t.onDisconnected site .responder e =
      t.dropCandidate.transition site .waitConnAck := by simp [onDisconnected, hp]
  have hl : t.conn.responder = some x.link := congrArg Shape.responder h.shape
  have hs := shape_dropCandidate_of h.shape
  have ho := outline_dropCandidate t
  rw [h.outline, hl] at ho
  have hdp : t.dropCandidate.conn.phase ≠ .waitConnAck := by
    have : t.dropCandidate.conn.phase = .waitConnAckElect := congrArg Shape.phase hs
    simp [this]
  refine ⟨_, _, _, .courtLost, ?_, ?_⟩
  · rw [hr, shape_transition _ _ (by decide), hs]; rfl
  · rw [hr, outline_transition _ _ (by decide) hdp, ho]; rfl

lemma onDisconnected_arrives_electing {i : Link} {x : Rival}
    (h : t.Begins expected n (.electing i x false)) (e : Failure) :
    (t.onDisconnected site .responder e).Arrives expected n (.introduced i)
      [.hangUp x.link, .showPhase .waitICea] := by
  have hp : t.conn.phase = .waitReturns := h.phase
  have hr : t.onDisconnected site .responder e = t.dropCandidate.transition site .waitICea := by
    simp [onDisconnected, hp]
  have hl : t.conn.responder = some x.link := congrArg Shape.responder h.shape
  have hs := shape_dropCandidate_of h.shape
  have ho := outline_dropCandidate t
  rw [h.outline, hl] at ho
  have hdp : t.dropCandidate.conn.phase = .waitReturns := congrArg Shape.phase hs
  rw [hr]
  refine ⟨?_, ?_⟩
  · rw [shape_transition _ _ (by decide), hs]; rfl
  · rw [outline_transition _ _ (by decide) (by simp [hdp]), ho]; rfl

lemma onDisconnected_follows_electing {i : Link} {x : Rival}
    (h : t.Begins expected n (.electing i x false)) (e : Failure) :
    (t.onDisconnected site .initiator e).Follows site expected n (.electing i x false)
        (.event (.disconnected i.id e)) ∧
      (t.onDisconnected site .responder e).Follows site expected n (.electing i x false)
        (.event (.disconnected x.link.id e)) := by
  have hp : t.conn.phase = .waitReturns := h.phase
  constructor
  · have hr : t.onDisconnected site .initiator e = (t.hangUp .initiator).openResponder site := by
      simp [onDisconnected, hp]
    rw [hr]
    exact follows_hangUp_openResponder h fun d hlen => .ownLost hlen
  · exact (onDisconnected_arrives_electing h e).follows .rivalLost

/-! ### The CEA on the dialed stream -/

lemma onCea_arrives_introduced {i : Link} {cea : Message} {peer : PeerIdentity}
    (h : t.Begins expected n (.introduced i)) (ha : site.node.acceptCea cea = .ok peer)
    (he : expected.all (Identity.same · peer.host)) :
    (t.onCea site cea).Arrives expected n (.running false .initiator i peer none)
      [.showPeer peer, .showPhase .iOpen] := by
  have hp : t.conn.phase = .waitICea := h.phase
  have hx : t.conn.cachedPeer = none := congrArg Shape.cachedPeer h.shape
  have hb : t.boundHost? = expected := by simp [boundHost?, hx, h.expectedHost]
  have hr : t.onCea site cea = t.openAs site peer .iOpen := by simp [onCea, ha, hb, he, hp]
  rw [hr]
  refine ⟨?_, ?_⟩
  · rw [shape_openAs _ _ _ (by decide), h.shape]; rfl
  · rw [outline_openAs _ _ _ (by decide) (by simp [hp]), h.outline]; rfl

lemma onCea_arrives_electing {i : Link} {x : Rival} {cea : Message} {peer : PeerIdentity}
    (h : t.Begins expected n (.electing i x false)) (ha : site.node.acceptCea cea = .ok peer)
    (he : Identity.same x.peer.host peer.host) :
    (t.onCea site cea).Arrives expected n (.running false .initiator i peer none)
      [.hangUp x.link, .showPeer peer, .showPhase .iOpen] := by
  have hp : t.conn.phase = .waitReturns := h.phase
  have hx : t.conn.cachedPeer = some x.peer := congrArg Shape.cachedPeer h.shape
  have hl : t.conn.responder = some x.link := congrArg Shape.responder h.shape
  have hb : t.boundHost? = some x.peer.host := by simp [boundHost?, hx]
  have hr : t.onCea site cea = t.dropCandidate.openAs site peer .iOpen := by
    simp [onCea, ha, hb, he, hp]
  have hs := shape_dropCandidate_of h.shape
  have ho := outline_dropCandidate t
  rw [h.outline, hl] at ho
  have hdp : t.dropCandidate.conn.phase = .waitReturns := congrArg Shape.phase hs
  rw [hr]
  refine ⟨?_, ?_⟩
  · rw [shape_openAs _ _ _ (by decide), hs]; rfl
  · rw [outline_openAs _ _ _ (by decide) (by simp [hdp]), ho]; rfl

lemma Steady.follows_onCea (h : t.Steady expected s) (hs : s.phase ≠ .shutdown) {i : Input}
    {cea : Message} (hn : ∀ peer, site.node.acceptCea cea = .ok peer →
      ¬ t.boundHost?.all (Identity.same · peer.host)) :
    (t.onCea site cea).Follows site expected n s i := by
  unfold onCea
  split
  · exact h.follows_giveUp hs _
  · rw [if_neg (hn _ ‹_›)]
    exact h.follows_giveUp hs _

lemma onCea_follows_introduced {i : Link} {cea : Message} (h : t.Begins expected n (.introduced i))
    (hc : cea.isCea) :
    (t.onCea site cea).Follows site expected n (.introduced i) (.event (.received i.id cea)) := by
  have hx : t.conn.cachedPeer = none := congrArg Shape.cachedPeer h.shape
  have hb : t.boundHost? = expected := by simp [boundHost?, hx, h.expectedHost]
  by_cases hv : ∃ peer, site.node.acceptCea cea = .ok peer ∧
      expected.all (Identity.same · peer.host)
  · obtain ⟨peer, ha, he⟩ := hv
    exact (onCea_arrives_introduced h ha he).follows (.confirm hc ha he)
  · exact (h.steady (by simp [Stage.phase])).follows_onCea (by simp [Stage.phase])
      fun peer ha he => hv ⟨peer, ha, hb ▸ he⟩

lemma onCea_follows_electing {i : Link} {x : Rival} {cea : Message}
    (h : t.Begins expected n (.electing i x false)) (hc : cea.isCea) :
    (t.onCea site cea).Follows site expected n (.electing i x false)
      (.event (.received i.id cea)) := by
  have hx : t.conn.cachedPeer = some x.peer := congrArg Shape.cachedPeer h.shape
  have hb : t.boundHost? = some x.peer.host := by simp [boundHost?, hx]
  by_cases hv : ∃ peer, site.node.acceptCea cea = .ok peer ∧ Identity.same x.peer.host peer.host
  · obtain ⟨peer, ha, he⟩ := hv
    exact (onCea_arrives_electing h ha he).follows (.prevail hc ha he)
  · exact (h.steady (by simp [Stage.phase])).follows_onCea (by simp [Stage.phase])
      fun peer ha he => hv ⟨peer, ha, by simpa [hb] using he⟩

/-! ### The end of a write -/

lemma settle_introduce_arrives {i : Link} {cer : Message} {d : Nat}
    (h : t.Begins expected n (.introducing i none cer d)) :
    (t.settle site (.introduce false) cer none).Arrives expected n (.introduced i)
      [.showPhase .waitICea] := by
  have hp : t.conn.phase = .waitConnAck := h.phase
  refine ⟨?_, ?_⟩
  · calc _ = (t.transition site .waitICea).conn.shape := rfl
      _ = _ := by rw [shape_transition _ _ (by decide), h.shape]; rfl
  · calc _ = (t.transition site .waitICea).outline := rfl
      _ = _ := by rw [outline_transition _ _ (by decide) (by simp [hp]), h.outline]; rfl

lemma settle_introduce_arrives_electing {i : Link} {x : Rival} {cer : Message} {d : Nat}
    (h : t.Begins expected n (.introducing i (some x) cer d)) :
    (t.settle site (.introduce true) cer none).Arrives expected n
      (.electing i x (wonElection site.node.host x.peer.host)) [.showPhase .waitReturns] := by
  have hp : t.conn.phase = .waitConnAckElect := h.phase
  have hs := shape_transition site t (p := .waitReturns) (by decide)
  rw [h.shape] at hs
  have hc : (t.transition site .waitReturns).conn.cachedPeer = some x.peer :=
    congrArg Shape.cachedPeer hs
  have hn : (t.transition site .waitReturns).conn.internal = [] := congrArg Shape.internal hs
  refine ⟨?_, ?_⟩
  · calc _ = ((t.transition site .waitReturns).elect site).conn.shape := rfl
      _ = _ := by rw [shape_elect hc, hs, hn]; rfl
  · calc _ = ((t.transition site .waitReturns).elect site).outline := rfl
      _ = _ := by
        rw [outline_elect hc, outline_transition _ _ (by decide) (by simp [hp]), h.outline]; rfl

lemma settle_introduce_follows {i : Link} {rival : Option Rival} {cer : Message} {d : Nat}
    (h : t.Begins expected n (.introducing i rival cer d)) :
    (t.settle site (.introduce rival.isSome) cer none).Follows site expected n
      (.introducing i rival cer d) (.written none) := by
  cases rival with
  | none => exact (settle_introduce_arrives h).follows .introduced
  | some x => exact (settle_introduce_arrives_electing h).follows .elect

lemma settle_accept_arrives {p : Phase} {x : Rival} {d : Nat} (hp : p ≠ .rOpen)
    (h : t.Begins expected n (.accepting p x d)) :
    (t.settle site (.accept x.peer) x.cea none).Arrives expected n
      (.running false .responder x.link x.peer none) [.showPeer x.peer, .showPhase .rOpen] := by
  have hq : t.conn.phase = p := h.phase
  refine ⟨?_, ?_⟩
  · calc _ = (t.openAs site x.peer .rOpen).conn.shape := rfl
      _ = _ := by rw [shape_openAs _ _ _ (by decide), h.shape]; rfl
  · calc _ = (t.openAs site x.peer .rOpen).outline := rfl
      _ = _ := by rw [outline_openAs _ _ _ (by decide) (by rw [hq]; exact hp), h.outline]; rfl

lemma settle_turnAway_follows {i : Option Link} {link : Link} {cea : Message} {e : Failure}
    {d : Nat} {result : Option Failure} (h : t.Begins expected n (.turningAway i link cea e d)) :
    (t.settle site (.turnAway link e) cea result).Follows site expected n
      (.turningAway i link cea e d) (.written result) := by
  refine ⟨_, _, _, .turnedAway, ?_, ?_⟩
  · calc _ = t.conn.shape := rfl
      _ = _ := by rw [h.shape]; cases i <;> rfl
  · simp only [settle, outline_emit, outline_report, h.outline, Effect.isStructural]
    rfl

lemma settle_reject_follows {p : Phase} {r : Link} {cea : Message} {e : Failure} {d : Nat}
    {result : Option Failure} (hp : p ≠ .shutdown)
    (h : t.Begins expected n (.rejecting p r cea e d)) :
    (t.settle site (.reject e) cea result).Follows site expected n (.rejecting p r cea e d)
      (.written result) := by
  have hst := h.steady hp
  cases result with
  | none => exact hst.follows_giveUp hp e
  | some w =>
    obtain ⟨hc, ho⟩ := settle_failed site t (g := .reject e) (by simp) cea w hst.phase
    exact hst.follows_fallen hp hc ho

end Diameter.Turn
