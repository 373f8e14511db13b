import Diameter.Proofs.Stage

/-!
Where the turns of the handshake lead: dialing, the capabilities exchange and the election.
-/

namespace Diameter.Turn

variable {site : Site} {expected : Option String} {n : Nat} {s : Stage} {t u : Turn}

/-! ### Attaching -/

lemma link_attach (t : Turn) (stream : Nat) :
    (t.attach stream).1 = ⟨t.conn.attached + 1, stream⟩ := rfl

lemma outline_attach (t : Turn) (stream : Nat) :
    (t.attach stream).2.outline = t.outline ++ [.listen ⟨t.conn.attached + 1, stream⟩] := by
  simp [attach, emit, outline, Effect.isStructural]

lemma Steady.attach (h : t.Steady expected s) (stream : Nat) :
    (t.attach stream).2.Steady expected s where
  expectedHost := h.expectedHost
  identity := h.identity
  internal := h.internal
  writing := h.writing
  phase := h.phase
  outline := by rw [outline_attach, List.filter_append, h.outline]; rfl

lemma shape_writing (t : Turn) (w : Writing) :
    ({ t with conn.writing := some w } : Turn).conn.shape =
      { t.conn.shape with writing := some w } := rfl

/-! ### The first event -/

lemma onStart_arrives (h : t.Begins expected n (.closed .start)) :
    (t.onStart site).Arrives expected n (.dialing none) [.showPhase .waitConnAck, .dial] := by
  have hp : t.conn.phase = .closed := h.phase
  have hs := shape_transition site t (p := .waitConnAck) (by decide)
  have ho := outline_transition site t (p := .waitConnAck) (by decide) (by simp [hp])
  rw [h.shape] at hs
  rw [h.outline] at ho
  simp only [Connection.shape, Shape.mk.injEq] at hs
  refine ⟨?_, ?_⟩
  · simp [onStart, hp, Connection.shape, hs]
    rfl
  · calc (t.onStart site).outline = (t.transition site .waitConnAck).outline ++ [.dial] := by
          simp [onStart, hp, outline_emit, Effect.isStructural]; rfl
      _ = _ := by rw [ho]; rfl

lemma onStart_follows (h : t.Begins expected n (.closed .start)) :
    (t.onStart site).Follows site expected n (.closed .start) (.event .start) :=
  (onStart_arrives h).follows .dial

lemma onAccepted_follows {stream : Nat} (h : t.Begins expected n (.closed (.accepted stream))) :
    (t.onAccepted site stream).Follows site expected n (.closed (.accepted stream))
      (.event (.accepted stream)) := by
  obtain rfl := h.attached
  have hp : t.conn.phase = .closed := h.phase
  let u : Turn := { (t.attach stream).2 with conn.responder := some (t.attach stream).1 }
  have hu : t.onAccepted site stream = u.transition site .waitCer := by simp [onAccepted, hp, u]
  have hs : u.conn.shape =
      { t.conn.shape with
        attached := t.conn.attached + 1
        responder := some ⟨t.conn.attached + 1, stream⟩ } := rfl
  have ho : u.outline = t.outline ++ [.listen ⟨t.conn.attached + 1, stream⟩] :=
    outline_attach t stream
  have hup : u.conn.phase ≠ .waitCer := by
    have : u.conn.phase = t.conn.phase := rfl
    simp [this, hp]
  refine ⟨_, _, _, .await, ?_, ?_⟩
  · rw [hu, shape_transition _ _ (by decide), hs, h.shape]; rfl
  · rw [hu, outline_transition _ _ (by decide) hup, ho, h.outline]; rfl

/-! ### The verdict on a CER -/

lemma judge_of_identify {cer : Message} {peer : PeerIdentity}
    (h : site.node.identify cer = .ok peer)
    (he : t.conn.expectedHost.all (Identity.same · peer.host)) :
    t.judge site cer = .accept peer (site.node.cea cer .success) := by
  simp [judge, Node.answerCer, h, Connection.expects, he]

lemma judge_cases (site : Site) (cer : Message) (t : Turn) :
    (∃ peer, site.node.identify cer = .ok peer ∧
        t.conn.expectedHost.all (Identity.same · peer.host) ∧
        t.judge site cer = .accept peer (site.node.cea cer .success)) ∨
      ∃ e, t.judge site cer = .reject e (site.node.errorCea cer e) := by
  cases h : site.node.identify cer with
  | error e => exact .inr ⟨e, by simp [judge, Node.answerCer, h]⟩
  | ok peer =>
    by_cases he : t.conn.expectedHost.all (Identity.same · peer.host)
    · exact .inl ⟨peer, rfl, he, judge_of_identify h he⟩
    · exact .inr ⟨.unknownPeer peer.host, by
        simp [judge, Node.answerCer, h, Connection.expects, he]⟩

lemma Steady.follows_answerFirstCer {i : Input} {link : Link} (h : u.Steady expected s)
    (hs : s.phase ≠ .shutdown) (hl : u.conn.responder = some link) (cer : Message)
    (hacc : ∀ peer d, site.node.identify cer = .ok peer →
      expected.all (Identity.same · peer.host) →
      (site.node.cea cer .success).checkLength = .ok () →
      ({ u with conn.writing := some ⟨link, site.node.cea cer .success, .accept peer, d⟩ } :
        Turn).Follows site expected n s i)
    (hrej : ∀ e d, (site.node.errorCea cer e).checkLength = .ok () →
      ({ u with conn.writing := some ⟨link, site.node.errorCea cer e, .reject e, d⟩ } :
        Turn).Follows site expected n s i) :
    (u.answerFirstCer site cer).Follows site expected n s i := by
  rcases judge_cases site cer u with ⟨peer, hp, he, hj⟩ | ⟨e, hj⟩
  · rw [answerFirstCer, hj]
    rw [h.expectedHost] at he
    exact h.follows_write hs .responder hl (by simp) (hacc peer · hp he)
  · rw [answerFirstCer, hj]
    exact h.follows_write hs .responder hl (by simp) (hrej e)

lemma onAcceptedCer_follows_closed {stream : Nat} {cer : Message}
    (h : t.Begins expected n (.closed (.acceptedCer stream cer))) :
    (t.onAcceptedCer site stream cer).Follows site expected n (.closed (.acceptedCer stream cer))
      (.event (.acceptedCer stream cer)) := by
  obtain rfl := h.attached
  have hp : t.conn.phase = .closed := h.phase
  let u : Turn := { (t.attach stream).2 with conn.responder := some (t.attach stream).1 }
  have hu : t.onAcceptedCer site stream cer = u.answerFirstCer site cer := by
    simp [onAcceptedCer, hp, u]
  have hs : u.conn.shape =
      { t.conn.shape with
        attached := t.conn.attached + 1
        responder := some ⟨t.conn.attached + 1, stream⟩ } := rfl
  have ho : u.outline = [.listen ⟨t.conn.attached + 1, stream⟩] := by
    have := outline_attach t stream
    rw [h.outline] at this
    exact this
  have hst : u.Steady expected (.closed (.acceptedCer stream cer)) := by
    have := (h.steady (by simp [Stage.phase])).attach stream
    exact ⟨this.1, this.2, this.3, this.4, this.5, this.6⟩
  rw [hu]
  refine hst.follows_answerFirstCer (by simp [Stage.phase]) (congrArg Shape.responder hs) cer ?_ ?_
  · intro peer d hi he hm
    refine ⟨_, _, _, .acceptFirst (d := d) hi he hm, ?_, ho⟩
    rw [shape_writing, hs, h.shape]; rfl
  · intro e d hm
    refine ⟨_, _, _, .rejectFirst (d := d) hm, ?_, ho⟩
    rw [shape_writing, hs, h.shape]; rfl

/-! ### An accepted stream whose CER is awaited -/

lemma onReceived_follows_awaitingCer {r : Link} (h : t.Begins expected n (.awaitingCer r))
    (side : Side) (m : Message) :
    (t.onReceived site side r.id m).Follows site expected n (.awaitingCer r)
      (.event (.received r.id m)) := by
  have hp : t.conn.phase = .waitCer := h.phase
  have hst := h.steady (by simp [Stage.phase])
  have hl : t.conn.responder = some r := congrArg Shape.responder h.shape
  by_cases hm : m.isCer
  · have hu : t.onReceived site side r.id m = t.answerFirstCer site m := by
      simp [onReceived, hp, hm]
    rw [hu]
    refine hst.follows_answerFirstCer (by simp [Stage.phase]) hl m ?_ ?_
    · -- accepted
      intro peer d hi he hlen
      refine ⟨_, _, _, .acceptAwaited (d := d) hm hi he hlen, ?_, h.outline⟩
      rw [shape_writing, h.shape]; rfl
    · -- rejected
      intro e d hlen
      refine ⟨_, _, _, .rejectAwaited (e := e) (d := d) hlen, ?_, h.outline⟩
      rw [shape_writing, h.shape]; rfl
  · -- anything but a CER ends it
    have hu : t.onReceived site side r.id m =
        (t.notAcceptable "Rcv-Non-CER").transition site .shutdown := by
      simp [onReceived, hp, hm]
    rw [hu]
    exact (hst.report _).follows_transition (by simp [Stage.phase])

lemma onReceivedInvalid_follows_awaitingCer {r : Link} (h : t.Begins expected n (.awaitingCer r))
    (k : Header) (e : Failure) :
    (t.onReceivedInvalid site .responder k e).Follows site expected n (.awaitingCer r)
      (.event (.receivedInvalid r.id k e)) := by
  have hp : t.conn.phase = .waitCer := h.phase
  have hst := h.steady (by simp [Stage.phase])
  have hl : t.conn.responder = some r := congrArg Shape.responder h.shape
  by_cases hk : k.isRequest
  · have hu : t.onReceivedInvalid site .responder k e =
        t.write site .responder (site.node.headerErrorAnswer k e) (.reject e) := by
      simp [onReceivedInvalid, hp, hk]
    rw [hu]
    refine hst.follows_write (by simp [Stage.phase]) .responder hl (by simp) ?_
    intro d hlen
    refine ⟨_, _, _, .rejectAwaited (e := e) (d := d) hlen, ?_, h.outline⟩
    rw [shape_writing, h.shape]; rfl
  · have hu : t.onReceivedInvalid site .responder k e = t.report e := by
      simp [onReceivedInvalid, hp, hk, Connection.activeSide?]
    rw [hu]
    exact h.follows_stay rfl (by simp [Event.isReport]) rfl (outline_report t e)

/-! ### The dial -/

lemma onDialed_eq (site : Site) {rival : Option Rival} (h : t.Begins expected n (.dialing rival))
    (stream : Nat) :
    ∃ u : Turn, t.onDialed site stream =
        u.write site .initiator (site.node.cer t.ids).1 (.introduce rival.isSome) ∧
      u.conn.shape = { t.conn.shape with
        attached := n + 1, dialing := false, initiator := some ⟨n + 1, stream⟩ } ∧
      u.outline = [.listen ⟨n + 1, stream⟩] ∧ u.now = t.now := by
  obtain rfl := h.attached
  let u : Turn := { ({ t with conn.dialing := false }.attach stream).2 with
    conn.initiator := some ⟨t.conn.attached + 1, stream⟩, ids := (site.node.cer t.ids).2 }
  have hu : t.onDialed site stream =
      u.write site .initiator (site.node.cer t.ids).1 (.introduce rival.isSome) := by
    cases rival
    · have hp : t.conn.phase = .waitConnAck := h.phase
      simp [onDialed, hp, introduce, u]
      rfl
    · have hp : t.conn.phase = .waitConnAckElect := h.phase
      simp [onDialed, hp, introduce, u]
      rfl
  have ho : u.outline = [.listen ⟨t.conn.attached + 1, stream⟩] := by
    have := outline_attach { t with conn.dialing := false } stream
    rw [show ({ t with conn.dialing := false } : Turn).outline = [] from h.outline] at this
    exact this
  exact ⟨u, hu, rfl, ho, rfl⟩

lemma onDialed_arrives {rival : Option Rival} (h : t.Begins expected n (.dialing rival))
    (stream : Nat) (hl : (site.node.cer t.ids).1.checkLength = .ok ()) :
    (t.onDialed site stream).Arrives expected (n + 1)
      (.introducing ⟨n + 1, stream⟩ rival (site.node.cer t.ids).1
        (t.now + site.settings.sendTimeout)) [.listen ⟨n + 1, stream⟩] := by
  obtain ⟨u, hu, hs, ho, hn⟩ := onDialed_eq site h stream
  have hi : u.conn.link? .initiator = some ⟨n + 1, stream⟩ := congrArg Shape.initiator hs
  rw [hu, write_of_link site u hi, writeOn_of_checkLength site u _ _ hl, hn]
  refine ⟨?_, ho⟩
  rw [shape_writing, hs, h.shape]
  cases rival <;> rfl

lemma onDialed_follows {rival : Option Rival} (h : t.Begins expected n (.dialing rival))
    (stream : Nat) :
    (t.onDialed site stream).Follows site expected n (.dialing rival)
      (.event (.dialed stream)) := by
  obtain ⟨u, hu, hs, ho, -⟩ := onDialed_eq site h stream
  have hph : (Stage.dialing rival).phase ≠ .shutdown := by cases rival <;> simp [Stage.phase]
  have hst : u.Steady expected (.dialing rival) := by
    have ht := h.steady hph
    exact ⟨(congrArg Shape.expectedHost hs).trans ht.1, (congrArg Shape.identity hs).trans ht.2,
      (congrArg Shape.internal hs).trans ht.3, (congrArg Shape.writing hs).trans ht.4,
      by rw [show u.conn.phase = t.conn.phase from congrArg Shape.phase hs]; exact ht.5,
      by rw [ho]; rfl⟩
  rw [hu]
  refine hst.follows_write hph .initiator (congrArg Shape.initiator hs) (by simp) ?_
  intro d hlen
  refine ⟨_, _, _, .introduce (d := d) hlen, ?_, ho⟩
  rw [shape_writing, hs, h.shape]
  cases rival <;> rfl

lemma openResponder_eq (site : Site) {cea : Message} {peer : PeerIdentity}
    (hc : u.conn.cachedCea = some cea) (hp : u.conn.cachedPeer = some peer) :
    u.openResponder site =
      ({ u with conn.cachedCea := none, conn.cachedPeer := none } : Turn).write site .responder
        cea (.accept peer) := by
  simp [openResponder, hc, hp]

lemma Steady.follows_openResponder {i : Input} {x : Rival} (h : u.Steady expected s)
    (hs : s.phase ≠ .shutdown) (hl : u.conn.responder = some x.link)
    (hc : u.conn.cachedCea = some x.cea) (hp : u.conn.cachedPeer = some x.peer)
    (hacc : ∀ d, x.cea.checkLength = .ok () →
      ({ u with
        conn.cachedCea := none, conn.cachedPeer := none
        conn.writing := some ⟨x.link, x.cea, .accept x.peer, d⟩ } : Turn).Follows
          site expected n s i) :
    (u.openResponder site).Follows site expected n s i := by
  have hw : ({ u with conn.cachedCea := none, conn.cachedPeer := none } : Turn).Steady
      expected s := ⟨h.1, h.2, h.3, h.4, h.5, h.6⟩
  rw [openResponder_eq site hc hp]
  exact hw.follows_write hs .responder hl (by simp) hacc

lemma onDialFailed_follows {rival : Option Rival} (h : t.Begins expected n (.dialing rival))
    (text : String) :
    (t.onDialFailed site text).Follows site expected n (.dialing rival)
      (.event (.dialFailed text)) := by
  cases rival with
  | none =>
    have hp : t.conn.phase = .waitConnAck := h.phase
    have hst := h.steady (by simp [Stage.phase])
    have hu : t.onDialFailed site text =
        ({ t with conn.dialing := false } : Turn).giveUp site (.refused text) := by
      simp [onDialFailed, hp]
    have hst' : ({ t with conn.dialing := false } : Turn).Steady expected (.dialing none) :=
      ⟨hst.1, hst.2, hst.3, hst.4, hst.5, hst.6⟩
    rw [hu]
    exact hst'.follows_giveUp (by simp [Stage.phase]) _
  | some x =>
    have hp : t.conn.phase = .waitConnAckElect := h.phase
    have hst := h.steady (by simp [Stage.phase])
    let u : Turn := ({ t with conn.dialing := false } : Turn).report (.refused text)
    have hu : t.onDialFailed site text = u.openResponder site := by simp [onDialFailed, hp, u]
    have hs : u.conn.shape = { t.conn.shape with dialing := false } := rfl
    have ho : u.outline = [] := (outline_report _ _).trans h.outline
    have hst' : u.Steady expected (.dialing (some x)) :=
      ⟨hst.1, hst.2, hst.3, hst.4, hst.5, by rw [ho]; rfl⟩
    rw [h.shape] at hs
    rw [hu]
    refine hst'.follows_openResponder (by simp [Stage.phase]) (congrArg Shape.responder hs)
      (congrArg Shape.cachedCea hs) (congrArg Shape.cachedPeer hs) ?_
    intro d hlen
    refine ⟨_, _, _, .undialed (d := d) hlen, ?_, ho⟩
    calc _ = { u.conn.shape with
          cachedCea := none, cachedPeer := none
          writing := some ⟨x.link, x.cea, .accept x.peer, d⟩ } := rfl
      _ = _ := by rw [hs]; rfl

end Diameter.Turn
