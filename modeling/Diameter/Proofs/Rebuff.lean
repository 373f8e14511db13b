import Diameter.Proofs.Pending
import Diameter.Proofs.Run
import Diameter.Proofs.EventHandling

/-!
Messages that are turned down.

A turn rebuffs a message if nothing comes of it but a complaint: the connection neither opens nor
parts, no peer is kept, nothing is passed on to the registry or to a waiter, and the watchdog does
not hear of it (`Turn.Rebuffs`). A message with illegal flags is rebuffed wherever it comes from,
save for the one answer whose flags nobody checks. Main statement:
`Connection.Run.rebuffs_badFlags`.
-/

namespace Diameter

/-- What is written says what was wrong with a message. -/
def Goal.IsComplaint : Goal → Prop
  | .reject _ | .turnAway _ _ | .complain _ => True
  | _ => False

/-- No message of the peer is passed on: the registry gets none, and whoever waits gets only what
this node says in place of the peer. -/
def Effect.IsOwn (n : Node) (p : Pending) : Effect → Prop
  | .dispatch _ _ => False
  | .complete c => ∃ x ∈ p.entries, ∃ r, c = ⟨x.waiter, x.localAnswer n r⟩
  | _ => True

namespace Turn

/-- Nothing comes of a message but a complaint. -/
structure Rebuffs (site : Site) (t u : Turn) : Prop where
  /-- The phase is kept, or a failure is reported that ends the connection. -/
  effects : ∃ es, u.effects = t.effects ++ es ∧ (∀ e ∈ es, e.IsOwn site.node t.conn.pending) ∧
    (u.conn.phase = t.conn.phase ∨
      u.conn.phase = .shutdown ∧ ∃ peer e, .note (.failure peer e) ∈ es)
  pending : u.conn.pending.entries ⊆ t.conn.pending.entries
  identity : u.conn.identity = t.conn.identity
  cachedPeer : u.conn.cachedPeer = t.conn.cachedPeer
  outstanding : u.conn.outstanding = t.conn.outstanding
  failures : u.conn.failures = t.conn.failures
  writing : ∀ w, u.conn.writing = some w → w.goal.IsComplaint

variable {site : Site} {t u v : Turn}

namespace Rebuffs

lemma refl (h : ∀ w, t.conn.writing = some w → w.goal.IsComplaint) : t.Rebuffs site t where
  effects := ⟨[], by simp, by simp, .inl rfl⟩
  pending := List.Subset.refl _
  identity := rfl
  cachedPeer := rfl
  outstanding := rfl
  failures := rfl
  writing := h

lemma idle (h : t.conn.writing = none) : t.Rebuffs site t := .refl (by simp [h])

lemma adjust (h : t.Rebuffs site u) (he : v.effects = u.effects)
    (hd : v.conn.duty = u.conn.duty) (hi : v.conn.identity = u.conn.identity)
    (hc : v.conn.cachedPeer = u.conn.cachedPeer) (hw : v.conn.writing = u.conn.writing) :
    t.Rebuffs site v where
  effects := by
    have hp : v.conn.phase = u.conn.phase := congrArg Duty.phase hd
    rw [he, hp]
    exact h.effects
  pending := by
    have hp : v.conn.pending = u.conn.pending := congrArg Duty.pending hd
    rw [hp]
    exact h.pending
  identity := hi.trans h.identity
  cachedPeer := hc.trans h.cachedPeer
  outstanding := (congrArg Duty.outstanding hd).trans h.outstanding
  failures := (congrArg Duty.failures hd).trans h.failures
  writing := hw ▸ h.writing

lemma emit (h : t.Rebuffs site u) {e : Effect} (he : e.IsOwn site.node t.conn.pending) :
    t.Rebuffs site (u.emit e) where
  effects := by
    obtain ⟨es, hu, ho, hp⟩ := h.effects
    refine ⟨es ++ [e], by simp [Turn.emit, hu], ?_, ?_⟩
    · intro d hd
      rcases List.mem_append.mp hd with hd | hd
      · exact ho d hd
      · exact List.mem_singleton.mp hd ▸ he
    · rcases hp with hp | ⟨hs, peer, f, hf⟩
      · exact .inl hp
      · exact .inr ⟨hs, peer, f, List.mem_append_left _ hf⟩
  pending := h.pending
  identity := h.identity
  cachedPeer := h.cachedPeer
  outstanding := h.outstanding
  failures := h.failures
  writing := h.writing

lemma report (h : t.Rebuffs site u) (e : Failure) : t.Rebuffs site (u.report e) := h.emit trivial

lemma giveUp (h : t.Rebuffs site u) (e : Failure) : t.Rebuffs site (u.giveUp site e) := by
  have hr := h.report e
  -- it has been shut, so there is only the report
  by_cases hp : u.conn.phase = .shutdown
  · have hs : u.giveUp site e = u.report e := transition_of_phase site _ hp
    exact hs ▸ hr
  · -- otherwise all that is pending is answered, and the failure has been reported
    have hB : Bypass site (fun _ => True) u (u.giveUp site e) := Bypass.refl.giveUp trivial
    have hs : (u.giveUp site e).conn.shape = u.conn.shape.fallen := shape_giveUp site u e hp
    have hn : (u.giveUp site e).conn.pending = {} := pending_transition_shutdown site _ hp
    refine
      { effects := ?_
        pending := by simp [hn]
        identity := (congrArg Shape.identity hs).trans h.identity
        cachedPeer := (congrArg Shape.cachedPeer hs).trans h.cachedPeer
        outstanding := hB.rests.outstanding.trans h.outstanding
        failures := hB.rests.failures.trans h.failures
        writing := by
          have hw : (u.giveUp site e).conn.writing = u.conn.writing := writing_transition site _ _
          exact hw ▸ h.writing }
    obtain ⟨es, hu, ho, -⟩ := h.effects
    have owed : ∀ c ∈ (u.report e).conn.pending.drain site.node,
        (Effect.complete c).IsOwn site.node t.conn.pending := by
      intro c hc
      obtain ⟨x, hx, rfl⟩ := List.mem_map.mp hc
      exact ⟨x, h.pending hx, .unableToDeliver, rfl⟩
    obtain ⟨ds, hv, hd⟩ := exists_effects_transition site (u.report e) .shutdown
      (P := fun d => d.IsOwn site.node t.conn.pending) (by simp [shift, Effect.IsOwn]) trivial
      (fun _ => trivial) owed fun _ => trivial
    refine ⟨es ++ .note (.failure u.conn.peerHost? e) :: ds, ?_, ?_,
      .inr ⟨phase_giveUp site u e, u.conn.peerHost?, e, by simp⟩⟩
    · rw [Turn.giveUp, hv, Turn.report, Turn.note, Turn.emit, hu]
      simp only [List.append_assoc, List.singleton_append]
    · intro d hm
      rcases List.mem_append.mp hm with hm | hm
      · -- what was done before
        exact ho d hm
      · -- the report, and what the shutdown does
        rcases List.mem_cons.mp hm with rfl | hm
        · exact trivial
        · exact hd d hm

/-! ### Complaints -/

lemma settle_failed (h : t.Rebuffs site u) {g : Goal} (hg : g.IsComplaint) (m : Message)
    (w : Failure) : t.Rebuffs site (u.settle site g m (some w)) := by
  cases g with
  | turnAway link e => exact (h.report e).emit trivial
  | reject e => exact (h.giveUp w).giveUp e
  | complain e => exact (h.giveUp w).report e
  | _ => exact hg.elim

lemma settle (h : t.Rebuffs site u) {g : Goal} (hg : g.IsComplaint) (m : Message)
    (result : Option Failure) : t.Rebuffs site (u.settle site g m result) := by
  cases result with
  | some w => exact h.settle_failed hg m w
  | none =>
    cases g with
    | turnAway link e => exact (h.report e).emit trivial
    | reject e => exact h.giveUp e
    | complain e => exact h.report e
    | _ => exact hg.elim

lemma writeOn (h : t.Rebuffs site u) (link : Link) (m : Message) {g : Goal}
    (hg : g.IsComplaint) : t.Rebuffs site (u.writeOn site link m g) := by
  rcases writeOn_cases site u link m g with ⟨-, hw⟩ | ⟨e, -, hw⟩
  · rw [hw]
    refine { h with writing := ?_ }
    rintro _ ⟨⟩
    exact hg
  · rw [hw]
    exact h.settle_failed hg m e

lemma write (h : t.Rebuffs site u) (side : Side) (m : Message) {g : Goal}
    (hg : g.IsComplaint) : t.Rebuffs site (u.write site side m g) := by
  unfold Turn.write
  split
  · exact h.settle_failed hg m .closed
  · exact h.writeOn _ m hg

lemma failExchange (h : t.Rebuffs site u) (hopByHop : UInt32) (r : ResultCode) :
    t.Rebuffs site (u.failExchange site hopByHop r) := by
  unfold Turn.failExchange Pending.fail
  cases hf : u.conn.pending.find? hopByHop with
  | none => exact h
  | some x =>
    have hx := h.pending (Pending.mem_of_find? hf)
    let v : Turn := { u with conn.pending := u.conn.pending.erase hopByHop }
    have hv : t.Rebuffs site v :=
      { h with pending := fun y hy => h.pending (List.mem_of_mem_filter hy) }
    have hd : t.Rebuffs site (v.disarm (.exchange x.key)) := { hv with }
    exact (hd.emit (e := .complete _) ⟨x, hx, r, rfl⟩).emit trivial

end Rebuffs

/-! ### Illegal flags -/

variable {m : Message} {e : Failure}

lemma judge_of_badFlags (he : m.header.checkFlags = .error e) :
    t.judge site m = .reject e (site.node.errorCea m e) := by
  have hi : site.node.identify m = .error e := by
    unfold Node.identify
    rw [he]
    rfl
  simp [judge, Node.answerCer, hi]

lemma answerFirstCer_of_badFlags (he : m.header.checkFlags = .error e) :
    t.answerFirstCer site m = t.write site .responder (site.node.errorCea m e) (.reject e) := by
  unfold answerFirstCer
  rw [judge_of_badFlags he]

lemma rebuffs_onAcceptedCer (hw : t.conn.writing = none) (he : m.header.checkFlags = .error e)
    (stream : Nat) : t.Rebuffs site (t.onAcceptedCer site stream m) := by
  have hr : t.Rebuffs site t := .idle hw
  have ha : t.Rebuffs site (t.attach stream).2 := by
    have hn : t.Rebuffs site { t with conn.attached := t.conn.attached + 1 } :=
      hr.adjust rfl rfl rfl rfl rfl
    exact hn.emit (e := .listen ⟨t.conn.attached + 1, stream⟩) trivial
  have hi : t.Rebuffs site (t.electIncoming site stream m) := by
    unfold electIncoming
    dsimp only
    rw [judge_of_badFlags he]
    exact ha.writeOn _ _ trivial
  unfold onAcceptedCer
  split
  · -- the first stream: the CER is answered, and the connection ends after that
    dsimp only
    rw [answerFirstCer_of_badFlags he]
    refine Rebuffs.write ?_ _ _ trivial
    exact ha.adjust rfl rfl rfl rfl rfl
  · -- a second stream: it is turned away, as is one that comes later
    exact hi
  · exact hi
  · exact hr.emit (e := .refuse stream) trivial

lemma rebuffs_onCea (hw : t.conn.writing = none) {link : Nat}
    (hp : t.conn.phase = .waitICea ∨ t.conn.phase = .waitReturns)
    (hs : t.conn.sideOf? link = some .initiator) (hc : m.isCea)
    (hn : ∀ peer, ¬ t.Introduces site link m peer) : t.Rebuffs site (t.onCea site m) := by
  have hr : t.Rebuffs site t := .idle hw
  unfold onCea
  split
  · exact hr.giveUp _
  · rename_i peer ha
    split
    · rename_i hb
      exact absurd ⟨hp, hs, hc, ha, hb⟩ (hn peer)
    · exact hr.giveUp _

/-- A message with illegal flags on an attached stream is rebuffed, unless it introduces the
peer. -/
lemma rebuffs_onReceived (hw : t.conn.writing = none) (he : m.header.checkFlags = .error e)
    {side : Side} {link : Nat} (hs : t.conn.sideOf? link = some side)
    (hn : ∀ peer, ¬ t.Introduces site link m peer) :
    t.Rebuffs site (t.onReceived site side link m) := by
  have hr : t.Rebuffs site t := .idle hw
  have hx : t.Rebuffs site (t.notAcceptable "Rcv-Message") := hr.report _
  have hc : t.conn.phase = .waitICea ∨ t.conn.phase = .waitReturns →
      t.Rebuffs site (if side = .initiator && m.isCea then t.onCea site m
        else t.notAcceptable "Rcv-Message") := by
    intro hp
    split
    · -- a CEA, which does not open the connection by hypothesis
      rename_i hm
      simp only [Bool.and_eq_true, decide_eq_true_eq] at hm
      exact rebuffs_onCea hw hp (hm.1 ▸ hs) hm.2 hn
    · exact hx
  have ho : t.Rebuffs site (if t.conn.activeSide? = some side then t.onOpenMessage site side link m
      else t.notAcceptable "Rcv-Message") := by
    split
    · -- a request is answered, an answer only reported
      unfold onOpenMessage
      rw [he]
      dsimp only
      split
      · exact hr.write _ _ trivial
      · exact hr.report e
    · exact hx
  -- no reader of the stream has looked at the flags, so each phase has to
  unfold onReceived
  split
  · -- the first message of an accepted stream
    split
    · rw [answerFirstCer_of_badFlags he]
      exact hr.write _ _ trivial
    · exact hr.giveUp _
  all_goals first | exact hc (.inl ‹_›) | exact hc (.inr ‹_›) | exact ho | exact hx

lemma phase_handle_of_badFlags (hp : t.conn.phase.isRunning) (he : m.header.checkFlags = .error e)
    (hr : m.header.isRequest = false) {ev : Event}
    (hv : (∃ stream, ev = .acceptedCer stream m) ∨ ∃ link, ev = .received link m) :
    (t.handle site ev).conn.phase = t.conn.phase := by
  have hc := Phase.isRunning_iff.mp hp
  rcases hv with ⟨stream, rfl⟩ | ⟨link, rfl⟩
  · -- the stream that it came on is turned away
    rcases hc with hc | hc | hc <;> simp [handle, onAcceptedCer, hc, emit]
  · have ho : ∀ side, (t.onOpenMessage site side link m).conn.phase = t.conn.phase := by
      intro side
      simp [onOpenMessage, he, hr, report, note, emit]
    simp only [handle]
    -- the flags are looked at on the active stream only
    split
    · rename_i side _
      have hm : t.onReceived site side link m = if t.conn.activeSide? = some side then
          t.onOpenMessage site side link m else t.notAcceptable "Rcv-Message" := by
        rcases hc with hc | hc | hc <;> simp only [onReceived, hc]
      rw [hm]
      split
      · exact ho side
      · rfl
    · rfl

lemma phase_of_introduces {link : Nat} {peer : PeerIdentity}
    (h : t.Introduces site link m peer) :
    (t.handle site (.received link m)).conn.phase = .iOpen := by
  rw [handle_of_introduces h]
  obtain ⟨_, _, hd⟩ := duty_openAs site
    (if t.conn.phase = .waitReturns then t.dropCandidate else t) peer (p := .iOpen) rfl
  exact congrArg Duty.phase hd

end Turn

/-! ### Turns of a run -/

/-- The message that an input brings. -/
def Input.message? : Input → Option Message
  | .event (.received _ m) | .event (.acceptedCer _ m) => some m
  | _ => none

namespace Beat

/-- Nothing comes of the turn but complaints. -/
def Rebuffs (site : Site) (b : Beat) : Prop := b.begun.Rebuffs site (b.turn site)

/-- The turn takes the CEA that the phase waits for, from the peer that is asked for. -/
def Introduces (site : Site) (b : Beat) : Prop :=
  ∃ link m peer, b.input = .event (.received link m) ∧ b.begun.Introduces site link m peer

variable {site : Site} {b d : Beat} {m : Message} {e : Failure}

lemma phase_of_introduces (h : b.Introduces site) : (b.turn site).conn.phase = .iOpen := by
  obtain ⟨link, m, peer, hi, h⟩ := h
  rw [turn_event hi]
  exact Turn.phase_of_introduces h

lemma phase_of_badFlags (hm : b.input.message? = some m) (he : m.header.checkFlags = .error e)
    (hr : m.header.isRequest = false) (hp : b.conn.phase.isRunning) :
    (b.turn site).conn.phase = b.conn.phase := by
  have hb : b.begun.conn.phase = b.conn.phase := congrArg Duty.phase b.duty_begun
  cases hi : b.input with
  | written result => simp [hi, Input.message?] at hm
  | event ev =>
    rw [hi] at hm
    rw [turn_event hi, ← hb]
    refine Turn.phase_handle_of_badFlags (hb ▸ hp) he hr ?_
    cases ev with
    | acceptedCer stream cer => exact .inl ⟨stream, by rw [Option.some.inj hm]⟩
    | received link m' => exact .inr ⟨link, by rw [Option.some.inj hm]⟩
    | _ => exact absurd hm (by simp [Input.message?])

lemma rebuffs (ht : b.conn.Takes b.input) (hm : b.input.message? = some m)
    (he : m.header.checkFlags = .error e) (hn : ¬ b.Introduces site) : b.Rebuffs site := by
  cases hi : b.input with
  | written result => simp [hi, Input.message?] at hm
  | event ev =>
    have hw : b.begun.conn.writing = none := writing_begun_of_event ht hi
    unfold Rebuffs
    rw [turn_event hi]
    rw [hi] at hm
    cases ev with
    | acceptedCer stream cer =>
      obtain rfl : cer = m := Option.some.inj hm
      exact Turn.rebuffs_onAcceptedCer hw he stream
    | received link m' =>
      obtain rfl : m' = m := Option.some.inj hm
      unfold Turn.handle
      dsimp only
      split
      · rename_i side hs
        exact Turn.rebuffs_onReceived hw he hs fun peer h => hn ⟨link, m', peer, hi, h⟩
      · exact .idle hw
    | _ => exact absurd hm (by simp [Input.message?])

lemma Rebuffs.written (h : b.Rebuffs site) (hc : d.conn.shape = (b.turn site).conn.shape)
    {result : Option Failure} (hi : d.input = .written result) (ht : d.conn.Takes d.input) :
    d.Rebuffs site := by
  have hg : ∀ w, d.conn.writing = some w → w.goal.IsComplaint := fun w hw =>
    h.writing w ((congrArg Shape.writing hc).symm.trans hw)
  have hr : d.begun.Rebuffs site d.begun := .refl fun w hw => hg w (d.writing_begun.symm.trans hw)
  rw [hi] at ht
  cases ht with
  | @written w hw _ =>
    have hn : d.begun.Rebuffs site { d.begun with conn.writing := none } :=
      { hr with writing := by simp }
    unfold Rebuffs
    rw [turn_written hi hw]
    exact hn.settle (hg w hw) _ result

end Beat

namespace Connection

variable {site : Site} {as ds : List Beat} {b : Beat} {c c₀ : Connection} {m : Message}
  {e : Failure}

/-- **Illegal flags are honoured in one case only.** A message with illegal flags is rebuffed, and
nothing more comes of it once the complaint is written; an answer does not even end a connection
that is open or about to part. But a CEA that is waited for introduces the peer all the same. -/
theorem Run.rebuffs_badFlags (h : Run site c₀ (as ++ b :: ds) c) (hm : b.input.message? = some m)
    (he : m.header.checkFlags = .error e) :
    (¬ b.Introduces site ∧ b.Rebuffs site ∧
      (m.header.isRequest = false → b.conn.phase.isRunning →
        (b.turn site).conn.phase = b.conn.phase) ∧
      ∀ d es result, ds = d :: es → d.input = .written result → d.Rebuffs site) ∨
    b.Introduces site ∧ (b.turn site).conn.phase = .iOpen := by
  obtain ⟨-, ht, hs⟩ := h.split
  by_cases hn : b.Introduces site
  · exact .inr ⟨hn, Beat.phase_of_introduces hn⟩
  · have hr := Beat.rebuffs ht hm he hn
    refine .inl ⟨hn, hr, Beat.phase_of_badFlags hm he, ?_⟩
    rintro d es result rfl hi
    have hd : Run site (b.turn site).conn ([] ++ d :: es) c := hs
    obtain ⟨h₀, htd, -⟩ := hd.split
    exact hr.written h₀.shape_nil hi htd

/-- A CER that is marked as an error is rebuffed. -/
theorem rebuffs_erroneousCer :
    let site : Site := ⟨Node.plain "a", {}⟩
    let cer := ((Node.plain "b").cer {}).1
    let marked : Message := { cer with header := cer.header.setError }
    let b := opening (.acceptedCer 0 marked)
    Run site b.conn ([] ++ [b]) (b.turn site).conn ∧
      marked.header.checkFlags = .error (.invalidMessage .badHeaderBits) ∧ b.Rebuffs site := by
  intro site cer marked b
  have h : Run site b.conn ([] ++ [b]) (b.turn site).conn := run_opening site _
  have hf : marked.header.checkFlags = .error (.invalidMessage .badHeaderBits) := by decide +kernel
  refine ⟨h, hf, ?_⟩
  rcases h.rebuffs_badFlags rfl hf with ⟨-, hr, -, -⟩ | ⟨-, hp⟩
  · exact hr
  · exact absurd hp (by decide +kernel)

/-- A CEA that is marked as retransmitted opens the connection that has dialed. -/
theorem opens_retransmittedCea :
    let site : Site := ⟨Node.plain "a", {}⟩
    let cea := (Node.plain "b").cea ((Node.plain "a").cer {}).1 .success
    let marked : Message := { cea with header := cea.header.setRetransmit }
    let b := opening .start
    let r := (b.turn site).conn.play site [.event (.dialed 0), .written none,
      .event (.received 1 marked)]
    Run site b.conn ([b] ++ r.1) r.2 ∧
      marked.header.checkFlags = .error (.invalidMessage .badHeaderBits) ∧
      r.1.map (·.conn.phase) = [.waitConnAck, .waitConnAck, .waitICea] ∧ r.2.phase = .iOpen := by
  intro site cea marked b r
  exact ⟨(run_opening site _).play (by decide +kernel), by decide +kernel, by decide +kernel,
    by decide +kernel⟩

end Connection

end Diameter
