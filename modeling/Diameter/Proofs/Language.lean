import Diameter.Proofs.Parting
import Diameter.Proofs.Speech

/-!
The language of each stream: what is written on it, and in which order.

On a dialed stream a CER comes first, and nothing more until a CEA on it has opened the connection.
On an accepted stream the first request is answered, and nothing more is written unless that answer
has opened the connection. Whoever has asked to part only answers, and whoever has agreed to part is
silent. Main statement: `Connection.Run.speaks`.
-/

namespace Diameter

/-- What others hand over to be written has come about as it should: a request is the attempt of a
sender, and an answer is what the registry has made of a request. -/
def Event.IsMade (n : Node) : Event → Prop
  | .send _ m => ∃ s ids, Sending.Begun n s ∧ m = (s.attempt ids).1
  | .handled _ a => ∃ (r : Registry) (request : Message), a = r.dispatch n request
  | _ => True

namespace Turn.Utters

variable {site : Site} {t : Turn} {e : Event} {m : Message} {g : Goal}

lemma isRequest_eq_false (h : t.Utters site e m g) (he : e.IsMade site.node)
    (hg : g.IsTraffic true) : m.header.isRequest = false := by
  cases h with
  | complains | complainsInvalid | reassures | departs => exact Node.isRequest_answerHeader _ _
  | answers =>
    obtain ⟨r, request, rfl⟩ := he
    exact (r.flags_dispatch site.node request).1
  | requests | disconnects | probes => exact absurd hg (by simp [Goal.IsTraffic])
  | _ => exact hg.elim

lemma checkFlags (h : t.Utters site e m g) (he : e.IsMade site.node)
    (hc : ∀ cea, t.conn.cachedCea = some cea → ∃ cer, cea = site.node.cea cer .success) :
    m.header.checkFlags = .ok () := by
  cases h with
  | introduces | disconnects | probes => exact Node.checkFlags_requestHeader _ _
  | recalls hm =>
    obtain ⟨cer, rfl⟩ := hc _ hm
    exact Node.checkFlags_answerHeader _ _
  | answers =>
    obtain ⟨r, request, rfl⟩ := he
    obtain ⟨hr, ht⟩ := r.flags_dispatch site.node request
    exact Header.checkFlags_of_answer hr ht
  | requests =>
    obtain ⟨s, ids, hs, rfl⟩ := he
    exact (hs.attempt ids).2
  | _ => exact Node.checkFlags_answerHeader _ _

lemma of_disconnect (h : t.Utters site e m .disconnect) :
    ∃ cause ids, m = (site.node.dpr cause ids).1 := by
  cases h with
  | disconnects waiter cause => exact ⟨cause, t.ids, rfl⟩

lemma of_farewell (h : t.Utters site e m .farewell) : ∃ l k, e = .received l k ∧
    k.header.isRequest ∧ k.isBaseCommand Command.disconnectPeer ∧ m = site.node.dpa k := by
  cases h with
  | @departs l k hr hk => exact ⟨l, k, rfl, hr, hk, rfl⟩

end Turn.Utters

variable {site : Site} {expected : Option String} {first : Event} {as bs ds : List Beat} {b : Beat}
  {c : Connection} {n : Nat} {s : Stage} {link : Link} {side : Side} {w : Writing}

lemma Stage.Told.cached (h : s.Told site bs) {cea : Message}
    (hc : (s.shape expected n).cachedCea = some cea) : ∃ cer, cea = site.node.cea cer .success := by
  have courted : ∀ {rival : Option Rival}, (∀ x ∈ rival, Courts site bs x) →
      rival.map (·.cea) = some cea → ∃ cer, cea = site.node.cea cer .success := by
    intro rival hx hm
    obtain ⟨x, rfl, rfl⟩ := Option.map_eq_some_iff.mp hm
    exact (hx x rfl).success
  cases s with
  | dialing rival => exact courted h hc
  | introducing i rival => exact courted h.2.2.2 hc
  | electing i x =>
    obtain rfl := Option.some.inj hc
    exact h.2.success
  | running closing side => cases side <;> exact absurd hc (by simp [Stage.shape])
  | _ => exact absurd hc (by simp [Stage.shape])

lemma Stage.Sound.phase_of_disconnect (hs : s.Sound) (hw : (s.shape expected n).writing = some w)
    (hg : w.goal = .disconnect) : s.phase ≠ .closing := by
  cases s with
  | running closing side link peer v =>
    obtain rfl : v = some w := by cases side <;> exact hw
    have hc : closing = false := by
      have ht := hs.2
      rwa [hg] at ht
    subst hc
    cases side <;> simp [Stage.phase]
  | introducing | turningAway | accepting | rejecting =>
    obtain rfl := Option.some.inj hw
    exact absurd hg (by simp)
  | closed | dialing | introduced | electing | awaitingCer | shut =>
    exact absurd hw (by simp [Stage.shape])

lemma Opened.wroteOn_ne_nil (h : Opened site bs side link) : wroteOn link bs ≠ [] := by
  have split : ∀ {k : Link} {as ds : List Beat} {a : Beat}, bs = as ++ a :: ds →
      wroteOn k bs = wroteOn k as ++ wroteOn k (a :: ds) := by
    rintro k as ds a rfl
    exact List.filterMap_append
  cases h with
  | initiator hb hg =>
    obtain ⟨ids, hs⟩ := hg.said
    rw [split hb, hs]
    simp
  | responder hb hw =>
    rw [split hb]
    simp [wroteOn, hw, Option.filter]

/-! ### What is said in a run -/

/-- What is written on the streams of a connection, turn by turn. -/
structure Speaks (site : Site) (bs : List Beat) : Prop where
  /-- A message is written on a stream that was dialed, or on one that was accepted. -/
  attached : ∀ as b ds w, bs = as ++ b :: ds → b.wrote = some w →
    Xor (Attached site as .initiator w.link) (Attached site as .responder w.link)
  /-- The first on a dialed stream is the CER. -/
  introduces : ∀ as b ds w, bs = as ++ b :: ds → b.wrote = some w →
    Attached site as .initiator w.link → wroteOn w.link as = [] →
    ∃ ids, w.message = (site.node.cer ids).1
  /-- Nothing more is written on it until a CEA that came on it has opened the connection. -/
  waits : ∀ as b ds w, bs = as ++ b :: ds → b.wrote = some w →
    Attached site as .initiator w.link → wroteOn w.link as ≠ [] → Opened site as .initiator w.link
  /-- The first on an accepted stream answers the first request that came on it. -/
  replies : ∀ as b ds w, bs = as ++ b :: ds → b.wrote = some w →
    Attached site as .responder w.link → wroteOn w.link as = [] →
    ∃ h, FirstAsked site as w.link h ∧ w.message.header.Replies h
  /-- Nothing more is written on it unless that was a CEA that reports success, and it has opened
  the connection. -/
  rests : ∀ as b ds w, bs = as ++ b :: ds → b.wrote = some w →
    Attached site as .responder w.link → wroteOn w.link as ≠ [] → Opened site as .responder w.link
  /-- After its own disconnect request this end writes only answers, and no second one. -/
  parts : ∀ as b ds w, bs = as ++ b :: ds → b.wrote = some w → w.goal = .disconnect →
    (∃ cause ids, w.message = (site.node.dpr cause ids).1) ∧
      ∀ d ∈ ds, ∀ v, d.wrote = some v → v.message.header.isRequest = false ∧ v.goal ≠ .disconnect
  /-- After the answer to the peer's disconnect request there is no further turn. -/
  ends : ∀ as b ds w, bs = as ++ b :: ds → b.wrote = some w → w.goal = .farewell →
    (∃ es a l m, as = es ++ [a] ∧ a.input = .event (.received l m) ∧ m.header.isRequest ∧
      m.isBaseCommand Command.disconnectPeer ∧ w.message = site.node.dpa m) ∧ ds = []
  /-- Whatever is written has legal flags. -/
  flags : ∀ b ∈ bs, ∀ w, b.wrote = some w → w.message.header.checkFlags = .ok ()

namespace Connection.Run

lemma told (h : Run site (fresh expected first) bs c) (hf : first.IsOpening)
    (hp : c.phase ≠ .shutdown) : ∃ (n : Nat) (s : Stage), c.shape = s.shape expected n ∧ s.Sound ∧
      s.Told site bs ∧ Orderly site bs n := by
  obtain ⟨n, s, hs, hc⟩ := h.course hf
  have hph : c.phase = s.phase := Stage.phase_of_shape hc
  obtain ⟨ht, ho⟩ := hs.told hf (hph ▸ hp)
  exact ⟨n, s, hc, hs.sound hf, ht, ho⟩

lemma occasion (h : Run site (fresh expected first) (as ++ b :: ds) c) (hf : first.IsOpening)
    (hw : b.wrote = some w) : ∃ n, Orderly site as n ∧ Occasion site as w := by
  obtain ⟨hr, ht, -⟩ := h.split
  obtain ⟨n, s, hc, hs, hto, ho⟩ := hr.told hf (hr.prompt hf ht).1
  have hws : (s.shape expected n).writing = some w :=
    (congrArg Shape.writing hc).symm.trans (Beat.writing_of_wrote hw).2
  exact ⟨n, ho, hto.occasion hs hws⟩

lemma uttered_of_wrote (h : Run site (fresh expected first) (as ++ b :: ds) c)
    (hf : first.IsOpening) (hw : b.wrote = some w) :
    ∃ es a e, as = es ++ [a] ∧ a.input = .event e ∧ a.begun.Utters site e w.message w.goal ∧
      ∀ cea, a.begun.conn.cachedCea = some cea → ∃ cer, cea = site.node.cea cer .success := by
  obtain ⟨hr, -, -⟩ := h.split
  obtain ⟨es, a, e, rfl, hi, hu, -⟩ := hr.uttered (Beat.writing_of_wrote hw).2
  obtain ⟨hr, ht, -⟩ := hr.split
  obtain ⟨n, s, hc, -, hto, -⟩ := hr.told hf (hr.prompt hf ht).1
  refine ⟨es, a, e, rfl, hi, hu, fun cea hcea => ?_⟩
  rw [Beat.conn_begun hi] at hcea
  have hs : (s.shape expected n).cachedCea = some cea :=
    (congrArg Shape.cachedCea hc).symm.trans hcea
  exact hto.cached hs

lemma parts_of_wrote (h : Run site (fresh expected first) (as ++ b :: ds) c)
    (hf : first.IsOpening) (hw : b.wrote = some w) (hg : w.goal = .disconnect) :
    b.Parts site := by
  obtain ⟨hr, ht, -⟩ := h.split
  obtain ⟨n, s, hc, hs, -, -⟩ := hr.told hf (hr.prompt hf ht).1
  obtain ⟨hi, hcw⟩ := Beat.writing_of_wrote hw
  have hp : b.conn.phase = s.phase := Stage.phase_of_shape hc
  have hws : (s.shape expected n).writing = some w := (congrArg Shape.writing hc).symm.trans hcw
  refine ⟨hp ▸ hs.phase_of_disconnect hws hg, ?_⟩
  rw [Beat.turn_written hi hcw, hg]
  exact congrArg Shape.phase (Turn.shape_transition site _ (by simp))

lemma isTraffic_of_parts {es fs : List Beat} {d : Beat}
    (h : Run site (fresh expected first) (as ++ b :: (es ++ d :: fs)) c) (hf : first.IsOpening)
    (hb : b.Parts site) (hw : d.wrote = some w) : w.goal.IsTraffic true := by
  have hp : d.conn.phase = .closing := (h.parted hf rfl hb).1 d (by simp)
  have hl : as ++ b :: (es ++ d :: fs) = (as ++ b :: es) ++ d :: fs := by simp
  rw [hl] at h
  obtain ⟨hr, ht, -⟩ := h.split
  obtain ⟨n, s, hc, hs, -, -⟩ := hr.told hf (hr.prompt hf ht).1
  have hph : d.conn.phase = s.phase := Stage.phase_of_shape hc
  have hws : (s.shape expected n).writing = some w :=
    (congrArg Shape.writing hc).symm.trans (Beat.writing_of_wrote hw).2
  obtain ⟨side, link, peer, v, rfl⟩ := Stage.eq_parting hs (hph.symm.trans hp)
  obtain rfl : v = some w := by cases side <;> exact hws
  exact hs.2

lemma nil_of_farewell (h : Run site (fresh expected first) (as ++ b :: ds) c)
    (hf : first.IsOpening) (hw : b.wrote = some w) (hg : w.goal = .farewell) : ds = [] := by
  obtain ⟨hi, hcw⟩ := Beat.writing_of_wrote hw
  have hp : (b.turn site).conn.phase = .shutdown := by
    rw [Beat.turn_written hi hcw, hg]
    exact Turn.phase_transition_shutdown site _
  cases ds with
  | nil => rfl
  | cons d ds =>
    obtain ⟨-, -, hs⟩ := h.split
    have h₀ : Run site (b.turn site).conn ([] ++ d :: ds) c := hs
    have hd : d.conn.phase = .shutdown := (congrArg Shape.phase h₀.split.1.shape_nil).trans hp
    rw [List.append_cons] at h
    obtain ⟨hr, ht, -⟩ := h.split
    exact absurd hd (hr.prompt hf ht).1

/-- **What a connection writes on its streams.** -/
theorem speaks (h : Run site (fresh expected first) bs c) (hf : first.IsOpening)
    (hm : ∀ b ∈ bs, ∀ e, b.input = .event e → e.IsMade site.node) : Speaks site bs where
  attached := by
    rintro as b ds w rfl hw
    obtain ⟨n, ho, hoc⟩ := h.occasion hf hw
    obtain ⟨side, ha⟩ := hoc.attached
    cases side with
    | initiator => exact .inl ⟨ha, ho.apart _ ha⟩
    | responder => exact .inr ⟨ha, fun hi => ho.apart _ hi ha⟩
  introduces := by
    rintro as b ds w rfl hw ha hs
    obtain ⟨n, ho, hoc⟩ := h.occasion hf hw
    cases hoc with
    | introduces _ _ hm => exact hm
    | replies hr => exact absurd hr.attached (ho.apart _ ha)
    | converses hop => exact absurd hs hop.wroteOn_ne_nil
  waits := by
    rintro as b ds w rfl hw ha hs
    obtain ⟨n, ho, hoc⟩ := h.occasion hf hw
    cases hoc with
    | introduces _ hn => exact absurd hn hs
    | replies hr => exact absurd hr.attached (ho.apart _ ha)
    | @converses side hop =>
      cases side with
      | initiator => exact hop
      | responder => exact absurd hop.attached (ho.apart _ ha)
  replies := by
    rintro as b ds w rfl hw ha hs
    obtain ⟨n, ho, hoc⟩ := h.occasion hf hw
    cases hoc with
    | introduces hi => exact absurd ha (ho.apart _ hi)
    | replies hr => exact hr.reply
    | converses hop => exact absurd hs hop.wroteOn_ne_nil
  rests := by
    rintro as b ds w rfl hw ha hs
    obtain ⟨n, ho, hoc⟩ := h.occasion hf hw
    cases hoc with
    | introduces hi => exact absurd ha (ho.apart _ hi)
    | replies hr => exact absurd hr.silent hs
    | @converses side hop =>
      cases side with
      | initiator => exact absurd ha (ho.apart _ hop.attached)
      | responder => exact hop
  parts := by
    rintro as b ds w rfl hw hg
    refine ⟨?_, fun d hd v hv => ?_⟩
    · obtain ⟨es, a, e, rfl, hi, hu, -⟩ := h.uttered_of_wrote hf hw
      rw [hg] at hu
      exact hu.of_disconnect
    · obtain ⟨es, fs, rfl⟩ := List.append_of_mem hd
      have hg : v.goal.IsTraffic true := h.isTraffic_of_parts hf (h.parts_of_wrote hf hw hg) hv
      have hl : as ++ b :: (es ++ d :: fs) = (as ++ b :: es) ++ d :: fs := by simp
      rw [hl] at h hm
      obtain ⟨gs, a, e, hgs, hi, hu, -⟩ := h.uttered_of_wrote hf hv
      have he : e.IsMade site.node := hm a (by simp [hgs]) e hi
      refine ⟨hu.isRequest_eq_false he hg, fun hd => ?_⟩
      rw [hd] at hg
      exact absurd hg (by simp [Goal.IsTraffic])
  ends := by
    rintro as b ds w rfl hw hg
    obtain ⟨es, a, e, rfl, hi, hu, -⟩ := h.uttered_of_wrote hf hw
    have hn := h.nil_of_farewell hf hw hg
    rw [hg] at hu
    obtain ⟨l, m, rfl, hr, hc, hm⟩ := hu.of_farewell
    exact ⟨⟨es, a, l, m, rfl, hi, hr, hc, hm⟩, hn⟩
  flags := by
    intro b hb w hw
    obtain ⟨as, ds, rfl⟩ := List.append_of_mem hb
    obtain ⟨es, a, e, rfl, hi, hu, hc⟩ := h.uttered_of_wrote hf hw
    exact hu.checkFlags (hm a (by simp) e hi) hc

end Connection.Run

namespace Connection

/-- A connection is accepted and sends a request. It asks to part, answers a watchdog request, and
agrees to part. -/
theorem speaks_parting :
    let site : Site := ⟨Node.plain "a", {}⟩
    let first : Event := .acceptedCer 0 ((Node.plain "b").cer {}).1
    let s : Sending := ⟨{ Message.request 272 4 with header.endToEnd := 1 }, 0⟩
    let r := ((opening first).turn site).conn.play site [.written none,
      .event (.send 7 (s.attempt {}).1), .written none, .event (.stop 0 .rebooting), .written none,
      .event (.received 1 ((Node.plain "b").dwr {}).1), .written none,
      .event (.received 1 ((Node.plain "b").dpr .busy {}).1), .written none]
    let bs := [opening first] ++ r.1
    Run site (fresh none first) bs r.2 ∧
      (∀ b ∈ bs, ∀ e, b.input = .event e → e.IsMade site.node) ∧
      (wroteOn ⟨1, 0⟩ bs).map (fun m => (m.header.command, m.header.isRequest)) =
        [(257, false), (272, true), (282, true), (280, false), (282, false)] ∧
      Speaks site bs := by
  intro site first s r bs
  have h : Run site (fresh none first) bs r.2 := (run_opening site first).play (by decide +kernel)
  have hb : Sending.start site.node 0 {} { Message.request 272 4 with header.endToEnd := 1 } =
      .ok (s, {}) := rfl
  have hs : Sending.Begun site.node s := .start hb
  have hm : ∀ b ∈ bs, ∀ e, b.input = .event e → e.IsMade site.node := by
    intro b hb e hi
    rcases List.mem_append.mp hb with hb | hb
    · obtain rfl := List.mem_singleton.mp hb
      obtain rfl := Input.event.inj hi
      trivial
    · have hi' := mem_play hb
      rw [hi] at hi'
      simp only [List.mem_cons, reduceCtorEq, Input.event.injEq, List.not_mem_nil, false_or,
        or_false] at hi'
      rcases hi' with rfl | rfl | rfl | rfl
      · -- the request to be sent has been begun
        exact ⟨s, {}, hs, rfl⟩
      all_goals trivial
  exact ⟨h, hm, by decide +kernel, h.speaks trivial hm⟩

end Connection

end Diameter
