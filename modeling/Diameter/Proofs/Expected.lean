import Diameter.Proofs.Handshake
import Diameter.Proofs.Precedence

/-!
A connection that expects a host is bound to that host or to none.

A connection that dials is told whom to expect, one that is begun with a CER expects the host that
the CER names. The host is compared where a CER is judged, with the host that is expected, and where
a CEA comes in: then, if an accepted stream waits for the election, with the host behind that
stream. Whoever is behind such a stream was judged before (`Course.meets`), and hosts are compared
alike everywhere, so that all comparisons come to one. Main statement: `Connection.Run.keepsTo`.
-/

namespace Diameter

/-! ### Hosts -/

lemma Identity.same_trans {a b c : String} (h : same a b) (k : same b c) : same a c :=
  same_iff.mpr ((same_iff.mp h).trans (same_iff.mp k))

/-- The message names a host as its origin that is this one up to ASCII case. -/
def Message.Names (m : Message) (host : String) : Prop :=
  ∃ origin, m.originHost? = some origin ∧ Identity.same host origin

namespace Capabilities

lemma originHost?_of_required {m : Message} {a : Avp} {host : String}
    (ha : required m.avps Avp.Code.originHost = .ok a) (hh : a.asIdentity = .ok host) :
    m.originHost? = some host := by
  have hf : Avp.find m.avps Avp.Code.originHost = some a := by
    unfold required at ha
    split at ha
    · rwa [← Except.ok.inj ha]
    · cases ha
  have ht : a.text? = some host := by
    unfold Avp.asIdentity at hh
    split at hh
    · split at hh
      · rwa [← Except.ok.inj hh]
      · cases hh
    · cases hh
  rw [Message.originHost?, Message.text?, Message.find, hf]
  exact ht

lemma host_of_finish {avps : List Avp} {host realm product : String} {addresses : List Address}
    {vendor : UInt32} {c : Capabilities}
    (h : finish avps host realm addresses vendor product = .ok c) : c.host = host := by
  simp only [finish, bind_eq_ok] at h
  obtain ⟨_, -, _, -, _, -, _, -, h⟩ := h
  cases h
  rfl

lemma originHost?_of_ofCer {m : Message} {c : Capabilities} (h : ofCer m = .ok c) :
    m.originHost? = some c.host := by
  simp only [ofCer, bind_eq_ok] at h
  obtain ⟨a, ha, host, hh, _, -, _, -, _, -, h⟩ := h
  split at h
  · simp [bind_eq_ok] at h
  · simp only [bind_eq_ok] at h
    obtain ⟨_, -, _, -, _, -, _, -, h⟩ := h
    rw [host_of_finish h]
    exact originHost?_of_required ha hh

lemma originHost?_of_ofCea {m : Message} {c : Capabilities} (h : ofCea m = .ok c) :
    m.originHost? = some c.host := by
  simp only [ofCea, bind_eq_ok] at h
  obtain ⟨a, ha, host, hh, _, -, _, -, _, -, h⟩ := h
  rw [host_of_finish h]
  exact originHost?_of_required ha hh

end Capabilities

namespace Node

variable {n : Node} {m : Message} {peer : PeerIdentity}

lemma originHost?_of_identify (h : n.identify m = .ok peer) : m.originHost? = some peer.host := by
  simp only [identify, bind_eq_ok] at h
  obtain ⟨_, -, c, hc, _, -, h⟩ := h
  cases h
  exact Capabilities.originHost?_of_ofCer hc

lemma originHost?_of_answerCer {cea : Message} (h : n.answerCer m = .accept peer cea) :
    m.originHost? = some peer.host := by
  unfold answerCer at h
  split at h
  · cases h
    exact originHost?_of_identify ‹_›
  · cases h

lemma originHost?_of_acceptCea (h : n.acceptCea m = .ok peer) : m.originHost? = some peer.host := by
  unfold acceptCea at h
  split at h
  · cases h
  · split at h
    · simp [bind_eq_ok] at h
    · simp only [bind_eq_ok] at h
      obtain ⟨c, hc, _, -, h⟩ := h
      cases h
      exact Capabilities.originHost?_of_ofCea hc

end Node

/-! ### From stage to stage -/

/-- Whoever is behind an accepted stream, and whoever the connection is bound to, is the host. -/
structure Stage.Meets (host : String) (s : Stage) : Prop where
  rival : ∀ x, s.rival? = some x → Identity.same host x.peer.host
  peer : ∀ p, s.peer? = some p → Identity.same host p.host

variable {site : Site} {expected : Option String} {host : String} {first : Event}
  {bs : List Beat} {b : Beat} {c : Connection} {n n' : Nat} {s s' : Stage} {i : Input}
  {out : List Effect}

namespace Next

/-- Whom a stage is bound to has just been found, or was there before. -/
lemma meets (h : Next site (some host) n s i out n' s') (hs : s.Meets host) : s'.Meets host := by
  cases h with
  | acceptFirst _ he | acceptAwaited _ _ he | court _ he | challenge _ he =>
    refine ⟨?_, fun p hp => absurd hp (by simp [Stage.peer?])⟩
    rintro x ⟨⟩
    exact he
  | confirm _ _ he =>
    refine ⟨fun x hx => absurd hx (by simp [Stage.rival?]), ?_⟩
    rintro p ⟨⟩
    exact he
  | prevail _ _ he =>
    refine ⟨fun x hx => absurd hx (by simp [Stage.rival?]), ?_⟩
    rintro p ⟨⟩
    exact Identity.same_trans (hs.rival _ rfl) he
  | accepted =>
    refine ⟨fun x hx => absurd hx (by simp [Stage.rival?]), ?_⟩
    rintro p ⟨⟩
    exact hs.rival _ rfl
  | introduce | elect | undialed | win | ownLost =>
    exact ⟨hs.rival, fun p hp => absurd hp (by simp [Stage.peer?])⟩
  | write | written | part | partAndFall | fall =>
    exact ⟨fun x hx => absurd hx (by simp [Stage.rival?]), hs.peer⟩
  | stay | refuse => exact hs
  | @turnAwayUnanswered i | @turnedAway i =>
    cases i <;> exact ⟨by simp [Stage.alone, Stage.rival?], by simp [Stage.alone, Stage.peer?]⟩
  | _ => exact ⟨by simp [Stage.rival?], by simp [Stage.peer?]⟩

lemma peer_of_showPeer (h : Next site expected n s i out n' s') {p : PeerIdentity}
    (hp : .showPeer p ∈ out) : s'.peer? = some p := by
  cases h with
  | confirm | prevail | accepted =>
    obtain rfl := by simpa using hp
    rfl
  | fall _ ho =>
    have hm : .showPeer p ∈ out.filter Effect.isShow := List.mem_filter.mpr ⟨hp, rfl⟩
    exact absurd (ho ▸ hm) (by simp)
  | _ => exact absurd hp (by simp)

/-- While an election is pending only the CEA of whoever is behind the accepted stream opens the
connection on the dialed one. -/
lemma prevails (h : Next site expected n s i out n' s') (hs : s.phase = .waitReturns)
    (he : .showPhase .iOpen ∈ out) : ∃ l x cea peer, s = .electing l x false ∧
      i = .event (.received l.id cea) ∧ site.node.acceptCea cea = .ok peer ∧
      Identity.same x.peer.host peer.host := by
  cases h with
  | @prevail l x cea peer _ hp hx => exact ⟨l, x, cea, peer, rfl, rfl, hp, hx⟩
  | confirm => exact absurd hs (by simp [Stage.phase])
  | fall _ ho =>
    have hm : .showPhase .iOpen ∈ out.filter Effect.isShow := List.mem_filter.mpr ⟨he, rfl⟩
    exact absurd (ho ▸ hm) (by simp)
  | _ => exact absurd he (by simp)

end Next

lemma Course.meets (h : Course site (some host) first bs n s) : s.Meets host := by
  induction h with
  | nil => exact ⟨by simp [Stage.rival?], by simp [Stage.peer?]⟩
  | turn _ _ _ hn _ ih => exact hn.meets ih

/-! ### A second stream that is turned away -/

/-- A second stream is turned away, and the connection stays as it was: at once, or once the
answer on that stream has been written, whatever comes of it. -/
inductive Beat.TurnsAway (site : Site) (b : Beat) (link : Link) (ds : List Beat) : Prop
  | atOnce (hs : (b.turn site).conn.shape = { b.conn.shape with attached := link.id })
      (ho : (b.turn site).outline = [.listen link, .hangUp link])
  | answering (w : Writing) (hw : w.link = link)
      (hs : (b.turn site).conn.shape =
        { b.conn.shape with attached := link.id, writing := some w })
      (ho : (b.turn site).outline = [.listen link])
      (hd : ∀ d es, ds = d :: es →
        (d.turn site).conn.shape = { b.conn.shape with attached := link.id } ∧
          (d.turn site).outline = [.hangUp link])

namespace Turn

variable {t : Turn}

lemma judge_of_stranger {cer : Message} (hx : t.conn.expectedHost = some host)
    (h : ∀ peer, site.node.identify cer = .ok peer → Identity.same host peer.host = false) :
    ∃ e, t.judge site cer = .reject e (site.node.errorCea cer e) := by
  rcases judge_cases site cer t with ⟨peer, hi, he, -⟩ | hj
  · rw [hx, Option.all_some, h peer hi] at he
    exact absurd he (by simp)
  · exact hj

lemma settle_turnAway (site : Site) (t : Turn) (link : Link) (e : Failure) (m : Message)
    (result : Option Failure) :
    (t.settle site (.turnAway link e) m result).conn = t.conn ∧
      (t.settle site (.turnAway link e) m result).outline = t.outline ++ [.hangUp link] := by
  refine ⟨rfl, ?_⟩
  simp only [settle, outline_emit, outline_report, Effect.isStructural]
  rfl

lemma electIncoming_of_reject {stream : Nat} {cer cea : Message} {e : Failure} {link : Link}
    (hl : link = ⟨t.conn.attached + 1, stream⟩)
    (h : (t.attach stream).2.judge site cer = .reject e cea) :
    (∃ d, (t.electIncoming site stream cer).conn.shape =
          { t.conn.shape with
            attached := link.id, writing := some ⟨link, cea, .turnAway link e, d⟩ } ∧
        (t.electIncoming site stream cer).outline = t.outline ++ [.listen link]) ∨
      (t.electIncoming site stream cer).conn.shape = { t.conn.shape with attached := link.id } ∧
        (t.electIncoming site stream cer).outline =
          t.outline ++ [.listen link, .hangUp link] := by
  subst hl
  have ho := outline_attach t stream
  rw [electIncoming_of_judge h]
  rcases writeOn_cases site (t.attach stream).2 ⟨t.conn.attached + 1, stream⟩ cea
      (.turnAway ⟨t.conn.attached + 1, stream⟩ e) with ⟨-, hw⟩ | ⟨f, -, hw⟩
  · rw [hw]
    exact .inl ⟨_, rfl, ho⟩
  · obtain ⟨hc, hs⟩ := settle_turnAway site (t.attach stream).2
      ⟨t.conn.attached + 1, stream⟩ e cea (some f)
    rw [hw, hc, hs, ho, List.append_assoc]
    exact .inr ⟨rfl, rfl⟩

end Turn

lemma Beat.turn_turnAway (site : Site) {link : Link} {cea : Message} {e : Failure} {deadline : Nat}
    (ht : b.conn.Takes b.input)
    (hw : b.conn.writing = some ⟨link, cea, .turnAway link e, deadline⟩) :
    (b.turn site).conn.shape = { b.conn.shape with writing := none } ∧
      (b.turn site).outline = [.hangUp link] := by
  cases hi : b.input with
  | event g =>
    have hn := Beat.writing_begun_of_event ht hi
    rw [Beat.writing_begun, hw] at hn
    cases hn
  | written result =>
    obtain ⟨hc, ho⟩ := Turn.settle_turnAway site
      { b.begun with conn.writing := none } link e cea result
    have hb : b.begun.conn = b.conn := by
      rw [Beat.begun, hi]
      rfl
    rw [Beat.turn_written hi hw, hc, ho]
    exact ⟨by rw [← hb]; rfl, rfl⟩

lemma Course.internal_eq_nil (h : Course site expected first bs n s)
    (hc : c.shape = s.shape expected n)
    (hp : c.phase = .waitConnAck ∨ c.phase = .waitICea) : c.internal = [] := by
  have hi : c.internal = (s.shape expected n).internal := congrArg Shape.internal hc
  have hs : c.phase = s.phase := Stage.phase_of_shape hc
  rw [hi]
  refine List.eq_nil_iff_forall_not_mem.mpr fun e he => ?_
  rcases Stage.mem_internal he with rfl | ⟨l, x, rfl, -⟩ <;>
    rw [hs] at hp <;> simp [Stage.phase] at hp

namespace Connection.Run

/-- A second stream is turned away if its CER is out of order or introduces another host. -/
lemma turnsAway {ds : List Beat} {stream : Nat} {cer : Message}
    (h : Run site (fresh (some host) first) (bs ++ b :: ds) c) (hf : first.IsOpening)
    (hp : b.conn.phase = .waitConnAck ∨ b.conn.phase = .waitICea)
    (hi : b.input = .event (.acceptedCer stream cer))
    (hx : ∀ peer, site.node.identify cer = .ok peer → Identity.same host peer.host = false) :
    b.TurnsAway site ⟨b.conn.attached + 1, stream⟩ ds := by
  obtain ⟨hr, ht, hd⟩ := h.split
  obtain ⟨n, s, hs, hc⟩ := hr.course hf
  have hn := hs.internal_eq_nil hc hp
  have hb : b.begun.conn = b.conn := by
    rw [Beat.conn_begun hi, hn, List.tail_nil, ← hn]
  have hw : b.conn.writing = none := by
    rw [← congrArg Connection.writing hb]
    exact Beat.writing_begun_of_event ht hi
  have hh : b.begun.conn.expectedHost = some host :=
    (congrArg Connection.expectedHost hb).trans
      ((congrArg Shape.expectedHost hc).trans (Stage.expectedHost_shape _ _ _))
  have hu : b.turn site = b.begun.electIncoming site stream cer := by
    rw [← hb] at hp
    rw [Beat.turn_event hi, Turn.handle]
    rcases hp with hp | hp <;> simp [Turn.onAcceptedCer, hp]
  obtain ⟨e, hj⟩ := Turn.judge_of_stranger (t := (b.begun.attach stream).2) hh hx
  have hl : (⟨b.conn.attached + 1, stream⟩ : Link) = ⟨b.begun.conn.attached + 1, stream⟩ := by
    rw [hb]
  rcases Turn.electIncoming_of_reject hl hj with ⟨d, hv, ho⟩ | ⟨hv, ho⟩ <;>
    rw [← hu, hb] at hv <;> rw [← hu] at ho
  · refine .answering _ rfl hv ho ?_
    rintro d es rfl
    obtain ⟨hd, hdt, -⟩ := Run.split (show Run site _ ([] ++ d :: es) c from hd)
    have hds := hd.shape_nil.trans hv
    obtain ⟨hdv, hdo⟩ := Beat.turn_turnAway site hdt (congrArg Shape.writing hds)
    refine ⟨?_, hdo⟩
    rw [hdv, hds, ← hw]
    rfl
  · exact .atOnce hv ho

end Connection.Run

/-! ### Runs -/

/-- What holds of a connection that expects a host, and of the turns that led to it. -/
structure KeepsTo (site : Site) (host : String) (bs : List Beat) (c : Connection) : Prop where
  /-- Whomever the connection is bound to is the host. -/
  bound : ∀ peer, c.identity = some peer → Identity.same host peer.host
  /-- So is whomever an onlooker has been shown. -/
  shown : ∀ b ∈ bs, ∀ peer, .showPeer peer ∈ (b.turn site).effects →
    Identity.same host peer.host
  /-- A CEA on which the connection opens names the host. -/
  initiator : ∀ b ∈ bs, b.Enters site .iOpen → ∃ link cea,
    b.input = .event (.received link cea) ∧ cea.Names host
  /-- A CER on whose answer the connection opens names the host. -/
  responder : ∀ as b ds, bs = as ++ b :: ds → b.Enters site .rOpen → ∃ w,
    b.conn.writing = some w ∧ ∃ a ∈ as, ∃ cer peer, a.Hears site w.link cer ∧
      site.node.answerCer cer = .accept peer w.message ∧ cer.Names host
  /-- If the connection opens on the dialed stream while an election is pending, the CEA names the
  host that the CER on the accepted stream has named. -/
  rival : ∀ as b ds, bs = as ++ b :: ds → b.conn.phase = .waitReturns → b.Enters site .iOpen →
    ∃ link cea k cached peer, b.input = .event (.received link cea) ∧
      b.conn.responder = some k ∧ b.conn.cachedCea = some cached ∧
      ∃ a ∈ as, ∃ cer origin, a.Hears site k cer ∧
        site.node.answerCer cer = .accept peer cached ∧ cer.originHost? = some origin ∧
        cea.Names origin
  /-- While this end is dialing or has introduced itself, a second stream whose CER is out of
  order or introduces another host is turned away, and nothing else happens. -/
  spurns : ∀ as b ds stream cer, bs = as ++ b :: ds →
    (b.conn.phase = .waitConnAck ∨ b.conn.phase = .waitICea) →
    b.input = .event (.acceptedCer stream cer) →
    (∀ peer, site.node.identify cer = .ok peer → Identity.same host peer.host = false) →
    b.TurnsAway site ⟨b.conn.attached + 1, stream⟩ ds

namespace Course

lemma shown (h : Course site (some host) first bs n s) (hb : b ∈ bs) {peer : PeerIdentity}
    (hp : .showPeer peer ∈ (b.turn site).effects) : Identity.same host peer.host := by
  obtain ⟨as, ds, rfl⟩ := List.append_of_mem hb
  obtain ⟨n₁, s₁, n₂, s₂, hs, -, hn, -⟩ := h.split
  exact (hn.meets hs.meets).peer peer (hn.peer_of_showPeer ((Turn.mem_outline rfl).mpr hp))

lemma names_cea (h : Course site (some host) first bs n s) (hb : b ∈ bs)
    (he : b.Enters site .iOpen) :
    ∃ link cea, b.input = .event (.received link cea) ∧ cea.Names host := by
  obtain ⟨as, ds, rfl⟩ := List.append_of_mem hb
  obtain ⟨n₁, s₁, n₂, s₂, hs, -, hn, -⟩ := h.split
  rcases hn.enters (by decide) ((Turn.mem_outline rfl).mpr he) with
    ⟨l, cea, peer, -, hi, -, ha, -, hp⟩ | ⟨_, _, _, hp, -⟩
  · exact ⟨l.id, cea, hi, peer.host, Node.originHost?_of_acceptCea ha,
      (hn.meets hs.meets).peer peer hp⟩
  · exact absurd hp (by decide)

lemma names_rival {as ds : List Beat} (h : Course site expected first (as ++ b :: ds) n s)
    (hp : b.conn.phase = .waitReturns) (he : b.Enters site .iOpen) :
    ∃ link cea k cached peer, b.input = .event (.received link cea) ∧
      b.conn.responder = some k ∧ b.conn.cachedCea = some cached ∧
      ∃ a ∈ as, ∃ cer origin, a.Hears site k cer ∧
        site.node.answerCer cer = .accept peer cached ∧ cer.originHost? = some origin ∧
        cea.Names origin := by
  obtain ⟨n₁, s₁, n₂, s₂, hs, hc, hn, -⟩ := h.split
  have hq : s₁.phase = .waitReturns := (Stage.phase_of_shape hc).symm.trans hp
  obtain ⟨l, x, cea, peer, rfl, hi, ha, hx⟩ := hn.prevails hq ((Turn.mem_outline rfl).mpr he)
  obtain ⟨a, ham, cer, hh, hv⟩ := hs.heard (x := x) rfl
  exact ⟨l.id, cea, x.link, x.cea, x.peer, hi, congrArg Shape.responder hc,
    congrArg Shape.cachedCea hc, a, ham, cer, x.peer.host, hh, hv,
    Node.originHost?_of_answerCer hv, peer.host, Node.originHost?_of_acceptCea ha, hx⟩

end Course

namespace Connection

lemma Run.same_of_identity (h : Run site (fresh (some host) first) bs c) (hf : first.IsOpening)
    {peer : PeerIdentity} (hp : c.identity = some peer) : Identity.same host peer.host := by
  obtain ⟨n, s, hs, hc⟩ := h.course hf
  have hi : c.identity = s.peer? :=
    (congrArg Shape.identity hc).trans (Stage.identity_shape _ n s)
  exact hs.meets.peer peer (hi.symm.trans hp)

/-- **A connection that expects a host keeps to it.** It is bound to that host or to none, whatever
streams come and go before it opens. -/
theorem Run.keepsTo (h : Run site (fresh (some host) first) bs c) (hf : first.IsOpening) :
    KeepsTo site host bs c := by
  obtain ⟨n, s, hs, -⟩ := h.course hf
  exact
    { bound := fun peer hp => h.same_of_identity hf hp
      shown := fun b hb peer hp => hs.shown hb hp
      initiator := fun b hb he => hs.names_cea hb he
      responder := by
        rintro as b ds rfl he
        obtain ⟨-, x, d, hw, -, hp, a, ha, cer, hh, hv⟩ := hs.responder he
        obtain ⟨hr, ht, -⟩ := h.split
        exact ⟨_, hw, a, ha, cer, x.peer, hh, hv, x.peer.host, Node.originHost?_of_answerCer hv,
          (hr.turn ht).same_of_identity hf hp⟩
      rival := by
        rintro as b ds rfl hp he
        exact hs.names_rival hp he
      spurns := by
        rintro as b ds stream cer rfl hp hi hx
        exact h.turnsAway hf hp hi hx }

/-- A connection that dials and expects the host B turns a stream of another host away, keeps a
stream of b for the election, and opens with the CEA of b. -/
theorem keepsTo_besieged :
    let site : Site := ⟨Node.plain "a", {}⟩
    let cer (host : String) : Message := ((Node.plain host).cer {}).1
    let start : Beat := (fresh (some "B") .start).beat (.event .start)
    let r := (start.turn site).conn.play site [.event (.acceptedCer 0 (cer "evil")),
      .written none, .event (.dialed 1), .written none, .event (.acceptedCer 2 (cer "b")),
      .event (.received 2 ((Node.plain "b").cea (cer "a") .success))]
    Run site (fresh (some "B") .start) ([start] ++ r.1) r.2 ∧ r.2.phase = .iOpen ∧
      r.2.identity.map (·.host) = some "b" ∧ KeepsTo site "B" ([start] ++ r.1) r.2 := by
  intro site cer start r
  have h₁ : Run site (fresh (some "B") .start) [start] (start.turn site).conn :=
    .turn (b := start) .nil (.internal ⟨by simp [start, beat, fresh], rfl⟩ rfl)
  have h : Run site (fresh (some "B") .start) ([start] ++ r.1) r.2 := h₁.play (by decide +kernel)
  have hp : r.2.phase = .iOpen ∧ r.2.identity.map (·.host) = some "b" := by decide +kernel
  exact ⟨h, hp.1, hp.2, h.keepsTo trivial⟩

end Connection

end Diameter
