import Mathlib.Logic.Relation
import Diameter.Proofs.Duel.Sound

/-!
Two ends that dial each other come to be open on one and the same stream.

`Duel.Keeps` is the invariant: each end is in one of its stages, and both streams carry what the
two stages call for. It holds of what a duel starts with, and whatever an end takes keeps it and
leaves less to do. In a state that is quiet it allows only one outcome. Main statements:
`Duel.Reached.agreement`, `Duel.Reached.settles`.
-/

namespace Diameter

namespace Duel

variable {d : Duel} {p : Party} {s s' : State} {stage : Party → Stage} {a : Stage} {e : Event}
  {out : List Effect} {t : Turn} {w : Wire} {wire : Party → Wire}

/-! ### What a turn leaves on the streams -/

namespace Lands

lemma silent (h : d.Lands p a out t) (hw : ∀ expected n, (a.shape expected n).writing = none)
    {stream : Nat} (hc : out.any (Effect.closes stream) = false) : w.after p stream t = w := by
  obtain ⟨n, -, hn⟩ := h.writing
  refine Wire.after_of_silent ?_ ((h.closes stream).trans hc)
  rw [Turn.writes?, hn, hw]
  rfl

lemma leaves (h : d.Lands p a out t) (hw : ∀ expected n, (a.shape expected n).writing = none)
    {stream : Nat} (hc : out.any (Effect.closes stream)) : w.after p stream t = w.leave p := by
  obtain ⟨n, -, hn⟩ := h.writing
  refine Wire.after_of_closes ?_ ((h.closes stream).trans hc)
  rw [Turn.writes?, hn, hw]
  rfl

end Lands

variable (d) in
/-- Each end is in its stage, and the streams are as the stages have it. -/
structure Keeps (s : State) (stage : Party → Stage) : Prop where
  stands : ∀ p, d.Stands p (s.conn p) (stage p)
  sound : ∀ p, d.Sound p (stage p) (stage p.other) (s.wire p)

/-- What is left to do. A CER that is handed over may set an end back by one step. -/
def remaining (s : State) (stage : Party → Stage) : Nat :=
  (stage .one).distance + (stage .two).distance + (s.wire .one).due + (s.wire .two).due

lemma remaining_eq (p : Party) :
    remaining s stage = (stage p).distance + (stage p.other).distance + (s.wire p).due +
      (s.wire p.other).due := by
  cases p with
  | one => rfl
  | two => simp only [remaining, Party.other]; omega

namespace Keeps

lemma sound_other (h : d.Keeps s stage) (p : Party) :
    d.Sound p.other (stage p.other) (stage p) (s.wire p.other) := by
  have := h.sound p.other
  rwa [Party.other_other] at this

lemma start (d : Duel) : d.Keeps d.start fun _ => .closed .start :=
  ⟨fun _ => ⟨0, rfl, rfl⟩, fun p => Sound.start p⟩

lemma after (h : d.Keeps s stage) (hc : d.Stands p t.conn a)
    (hw : d.Sound p a (stage p.other) ((wire p).after p (d.stream p) t))
    (hv : d.Sound p.other (stage p.other) a ((wire p.other).after p (d.stream p.other) t)) :
    d.Keeps (d.after s p wire t) (Function.update stage p a) := by
  constructor
  · rw [Party.forall_iff p]
    constructor
    · simpa using hc
    · simpa using h.stands p.other
  · rw [Party.forall_iff p]
    constructor
    · simpa [Duel.after] using hw
    · simpa [Duel.after] using hv

lemma silent (h : d.Keeps s stage) (hl : d.Lands p a out t)
    (hw : ∀ expected n, (a.shape expected n).writing = none)
    (hout : ∀ stream, out.any (Effect.closes stream) = false)
    (hcall : a.called = (stage p).called) (hcourt : a.courted = (stage p).courted)
    (hset : a.settled = (stage p).settled) :
    d.Keeps (d.after s p s.wire t) (Function.update stage p a) := by
  refine h.after hl.stands ?_ ?_
  · rw [hl.silent hw (hout _)]
    exact (h.sound p).own_same hcall hset
  · rw [hl.silent hw (hout _)]
    exact (h.sound_other p).far_same hcourt hset

lemma answers (hd : d.Fair) (h : d.Keeps s stage) {i : Link} {x : Rival}
    (hp : stage p = .electing i x true) (ht : (s.conn p).Takes (.event .wonElection))
    (m : Moment) :
    ∃ deadline, d.Keeps (d.after s p s.wire (d.turn s p m (.event .wonElection)))
      (Function.update stage p (.accepting .waitReturns x deadline)) := by
  have hst := h.stands p
  rw [hp] at hst
  obtain ⟨deadline, hl⟩ := hst.wins hd ht m
  obtain ⟨n, -, hw, hi, -, hx, -⟩ := hst
  obtain ⟨k, -, hwr⟩ := hl.writing
  have hwr' : (d.turn s p m (.event .wonElection)).conn.writing =
    some ⟨x.link, x.cea, .accept x.peer, deadline⟩ := hwr
  have hown := h.sound p
  have hfar := h.sound_other p
  rw [hp] at hown hfar
  refine ⟨deadline, h.after hl.stands ?_ ?_⟩
  · -- the winner hangs up its own stream
    rw [Wire.after_of_closes ?_ ?_]
    · exact hown.own_leaves hw.symm rfl rfl
    · simp [Turn.writes?, hwr', hx.stream, hd.stream_ne]
    · simp [hl.closes, Effect.closes, hi]
  · -- and answers the CER on the far one
    rw [Wire.after_of_writes (m := x.cea) ?_ ?_]
    · refine hfar.far_answers ?_ ?_ rfl rfl rfl
      · simpa using hx.cea
      · rw [hd.wins_other, ← hw]; rfl
    · simp [Turn.writes?, hwr', hx.stream]
    · simp [hl.closes, Effect.closes, hi, (hd.stream_ne p).symm]

lemma internal (hd : d.Fair) (h : d.Keeps s stage) (he : e ∈ (s.conn p).internal)
    (ht : (s.conn p).Takes (.event e)) (m : Moment) :
    ∃ a, d.Keeps (d.after s p s.wire (d.turn s p m (.event e))) (Function.update stage p a) ∧
      a.distance < (stage p).distance := by
  have hst := h.stands p
  obtain ⟨n, hc, ha⟩ := h.stands p
  have hi : e ∈ ((stage p).shape (some (d.host p.other)) n).internal := hc ▸ he
  rcases Stage.mem_internal hi with hp | ⟨i, x, hp, rfl⟩
  · rw [hp] at hst ha
    obtain rfl : e = .start := ha
    have hl := hst.start ht m
    exact ⟨_, h.silent hl (fun _ _ => rfl) (fun _ => rfl) (by rw [hp]; rfl) (by rw [hp]; rfl)
      (by rw [hp]; rfl), by simp [hp, Stage.distance]⟩
  · obtain ⟨deadline, hk⟩ := h.answers hd hp ht m
    exact ⟨_, hk, by simp [hp, Stage.distance]⟩

lemma written (h : d.Keeps s stage) (hw : (s.conn p).writing.isSome) (m : Moment) :
    ∃ a, d.Keeps (d.after s p s.wire (d.turn s p m (.written none)))
      (Function.update stage p a) ∧ a.distance < (stage p).distance := by
  have hst := h.stands p
  rcases hst.writes hw with ⟨i, rival, cer, deadline, hp⟩ | ⟨source, x, deadline, hp⟩
  · rw [hp] at hst
    cases rival with
    | none =>
      exact ⟨_, h.silent (hst.introduced m) (fun _ _ => rfl) (fun _ => rfl) (by rw [hp]; rfl)
        (by rw [hp]; rfl) (by rw [hp]; rfl), by simp [hp, Stage.distance]⟩
    | some x =>
      exact ⟨_, h.silent (hst.elects m) (fun _ _ => rfl) (fun _ => rfl) (by rw [hp]; rfl)
        (by rw [hp]; rfl) (by rw [hp]; rfl), by simp [hp, Stage.distance]⟩
  · rw [hp] at hst
    exact ⟨_, h.silent (hst.accepts m) (fun _ _ => rfl) (fun _ => rfl) (by rw [hp]; rfl)
      (by rw [hp]; rfl) (by rw [hp]; rfl), by simp [hp, Stage.distance]⟩

lemma dialed (hd : d.Fair) (h : d.Keeps s stage) (hs : (s.conn p).dialing)
    (ht : (s.conn p).Takes (.event (.dialed (d.stream p)))) (m : Moment) :
    ∃ a, d.Keeps (d.after s p s.wire (d.turn s p m (.event (.dialed (d.stream p)))))
      (Function.update stage p a) ∧ a.distance < (stage p).distance := by
  have hst := h.stands p
  obtain ⟨rival, hp⟩ := hst.dials hs
  rw [hp] at hst
  obtain ⟨i, cer, deadline, hl⟩ := hst.dialed hd ht m
  obtain ⟨n, ⟨hcer, hi, -⟩, hw⟩ := hl.writing
  have hw' : (d.turn s p m (.event (.dialed (d.stream p)))).conn.writing =
    some ⟨i, cer, .introduce rival.isSome, deadline⟩ := hw
  have hown := h.sound p
  have hfar := h.sound_other p
  rw [hp] at hown hfar
  refine ⟨_, h.after hl.stands ?_ ?_, by simp [hp, Stage.distance]⟩
  · rw [Wire.after_of_writes (m := cer) (by simp [Turn.writes?, hw', hi]) (hl.closes _)]
    exact hown.own_calls hcer rfl rfl rfl
  · rw [Wire.after_of_silent (by simp [Turn.writes?, hw', hi, (hd.stream_ne p).symm]) (hl.closes _)]
    exact hfar.far_same rfl rfl

/-! ### The stream of the other end -/

lemma not_courted (h : d.Keeps s stage) (hn : (s.wire p.other).handed = false) :
    (stage p).courted = false := by
  by_contra hc
  have := (h.sound_other p).handed (by simpa using hc)
  simp [hn] at this

lemma calls (h : d.Keeps s stage) {m : Message} {rest : List Message}
    (hm : (s.wire p.other).toward p = m :: rest) :
    (stage p.other).called ∧ (s.wire p.other).handed = false ∧ d.IsCer p.other m := by
  have hc := (h.sound_other p).cer
  rw [Party.other_other, hm] at hc
  obtain ⟨hb, hcer, -⟩ := hc.of_cons
  simp only [Bool.and_eq_true, Bool.not_eq_true'] at hb
  exact ⟨hb.1, hb.2, hcer⟩

lemma courts (h : d.Keeps s stage) (hcall : (stage p.other).called)
    (hl : d.Lands p a out t) (hw : ∀ expected n, (a.shape expected n).writing = none)
    (hout : ∀ stream, out.any (Effect.closes stream) = false)
    (hca : a.called = (stage p).called) (hco : a.courted = true)
    (hset : a.settled = (stage p).settled) :
    d.Keeps (d.after s p (Function.update s.wire p.other ((s.wire p.other).hand p)) t)
      (Function.update stage p a) := by
  refine h.after hl.stands ?_ ?_
  · rw [hl.silent hw (hout _)]
    simpa using (h.sound p).own_same hca hset
  · rw [hl.silent hw (hout _)]
    simpa using (h.sound_other p).far_courted hcall hco hset

lemma refuses (hd : d.Fair) (h : d.Keeps s stage) (hcall : (stage p.other).called)
    (hnc : (stage p).courted = false) {side : Side} {link : Link} {peer : PeerIdentity}
    (hp : stage p = .running false side link peer none) {cer : Message}
    (ht : (s.conn p).Takes (.event (.acceptedCer (d.stream p.other) cer))) (m : Moment) :
    d.Keeps (d.after s p (Function.update s.wire p.other ((s.wire p.other).hand p))
        (d.turn s p m (.event (.acceptedCer (d.stream p.other) cer))))
      (Function.update stage p (.running false side link peer none)) := by
  have hst := h.stands p
  rw [hp] at hst hnc
  have hw : d.wins p = false := by
    by_contra hw
    have := hst.courted_of_wins (by simpa using hw) rfl
    simp [hnc] at this
  have hset : (stage p.other).settled := (h.sound p).settled hw (by rw [hp]; rfl)
  have hl := hst.refuses ht m
  have hout : ([.refuse (d.stream p.other)] : List Effect).any
      (Effect.closes (d.stream p)) = false := by simp [Effect.closes, hd.stream_ne]
  refine h.after hl.stands ?_ ?_
  · rw [hl.silent (by cases side <;> exact fun _ _ => rfl) hout, ← hp]
    simpa using h.sound p
  · rw [hl.leaves (by cases side <;> exact fun _ _ => rfl) (by simp [Effect.closes]), ← hp]
    simpa using (h.sound_other p).far_refuses hcall (by simp [hd.wins_other, hw])
      (by simpa using hw) hset

lemma handed (hd : d.Fair) (h : d.Keeps s stage) {cer : Message} {rest : List Message}
    (hn : (s.wire p.other).handed = false) (hm : (s.wire p.other).toward p = cer :: rest)
    (ht : (s.conn p).Takes (.event (.acceptedCer (d.stream p.other) cer))) (m : Moment) :
    ∃ a, d.Keeps (d.after s p (Function.update s.wire p.other ((s.wire p.other).hand p))
        (d.turn s p m (.event (.acceptedCer (d.stream p.other) cer))))
      (Function.update stage p a) ∧ a.distance ≤ (stage p).distance + 1 := by
  have hst := h.stands p
  have hnc := h.not_courted hn
  obtain ⟨hcall, -, hcer⟩ := h.calls hm
  rcases hst.ready ht (by simp) (by simp) with ⟨rival, hp⟩ | ⟨i, hp⟩ | ⟨i, x, hp⟩ |
    ⟨side, link, peer, hp⟩
  · -- its own dial is not through
    rw [hp] at hst hnc
    cases rival with
    | some x => cases hnc
    | none =>
      obtain ⟨x, hl⟩ := hst.courted hd hcer ht m
      exact ⟨_, h.courts hcall hl (fun _ _ => rfl) (fun _ => rfl) (by rw [hp]; rfl) rfl
        (by rw [hp]; rfl), by simp [hp, Stage.distance]⟩
  · -- its own CER is out, so the two streams compete
    rw [hp] at hst
    obtain ⟨x, hl⟩ := hst.challenged hd hcer ht m
    refine ⟨_, h.courts hcall hl ?_ (fun _ => rfl) (by rw [hp]; rfl) rfl (by rw [hp]; rfl), ?_⟩
    · exact fun _ _ => rfl
    · simp [hp, Stage.distance]
  · -- the far stream cannot be courting already, as it is only handed over now
    rw [hp] at hnc
    cases hnc
  · -- it is open on its own stream, and the far one is refused
    exact ⟨_, h.refuses hd hcall hnc hp ht m, by simp [hp]⟩

/-! ### The stream that was dialed -/

lemma reads (h : d.Keeps s stage) {side : Side} {link : Link} {q : Party}
    {m : Message} {rest : List Message} (hd : d.Fair) (hk : (s.conn p).link? side = some link)
    (hs : link.stream = d.stream q) (hm : (s.wire q).toward p = m :: rest) :
    q = p ∧ side = .initiator ∧ d.IsCea p.other m ∧ d.wins p = false ∧
      (stage p).settled = false ∧ (stage p.other).settled := by
  rcases Party.eq_or_eq_other p q with rfl | rfl
  · have hc := (h.sound q).cea
    rw [hm] at hc
    obtain ⟨hb, hcea, -⟩ := hc.of_cons
    simp only [Bool.and_eq_true, Bool.not_eq_true'] at hb
    cases side with
    | initiator => exact ⟨rfl, rfl, hcea, hb.1.1, hb.1.2, hb.2⟩
    | responder =>
      have := ((h.stands q).responder hk).1
      exact absurd (this.symm.trans hs) (hd.stream_ne q)
  · exfalso
    cases side with
    | initiator => exact hd.stream_ne p (hs.symm.trans ((h.stands p).initiator hk).1)
    | responder =>
      have := ((h.stands p).responder hk).2
      simp [h.not_courted (h.calls hm).2.1] at this

lemma opens (hd : d.Fair) (h : d.Keeps s stage) (hw : d.wins p = false)
    (hset : (stage p.other).settled) (hl : d.Lands p a out t) (hcall : a.called = (stage p).called)
    (hco : a.courted = false) (has : a.settled)
    (hwr : ∀ expected n, (a.shape expected n).writing = none)
    (hout : out.any (Effect.closes (d.stream p)) = false) :
    d.Keeps (d.after s p (Function.update s.wire p ((s.wire p).take p)) t)
      (Function.update stage p a) := by
  have hwo : d.wins p.other := by rw [hd.wins_other, hw]; rfl
  have hfar : d.Sound p.other (stage p.other) a (s.wire p.other) :=
    (h.sound_other p).far_yields hwo (by simpa using hw) (by simp [hco])
  refine h.after hl.stands ?_ ?_
  · rw [hl.silent hwr hout]
    simpa using (h.sound p).own_opens hset hcall has hw
  · by_cases hc : out.any (Effect.closes (d.stream p.other))
    · rw [hl.leaves hwr hc]
      simpa using hfar.far_leaves hwo hset
    · rw [hl.silent hwr (by simpa using hc)]
      simpa using hfar

lemma received (hd : d.Fair) (h : d.Keeps s stage) {side : Side} {link : Link} {q : Party}
    {cea : Message} {rest : List Message} (hk : (s.conn p).link? side = some link)
    (hs : link.stream = d.stream q) (hm : (s.wire q).toward p = cea :: rest)
    (ht : (s.conn p).Takes (.event (.received link.id cea))) (m : Moment) :
    ∃ a, d.Keeps (d.after s p (Function.update s.wire q ((s.wire q).take p))
        (d.turn s p m (.event (.received link.id cea)))) (Function.update stage p a) ∧
      a.distance < (stage p).distance := by
  have hst := h.stands p
  obtain ⟨rfl, rfl, hcea, hw, hns, hset⟩ := h.reads hd hk hs hm
  obtain ⟨n, hc, -⟩ := h.stands q
  have hi : ((stage q).shape (some (d.host q.other)) n).initiator = some link :=
    (congrArg Shape.initiator hc).symm.trans hk
  rcases hst.ready ht (by simp) (by simp) with ⟨rival, hp⟩ | ⟨i, hp⟩ | ⟨i, x, hp⟩ |
    ⟨side, k, peer, hp⟩
  · -- without a stream of its own, it reads none
    rw [hp] at hi
    cases hi
  · -- the CEA answers the only stream there is
    rw [hp] at hi hst
    obtain rfl : i = link := Option.some.inj hi
    obtain ⟨peer, hl⟩ := hst.confirmed hd hw hcea ht m
    exact ⟨_, h.opens hd hw hset hl (by rw [hp]; rfl) rfl rfl (fun _ _ => rfl) rfl,
      by simp [hp, Stage.distance]⟩
  · -- the CEA settles the election against the far stream
    rw [hp] at hi hst
    obtain rfl : i = link := Option.some.inj hi
    obtain ⟨peer, hl⟩ := hst.prevails hd hcea ht m
    obtain ⟨k, -, -, -, -, hx, -⟩ := hst
    refine ⟨_, h.opens hd hw hset hl (by rw [hp]; rfl) rfl rfl (fun _ _ => rfl) ?_, ?_⟩
    · simp [Effect.closes, hx.stream, hd.stream_ne]
    · simp [hp, Stage.distance]
  · -- it is open already, and reads no CEA
    rw [hp] at hns
    cases hns

lemma forsaken (hd : d.Fair) (h : d.Keeps s stage) (hn : d.wins p = false)
    (hset : (stage p.other).settled) {i : Link} {x : Rival} (hp : stage p = .electing i x false)
    {f : Failure} (ht : (s.conn p).Takes (.event (.disconnected x.link.id f))) (m : Moment) :
    d.Keeps (d.after s p s.wire (d.turn s p m (.event (.disconnected x.link.id f))))
      (Function.update stage p (.introduced i)) := by
  have hst := h.stands p
  rw [hp] at hst
  have hw : d.wins p.other := by rw [hd.wins_other, hn]; rfl
  have hl := hst.forsaken ht m
  obtain ⟨k, -, -, -, -, hx, -⟩ := hst
  have hout : ([.hangUp x.link, .showPhase .waitICea] : List Effect).any
      (Effect.closes (d.stream p)) = false := by simp [Effect.closes, hx.stream, hd.stream_ne]
  refine h.after hl.stands ?_ ?_
  · rw [hl.silent (fun _ _ => rfl) hout]
    exact (h.sound p).own_same (by rw [hp]; rfl) (by rw [hp]; rfl)
  · rw [hl.leaves (fun _ _ => rfl) (by simp [Effect.closes, hx.stream])]
    simpa using ((h.sound_other p).far_yields hw (by simpa using hn)
      (by simp [Stage.courted, Stage.rival?])).far_leaves hw hset

lemma ended (hd : d.Fair) (h : d.Keeps s stage) {side : Side} {link : Link} {q : Party}
    {f : Failure} (hk : (s.conn p).link? side = some link) (hs : link.stream = d.stream q)
    (hg : (s.wire q).left p.other) (ht : (s.conn p).Takes (.event (.disconnected link.id f)))
    (m : Moment) :
    ∃ a, d.Keeps (d.after s p s.wire (d.turn s p m (.event (.disconnected link.id f))))
      (Function.update stage p a) ∧ a.distance < (stage p).distance := by
  have hst := h.stands p
  obtain ⟨hw, hset⟩ := (h.sound q).left _ hg
  cases side with
  | initiator =>
    -- it is the winner's stream that was dropped, and the winner no longer has it
    obtain ⟨hi, hns⟩ := hst.initiator hk
    rcases Party.eq_or_eq_other p q with rfl | rfl
    · simp [hns hw] at hset
    · exact absurd (hs.symm.trans hi) (hd.stream_ne p)
  | responder =>
    obtain ⟨hr, hco⟩ := hst.responder hk
    obtain rfl : q = p.other := by
      rcases Party.eq_or_eq_other p q with rfl | rfl
      · exact absurd (hr.symm.trans hs) (hd.stream_ne q)
      · rfl
    have hn : d.wins p = false := by simpa [hd.wins_other] using hw
    obtain ⟨n, hc, ha⟩ := h.stands p
    have hi : ((stage p).shape (some (d.host p.other)) n).responder = some link :=
      (congrArg Shape.responder hc).symm.trans hk
    rcases hst.ready ht (by simp) (by simp) with ⟨rival, hp⟩ | ⟨i, hp⟩ | ⟨i, x, hp⟩ |
      ⟨side, k, peer, hp⟩
    · -- the winner has taken the CER of this end, which has not even dialed
      have hcall := (h.sound p).called
        ((h.sound p).handed ((h.stands p.other).courted_of_wins hw hset))
      rw [hp] at hcall
      cases hcall
    · -- it has no far stream yet
      rw [hp] at hco
      cases hco
    · -- the rival's stream is the one that ended
      rw [hp] at hi
      obtain rfl : x.link = link := Option.some.inj hi
      exact ⟨_, h.forsaken hd hn hset hp ht m, by simp [hp, Stage.distance]⟩
    · -- the loser is open on the far stream only if it has won
      rw [hp] at ha hco
      obtain ⟨-, -, ha⟩ := ha
      rw [if_neg (by simp [hn])] at ha
      simp [Stage.courted, ha.1] at hco

lemma stray (h : d.Keeps s stage) {link : Nat} (he : e.isNewsOf link)
    (hl : (s.conn p).sideOf? link = none) (ht : (s.conn p).Takes (.event e)) (m : Moment) :
    d.Keeps (d.after s p s.wire (d.turn s p m (.event e)))
      (Function.update stage p (stage p)) := by
  obtain ⟨hst, hf, hw⟩ := (h.stands p).strays he hl ht m
  have hsame : ∀ (w : Wire) (stream : Nat),
      w.after p stream (d.turn s p m (.event e)) = w := fun w stream =>
    Wire.after_of_silent (by simp [Turn.writes?, hw]) (by simp [Turn.closes, hf])
  refine h.after hst ?_ ?_
  · rw [hsame]; exact h.sound p
  · rw [hsame]; exact h.sound_other p

/-- Whatever an end takes, both stay in stages that fit together, and less is left to do. -/
lemma take (hd : d.Fair) (h : d.Keeps s stage) (hs : d.Take s s') :
    ∃ stage', d.Keeps s' stage' ∧ remaining s' stage' < remaining s stage := by
  obtain @⟨p, i, wire, ho, ht, m⟩ := hs
  have left : ∀ a : Stage,
      remaining (d.after s p wire (d.turn s p m i)) (Function.update stage p a) =
        a.distance + (stage p.other).distance + (wire p).due + (wire p.other).due := by
    intro a
    rw [remaining_eq p]
    simp only [Duel.after, Wire.due_after, Function.update_self,
      Function.update_of_ne (Party.other_ne p)]
  -- unless a CER is handed over the end comes closer to being open
  have next : (∀ q, (wire q).due = (s.wire q).due) →
      (∃ a, d.Keeps (d.after s p wire (d.turn s p m i)) (Function.update stage p a) ∧
        a.distance < (stage p).distance) →
      ∃ stage', d.Keeps (d.after s p wire (d.turn s p m i)) stage' ∧
        remaining (d.after s p wire (d.turn s p m i)) stage' < remaining s stage := by
    rintro hdue ⟨a, hk, hlt⟩
    refine ⟨_, hk, ?_⟩
    rw [left, remaining_eq p, hdue, hdue]
    omega
  cases ho with
  | internal he => exact next (fun _ => rfl) (h.internal hd he ht m)
  | written hw => exact next (fun _ => rfl) (h.written hw m)
  | dialed hc => exact next (fun _ => rfl) (h.dialed hd hc ht m)
  | handed hn hm =>
    obtain ⟨a, hk, hle⟩ := h.handed hd hn hm ht m
    refine ⟨_, hk, ?_⟩
    have hdue : (s.wire p.other).due = 2 := by simp [Wire.due, hn]
    rw [left, remaining_eq p, Function.update_self, Function.update_of_ne (Party.ne_other p),
      Wire.due_hand, hdue]
    omega
  | @received side link q k rest hk hs hm =>
    refine next (fun r => ?_) (h.received hd hk hs hm ht m)
    by_cases hr : r = q
    · rw [hr, Function.update_self, Wire.due_take]
    · rw [Function.update_of_ne hr]
  | ended hk hs _ hg => exact next (fun _ => rfl) (h.ended hd hk hs hg ht m)

lemma step (hd : d.Fair) (h : d.Keeps s stage) (hs : d.Step s s') :
    ∃ stage', d.Keeps s' stage' := by
  cases hs with
  | take hs =>
    obtain ⟨stage', hk, -⟩ := h.take hd hs
    exact ⟨stage', hk⟩
  | stray he hl ht m => exact ⟨_, h.stray he hl ht m⟩

/-! ### When nothing is left to take -/

/-- Then each end waits for the other, or is open. -/
lemma waits_of_quiet (h : d.Keeps s stage) (hq : d.Quiet s) (p : Party) :
    (∃ i, stage p = .introduced i) ∨ (∃ i x, stage p = .electing i x false) ∨
      ∃ side link peer, stage p = .running false side link peer none := by
  have hst := h.stands p
  obtain ⟨n, hc, ha⟩ := h.stands p
  have hi : (s.conn p).internal = _ := congrArg Shape.internal hc
  have hw : (s.conn p).writing = _ := congrArg Shape.writing hc
  have hd : (s.conn p).dialing = _ := congrArg Shape.dialing hc
  have hint : (s.conn p).internal = [] := List.eq_nil_iff_forall_not_mem.mpr fun e he =>
    hq p _ _ (.internal he) (hst.takes_internal he)
  have hwr : (s.conn p).writing = none := by
    by_contra hn
    obtain ⟨x, hx⟩ := Option.ne_none_iff_exists'.mp hn
    exact hq p _ _ (.written (by simp [hx])) (.written hx none)
  cases hp : stage p with
  | dialing rival =>
    rw [hp] at hst hd
    refine absurd (hst.takes ?_ (fun _ _ => rfl) (fun _ _ => rfl) _) (hq p _ _ (.dialed hd))
    cases rival <;> simp [Stage.phase]
  | introduced i => exact .inl ⟨i, rfl⟩
  | electing i x called =>
    cases called with
    | false => exact .inr (.inl ⟨i, x, rfl⟩)
    | true =>
      rw [hp, hint] at hi
      cases hi
  | running closing side link peer w =>
    rw [hp] at ha
    obtain ⟨rfl, rfl, -⟩ := ha
    exact .inr (.inr ⟨side, link, peer, rfl⟩)
  | closed first =>
    rw [hp, hint] at hi
    cases hi
  | introducing | accepting =>
    rw [hp, hwr] at hw
    cases hw
  | turningAway | awaitingCer | rejecting | shut =>
    rw [hp] at ha
    cases ha

lemma takes_of_quiet (h : d.Keeps s stage) (hq : d.Quiet s) (p : Party) (e : Event) :
    (s.conn p).Takes (.event e) := by
  have hst := h.stands p
  rcases h.waits_of_quiet hq p with ⟨i, hp⟩ | ⟨i, x, hp⟩ | ⟨side, link, peer, hp⟩
  · rw [hp] at hst
    exact hst.takes (by simp [Stage.phase]) (fun _ _ => rfl) (fun _ _ => rfl) e
  · rw [hp] at hst
    exact hst.takes (by simp [Stage.phase]) (fun _ _ => rfl) (fun _ _ => rfl) e
  · rw [hp] at hst
    refine hst.takes ?_ ?_ ?_ e <;> cases side <;> simp [Stage.phase, Stage.shape]

lemma handed_of_quiet (h : d.Keeps s stage) (hq : d.Quiet s) (p : Party) :
    (s.wire p).handed := by
  by_contra hn
  have hcall : (stage p).called := by
    rcases h.waits_of_quiet hq p with ⟨i, hp⟩ | ⟨i, x, hp⟩ | ⟨side, link, peer, hp⟩ <;> rw [hp] <;>
      rfl
  have hc := (h.sound p).cer
  rw [hcall, Bool.eq_false_of_not_eq_true hn] at hc
  obtain ⟨cer, -, hm⟩ := hc
  exact hq p.other _ _ (.handed (by simpa using hn) (by simpa using hm))
    (h.takes_of_quiet hq p.other _)

lemma opened_of_quiet (hd : d.Fair) (h : d.Keeps s stage) (hq : d.Quiet s)
    (hw : d.wins p = false) :
    (∃ side link peer, stage p = .running false side link peer none) ∧
      ∃ side link peer, stage p.other = .running false side link peer none := by
  have hwo : d.wins p.other := by rw [hd.wins_other, hw]; rfl
  have hfar : ∃ side link peer, stage p.other = .running false side link peer none := by
    have hco := (h.sound p).courted hwo (h.handed_of_quiet hq p)
    -- it cannot wait for the CEA, as it has taken the far CER
    rcases h.waits_of_quiet hq p.other with ⟨i, hp⟩ | ⟨i, x, hp⟩ | hp
    · rw [hp] at hco
      cases hco
    · -- the winner does not wait for a CEA
      obtain ⟨n, -, ha⟩ := h.stands p.other
      rw [hp] at ha
      exact absurd (ha.1.trans hwo) (by decide)
    · exact hp
  refine ⟨?_, hfar⟩
  obtain ⟨side, link, peer, hp⟩ := hfar
  have hread : ∀ {i : Link}, (s.conn p).initiator = some i → (stage p).settled := by
    intro i hi
    by_contra hn
    have hc := (h.sound p).cea
    rw [hw, Bool.eq_false_of_not_eq_true hn, hp] at hc
    obtain ⟨cea, -, hm⟩ := hc
    have hl : (s.conn p).link? .initiator = some i := hi
    exact hq p _ _ (.received hl ((h.stands p).initiator hi).1 hm) (h.takes_of_quiet hq p _)
  obtain ⟨n, hc, -⟩ := h.stands p
  have hi : (s.conn p).initiator = _ := congrArg Shape.initiator hc
  -- nor does the loser wait: the winner's CEA would be there to be read
  rcases h.waits_of_quiet hq p with ⟨i, hp⟩ | ⟨i, x, hp⟩ | hp
  · rw [hp] at hi hread
    cases hread hi
  · rw [hp] at hi hread
    cases hread hi
  · exact hp

end Keeps

namespace Reached

lemma keeps (hd : d.Fair) (h : d.Reached s) : ∃ stage, d.Keeps s stage := by
  induction h with
  | start => exact ⟨_, .start d⟩
  | step _ hs ih =>
    obtain ⟨stage, h⟩ := ih
    exact h.step hd hs

lemma acc (hd : d.Fair) (h : d.Reached s) : Acc (fun s' s => d.Take s s') s := by
  obtain ⟨stage, hk⟩ := h.keeps hd
  generalize hn : remaining s stage = n
  clear h
  induction n using Nat.strong_induction_on generalizing s stage with
  | _ n ih =>
    refine ⟨_, fun s' hs => ?_⟩
    obtain ⟨stage', hk', hlt⟩ := hk.take hd hs
    exact ih _ (hn ▸ hlt) stage' hk' rfl

/-- **No duel goes on forever.** From every state the ends come to one that is quiet. -/
theorem settles (hd : d.Fair) (h : d.Reached s) :
    ∃ s', Relation.ReflTransGen d.Take s s' ∧ d.Quiet s' := by
  have hacc := h.acc hd
  induction hacc with
  | intro s _ ih =>
    by_cases hq : d.Quiet s
    · exact ⟨s, .refl, hq⟩
    · simp only [Quiet, not_forall, not_not] at hq
      obtain ⟨p, i, wire, ho, ht⟩ := hq
      have hs : d.Take s (d.after s p wire (d.turn s p ⟨0, 0, {}⟩ i)) := .take ho ht _
      obtain ⟨s', hr, hq⟩ := ih _ hs (h.step (.take hs))
      exact ⟨s', .head hs hr, hq⟩

/-- **Two ends that dial each other agree.** In whatever order dials succeed, streams are handed
over, messages arrive and dropped streams are noticed: the two are never open on different
streams, neither is shut down, and once nothing is left to take both are open on the stream that
the end with the lower host has dialed. -/
theorem agreement (hd : d.Fair) (h : d.Reached s) :
    (∀ p q, (s.conn p).phase.isOpen → (s.conn q).phase.isOpen →
      ∃ k l, (s.conn p).activeLink? = some k ∧ (s.conn q).activeLink? = some l ∧
        k.stream = l.stream) ∧
    (∀ p, (s.conn p).phase ≠ .shutdown) ∧
    (d.Quiet s → ∀ p, Identity.lower (d.host p) < Identity.lower (d.host p.other) →
      (s.conn p).phase = .iOpen ∧ (s.conn p.other).phase = .rOpen ∧
      ∃ k l, (s.conn p).activeLink? = some k ∧ (s.conn p.other).activeLink? = some l ∧
        k.stream = d.stream p ∧ l.stream = d.stream p) := by
  obtain ⟨stage, hk⟩ := h.keeps hd
  refine ⟨?_, fun p => (hk.stands p).phase.1, ?_⟩
  · -- both are open on the stream that was chosen
    intro p q hp hq
    obtain ⟨k, hk₁, hs₁⟩ := (hk.stands p).phase.2 hp
    obtain ⟨l, hk₂, hs₂⟩ := (hk.stands q).phase.2 hq
    refine ⟨k, l, hk₁, hk₂, ?_⟩
    rcases Party.eq_or_eq_other p q with rfl | rfl
    · rw [hs₁, hs₂]
    · rw [hs₁, hs₂, hd.chosen_other]
  · -- at rest, the party with the lower identity has lost
    intro hq p hlt
    have hw : d.wins p = false := decide_eq_false (String.lt_asymm hlt)
    obtain ⟨⟨side, k, peer, hp⟩, side', l, peer', ho⟩ := hk.opened_of_quiet hd hq hw
    obtain ⟨hp₁, hl₁, hs₁⟩ := (hp ▸ hk.stands p).opened
    obtain ⟨hp₂, hl₂, hs₂⟩ := (ho ▸ hk.stands p.other).opened
    have hc : d.chosen p = d.stream p := by simp [chosen, hw]
    rw [hd.chosen_other] at hs₂
    refine ⟨?_, ?_, k, l, hl₁, hl₂, hs₁.trans hc, hs₂.trans hc⟩
    · simp [hp₁, hw]
    · simp [hp₂, hd.wins_other, hw]

end Reached

/-- Two nodes that differ in their hosts. -/
def plain : Duel where
  site
    | .one => ⟨Node.plain "a", {}⟩
    | .two => ⟨Node.plain "b", {}⟩
  stream
    | .one => 1
    | .two => 2

lemma fair_plain : plain.Fair where
  valid p := by cases p <;> exact ⟨by decide +kernel, by decide +kernel, by decide +kernel⟩
  hosts := by decide +kernel
  negotiates := ⟨[.auth 4], by decide +kernel⟩
  streams := by decide
  cer p ids := by cases p <;> rfl
  cea p cer := by cases p <;> rfl

/-- Both ends dial, each is handed the CER of the other, the second drops its stream and answers,
and the first reads the answer. -/
def crossing : List (Party × Choice) :=
  [(.one, .internal), (.two, .internal), (.one, .dialed), (.two, .dialed), (.one, .written),
    (.two, .written), (.one, .handed), (.two, .handed), (.two, .internal), (.two, .written),
    (.one, .received .initiator .one)]

/-- With that nothing is left to take, and the first end is open on the stream that it dialed. -/
theorem agreement_crossing :
    ∃ s, plain.play plain.start crossing = some s ∧ plain.Fair ∧ plain.Reached s ∧ plain.Quiet s ∧
      Identity.lower (plain.host .one) < Identity.lower (plain.host .two) ∧
      (s.conn .one).phase = .iOpen ∧ (s.conn .two).phase = .rOpen ∧
      ∃ k l, (s.conn .one).activeLink? = some k ∧ (s.conn .two).activeLink? = some l ∧
        k.stream = 1 ∧ l.stream = 1 := by
  have hs : (plain.play plain.start crossing).isSome := by decide +kernel
  have hq : plain.Quiet ((plain.play plain.start crossing).get hs) := by
    refine quiet_of_pick fun p k => Option.isNone_iff_eq_none.mp ?_
    rcases k with _ | _ | _ | _ | ⟨_ | _, _ | _⟩ | ⟨_ | _, _ | _⟩ <;> cases p <;>
      decide +kernel +revert
  have hr : plain.Reached ((plain.play plain.start crossing).get hs) :=
    Reached.start.play (Option.some_get hs).symm
  have hlt : Identity.lower (plain.host .one) < Identity.lower (plain.host .two) := by
    decide +kernel
  exact ⟨_, (Option.some_get hs).symm, fair_plain, hr, hq, hlt,
    (hr.agreement fair_plain).2.2 hq .one hlt⟩

end Duel

end Diameter
