import Diameter.Proofs.Links
import Diameter.Proofs.Tells

/-!
What a connection reports as having no place in its phase.

A turn is civil if it blames nobody but the peer. It remains so when an event is handled in a phase
it is meant for. In a run whose surroundings behave no event comes in another. Main statement:
`Connection.Run.fitsPhase`.
-/

namespace Diameter

/-- Not about a phase, or about a mistake of the peer. -/
def Failure.IsCivil : Failure → Prop
  | .notAcceptable _ event => event ∈ peerMistakes
  | _ => True

/-- Nothing but a mistake of the peer is reported to have no place in a phase. -/
def Effect.IsCivil : Effect → Prop
  | .note (.failure _ e) => e.IsCivil
  | _ => True

/-- What is reported once a message is written is civil. -/
def Goal.IsCivil : Goal → Prop
  | .reject e | .turnAway _ e | .complain e => e.IsCivil
  | _ => True

lemma Failure.IsForeign.isCivil {e : Failure} (h : e.IsForeign) : e.IsCivil := by
  cases e <;> first | exact trivial | exact h.elim

lemma Turn.spans_isCivil : Spans Failure.IsCivil where
  remote h := h.isForeign.isCivil
  mistake _ _ h := h

namespace Turn

/-- The turn blames nobody but the peer, and neither will the end of a write. -/
structure Civil (t : Turn) : Prop where
  effects : ∀ e ∈ t.effects, e.IsCivil
  writing : ∀ w, t.conn.writing = some w → w.goal.IsCivil

variable {site : Site} {t u : Turn}

lemma civil_iff : t.Civil ↔ t.Tells Failure.IsCivil := by
  have effect : ∀ e : Effect, e.IsCivil ↔ e.Tells Failure.IsCivil := by
    intro e
    cases e with
    | note n => cases n <;> exact Iff.rfl
    | _ => exact Iff.rfl
  have goal : ∀ g : Goal, g.IsCivil ↔ g.Tells Failure.IsCivil := by
    intro g
    cases g <;> exact Iff.rfl
  constructor
  · exact fun h => ⟨fun e he => (effect e).mp (h.effects e he),
      fun w hw => (goal _).mp (h.writing w hw)⟩
  · exact fun h => ⟨fun e he => (effect e).mpr (h.effects e he),
      fun w hw => (goal _).mpr (h.writing w hw)⟩

namespace Civil

lemma handle (h : t.Civil) {e : Event} (he : e.Suits t.conn.phase) : (t.handle site e).Civil := by
  refine civil_iff.mpr ((civil_iff.mp h).handle spans_isCivil (.inl he) ?_ (.inl fun _ => trivial))
  intro f hf
  exact (he.isForeign hf).isCivil

lemma settle (h : t.Civil) {g : Goal} (hg : g.IsCivil) (m : Message) {result : Option Failure}
    (hr : ∀ e, result = some e → e.IsForeign) : (t.settle site g m result).Civil := by
  have hg : g.Tells Failure.IsCivil := by cases g <;> exact hg
  exact civil_iff.mpr ((civil_iff.mp h).settle hg m fun e he => (hr e he).isCivil)

end Civil

end Turn

/-! ### Runs -/

variable {site : Site} {expected : Option String} {first : Event} {bs : List Beat} {b : Beat}
  {c : Connection} {n : Nat} {s : Stage}

lemma Course.suits (h : Course site expected first bs n s) (hp : Public site bs)
    (hf : first.IsOpening) (hs : s.phase ≠ .shutdown) {e : Event} (he : e.MayCome site bs) :
    e.Suits s.phase := by
  have hd := h.countP_dial hp hf hs
  have dialing : bs.countP (·.input.isReport) < (Beat.effectsOf site bs).countP Effect.isDial →
      s.phase = .waitConnAck ∨ s.phase = .waitConnAckElect := by
    intro hlt
    have hdl : s.isDialing := by
      by_contra hn
      simp only [Bool.not_eq_true] at hn
      rw [hd, hn] at hlt
      exact absurd hlt (Nat.lt_irrefl _)
    rcases s with _ | ⟨_ | _⟩ | _ | _ | ⟨_ | _⟩ | _ | _ | _ | _ | _ | _ <;>
      simp_all [Stage.isDialing, Stage.phase]
  cases e with
  | start | accepted | wonElection => exact he.elim
  | dialed | dialFailed => exact dialing he
  | receivedInvalid | disconnected => exact he
  | _ => trivial

lemma Course.suits_event (h : Course site expected first bs n s) (hp : Public site (bs ++ [b]))
    (hf : first.IsOpening) (hc : b.conn.shape = s.shape expected n) (ht : b.conn.Takes b.input)
    {e : Event} (he : b.input = .event e) : e.Suits b.conn.phase := by
  have hph : b.conn.phase = s.phase := Stage.phase_of_shape hc
  rw [hph]
  rcases hp.last.event ht hc (h.sound hf) he with ⟨rfl, ho⟩ | ⟨i, x, rfl, rfl⟩ | hm
  · cases e <;> first | exact ho.elim | exact rfl | trivial
  · exact rfl
  · refine h.suits hp.init hf ?_ hm
    rw [← hph]
    rw [he] at ht
    cases ht with
    | internal ha | queued ha => exact ha.1

lemma Course.civil (h : Course site expected first bs n s) (hp : Public site bs)
    (hf : first.IsOpening) :
    (∀ e ∈ Beat.effectsOf site bs, e.IsCivil) ∧
      ∀ w, (s.shape expected n).writing = some w → w.goal.IsCivil := by
  induction h with
  | nil => exact ⟨by simp, by simp [Stage.shape]⟩
  | @turn bs n s b n' s' h hc ht hn hs' ih =>
    obtain ⟨hes, hw⟩ := ih hp.init
    have hbw : b.conn.writing = (s.shape expected n).writing := congrArg Shape.writing hc
    have hcp : b.begun.conn.phase = b.conn.phase :=
      congrArg Shape.phase (b.conn.shape_without b.input)
    have hcivil : b.begun.Civil :=
      ⟨by simp [Beat.begun], fun w hx => hw w (by rw [← hbw, ← b.writing_begun]; exact hx)⟩
    have hturn : (b.turn site).Civil := by
      cases hi : b.input with
      | event e =>
        rw [Beat.turn_event hi]
        exact hcivil.handle (hcp ▸ h.suits_event hp hf hc ht hi)
      | written result =>
        have hpub := hp.last
        rw [Beat.IsPublic, hi] at hpub
        rw [hi] at ht
        cases ht with
        | @written w hx _ =>
          have hg := hcivil.writing w (b.writing_begun.trans hx)
          have hn : ({ b.begun with conn.writing := none } : Turn).Civil :=
            ⟨hcivil.effects, by simp⟩
          rw [Beat.turn_written hi hx]
          exact hn.settle hg _ hpub
    constructor
    · intro e he
      rw [Beat.effectsOf_append, Beat.effectsOf_singleton, List.mem_append] at he
      exact he.elim (hes e) (hturn.effects e)
    · intro w hx
      exact hturn.writing w (by rw [← hx, ← hs']; rfl)

/-- What holds of streams, dial and phases of a connection, and of the turns that led to it. -/
structure FitsPhase (site : Site) (bs : List Beat) (c : Connection) : Prop where
  /-- Between two events a connection has the streams, the dial and the CEA that belong to its
  phase. -/
  fits : c.writing = none → c.shape.Fits
  /-- Each phase is followed by one that it leads to. -/
  chain : List.IsChain (fun p q => q ∈ Phase.next p)
    (.closed :: (Beat.effectsOf site bs).filterMap Effect.phase?)
  /-- The phase shown last is that of the connection. -/
  last : (Phase.closed :: (Beat.effectsOf site bs).filterMap Effect.phase?).getLast? = some c.phase
  /-- A connection waits for a dial exactly if one was begun and has not been reported. -/
  dialing : Public site bs → c.phase ≠ .shutdown → (Beat.effectsOf site bs).countP Effect.isDial =
    bs.countP (·.input.isReport) + c.dialing.toNat
  /-- Only what the peer sends is ever reported to have no place in a phase. -/
  acceptable : Public site bs → ∀ peer p event,
    .note (.failure peer (.notAcceptable p event)) ∈ Beat.effectsOf site bs → event ∈ peerMistakes

/-- **A connection has the streams that belong to its phase.** -/
theorem Connection.Run.fitsPhase (h : Run site (fresh expected first) bs c)
    (hf : first.IsOpening) : FitsPhase site bs c := by
  obtain ⟨n, s, hs, hc⟩ := h.course hf
  obtain ⟨hl, hv⟩ := hs.lawful hf
  have hph : c.phase = s.phase := (congrArg Shape.phase hc).trans (Stage.phase_shape _ _ _)
  have hw : c.writing = (s.shape expected n).writing := congrArg Shape.writing hc
  have hd : c.dialing = s.isDialing := (congrArg Shape.dialing hc).trans (Stage.dialing_shape _ _ _)
  exact
    { fits := fun hn => hc ▸ Stage.fits (hw ▸ hn)
      chain := hl.isChain.1
      last := by
        rw [hph]
        exact hl.isChain.2.trans (by rw [hv]; rfl)
      dialing := by
        intro hp hn
        rw [hd]
        exact hs.countP_dial hp hf (hph ▸ hn)
      acceptable := fun hp peer p event hm => (hs.civil hp hf).1 _ hm }

namespace Connection

/-- Three turns: a dial is begun, it succeeds, and the CER is written. -/
def dialingRun (site : Site) (stream : Nat) : List Beat :=
  let start := opening .start
  let dialed := (start.turn site).conn.beat (.event (.dialed stream))
  [start, dialed, (dialed.turn site).conn.beat (.written none)]

/-- A connection that has dialed waits for the CEA on the stream that it dialed. -/
theorem fitsPhase_dialingRun :
    let site : Site := ⟨Node.plain "a", {}⟩
    ∃ c, Run site (fresh none .start) (dialingRun site 0) c ∧ Public site (dialingRun site 0) ∧
      FitsPhase site (dialingRun site 0) c ∧ c.writing = none ∧ c.shape.Fits ∧
      c.phase = .waitICea ∧ c.initiator.isSome := by
  intro site
  let start := opening .start
  let dialed := (start.turn site).conn.beat (.event (.dialed 0))
  let written := (dialed.turn site).conn.beat (.written none)
  -- the dial is begun, succeeds, and the request is written to its end
  have h : Run site (fresh none .start) ([start] ++ [dialed] ++ [written])
      (written.turn site).conn :=
    ((run_opening site .start).beat (by decide +kernel)).beat (by decide +kernel)
  have hp : Public site ([start] ++ [dialed] ++ [written]) := by
    refine Public.concat (Public.concat (Public.concat (Public.nil) fun hn => ?_) fun _ => ?_) ?_
    · -- the dial is what the connection is begun with
      exact absurd hn (by decide)
    · -- one dial has been begun, and none has been reported
      show List.countP _ _ < List.countP _ _
      decide +kernel
    · exact fun e he => absurd he (by simp)
  have hw : (written.turn site).conn.writing = none := by
    rw [← Option.isNone_iff_eq_none]
    decide +kernel
  have hf := h.fitsPhase trivial
  exact ⟨_, h, hp, hf, hw, hf.fits hw, by decide +kernel, by decide +kernel⟩

end Connection

end Diameter
