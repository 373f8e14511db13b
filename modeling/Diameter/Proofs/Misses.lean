import Mathlib.Data.List.DropRight
import Diameter.Proofs.Run
import Diameter.Proofs.Tells

/-!
The count of watchdog requests in a row that stayed unanswered is exact.

Each turn of a run sets the count back, adds one to it, or leaves it alone (`Beat.Tally`). The
connection gives up exactly when the count comes to what the settings tolerate. An answer that is
turned down for its flags or for its origin does not set the count back, even if it has the
identifier of the request (`Connection.miscounts_answersTurnedDown`). Main statement:
`Connection.Run.countsMisses`.
-/

namespace Diameter

/-- Watchdog requests in a row that may stay unanswered, the last of them at the cost of the
connection. -/
def PeerSettings.missLimit (s : PeerSettings) : Nat := max 1 s.watchdogLimit.toNat

/-- The watchdog requests that count are the same, and the connection has not been opened. -/
structure Duty.Spares (d d' : Duty) : Prop where
  outstanding : d'.outstanding = d.outstanding
  failures : d'.failures = d.failures
  phase : d'.phase.isOpen → d.phase.isOpen

namespace Duty

variable {d d' d'' : Duty}

lemma Spares.refl : d.Spares d := ⟨rfl, rfl, id⟩

lemma Spares.trans (h : d.Spares d') (h' : d'.Spares d'') : d.Spares d'' where
  outstanding := h'.outstanding.trans h.outstanding
  failures := h'.failures.trans h.failures
  phase ho := h.phase (h'.phase ho)

lemma Rests.spares (h : d.Rests d') : d.Spares d' where
  outstanding := h.outstanding
  failures := h.failures
  phase ho := by
    have hn : ∀ {p : Phase}, p.isOpen → p.isRunning = false → d.phase.isOpen := by
      intro p hp hr
      simp [Phase.isRunning, hp] at hr
    cases h with
    | kept hp _ => exact hp.elim (fun he => he ▸ ho) (hn ho)
    | ended hp _ _ => exact hn ho hp

end Duty

namespace Turn

variable {site : Site} {A : Failure → Prop} {t u : Turn} {e : Event}

/-- The message is the answer to the watchdog request that is unanswered: it is in order, from the
bound peer, and on the stream that carries traffic. -/
def reassures (t : Turn) (link : Nat) (m : Message) : Bool :=
  t.conn.activeSide?.isSome && t.conn.sideOf? link = t.conn.activeSide? &&
    m.header.checkFlags.isOk && m.isBaseCommand Command.deviceWatchdog && !m.header.isRequest &&
    (t.stranger? m).isNone && t.conn.outstanding = some m.header.hopByHop

lemma reassures_iff {link : Nat} {m : Message} : t.reassures link m ↔ t.Reassures link m := by
  have hf : m.header.checkFlags.isOk ↔ m.header.checkFlags = .ok () := by
    cases m.header.checkFlags <;> simp [Except.isOk, Except.toBool]
  have hc : m.isBaseCommand Command.deviceWatchdog →
      m.isBaseCommand Command.capabilitiesExchange = false := by
    simp only [Message.isBaseCommand, Bool.and_eq_true, beq_iff_eq]
    rintro ⟨-, h⟩
    simp [h, Command.deviceWatchdog, Command.capabilitiesExchange]
  simp only [reassures, Bool.and_eq_true, decide_eq_true_eq, hf, Option.isNone_iff_eq_none,
    Bool.not_eq_true', and_assoc]
  constructor
  · rintro ⟨ha, hs, hfl, hd, hr, hk, ho⟩
    obtain ⟨side, hside⟩ := Option.isSome_iff_exists.mp ha
    exact ⟨⟨side, hs.trans hside, hside, hfl, hc hd, hk⟩, hd, hr, ho⟩
  · rintro ⟨⟨side, hs, ha, hfl, -, hk⟩, hd, hr, ho⟩
    exact ⟨by simp [ha], hs.trans ha.symm, hfl, hd, hr, hk, ho⟩

lemma handle_of_reassures {link : Nat} {m : Message} (h : t.Reassures link m) :
    t.handle site (.received link m) = t.onDwa site m := by
  obtain ⟨⟨side, ht⟩, hd, hr, ho⟩ := h
  rw [handle_of_trusts ht]
  simp [onPeerMessage, ho, hd, hr]

lemma spares_stir : t.conn.duty.Spares (t.stir site).conn.duty := by
  unfold stir
  split <;> exact ⟨rfl, rfl, id⟩

lemma spares_onAnswer (m : Message) : t.conn.duty.Spares (t.onAnswer m).conn.duty := by
  unfold onAnswer
  split <;> exact ⟨rfl, rfl, id⟩

lemma spares_failExchange (hopByHop : UInt32) (r : ResultCode) :
    t.conn.duty.Spares (t.failExchange site hopByHop r).conn.duty := by
  unfold failExchange
  split <;> exact ⟨rfl, rfl, id⟩

lemma spares_onExchangeTimeout (hopByHop : UInt32) :
    t.conn.duty.Spares (t.onExchangeTimeout site hopByHop).conn.duty := by
  unfold onExchangeTimeout
  split <;> exact ⟨rfl, rfl, id⟩

lemma spares_enter (site : Site) (t : Turn) (waiter : Nat) (request : Message) :
    t.conn.duty.Spares (t.enter site waiter request).conn.duty := by
  rw [duty_enter]
  exact ⟨rfl, rfl, id⟩

/-- A connection that was not open is, and counts from zero. -/
structure Opens (t u : Turn) : Prop where
  before : t.conn.phase.isOpen = false
  after : u.conn.phase.isOpen
  outstanding : u.conn.outstanding = none
  failures : u.conn.failures = 0

lemma opens_openAs (hp : t.conn.phase.isOpen = false)
    (peer : PeerIdentity) {p : Phase} (hq : p.isOpen) : t.Opens (u.openAs site peer p) := by
  obtain ⟨due, serial, hd⟩ := duty_openAs site u peer hq
  have ha : (u.openAs site peer p).conn.phase = p := congrArg Duty.phase hd
  exact ⟨hp, by rw [ha]; exact hq, congrArg Duty.outstanding hd, congrArg Duty.failures hd⟩

/-- Handling an event spares the count, or opens the connection, unless it reassures or a watchdog
request is given up. -/
lemma Upshot.spares (hu : Upshot site A t e u) :
    t.conn.duty.Spares u.conn.duty ∨ t.Opens u ∨
      (∃ link m, e = .received link m ∧ t.Reassures link m) ∨
      ∃ k, e = .watchdogReply k ∧ t.conn.outstanding = some k := by
  cases hu with
  | bypass hB | fallen hB => exact .inl hB.rests.spares
  | stale | refused => exact .inl .refl
  | opened hB ht =>
    refine .inr (.inl (opens_openAs ?_ _ rfl))
    rcases ht.phase with hp | hp <;> simp [hp, Phase.isOpen]
  | heard _ hB => exact .inl (spares_stir.trans hB.rests.spares)
  | dispatched => exact .inl spares_stir
  | reassured h => exact .inr (.inr (.inl ⟨_, _, rfl, h⟩))
  | answered => exact .inl (spares_stir.trans (spares_onAnswer _))
  | failed _ k r _ => exact .inl (spares_failExchange k r)
  | expired k => exact .inl (spares_onExchangeTimeout k)
  | entered j m =>
    have hs := spares_enter site t j m
    exact .inl ⟨hs.outstanding, hs.failures, hs.phase⟩
  | lost j m hf =>
    have hB : Bypass site A (t.enter site j m) ((t.enter site j m).giveUp site _) :=
      Bypass.refl.giveUp hf
    exact .inl ((spares_enter site t j m).trans hB.rests.spares)
  | probing => exact .inl ⟨rfl, rfl, id⟩
  | missed ho => exact .inr (.inr (.inr ⟨_, rfl, ho⟩))

lemma settle_spares {g : Goal} (hg : (∀ peer, g ≠ .accept peer) ∧ ∀ k, g ≠ .probe k) (m : Message) :
    t.conn.duty.Spares (t.settle site g m none).conn.duty := by
  have settled : g.IsSettled → t.conn.duty.Spares (t.settle site g m none).conn.duty := by
    intro hs
    have ha : g.IsAside fun _ => True := by cases g <;> first | exact trivial | exact hs.elim
    have hB : Bypass site (fun _ => True) t (t.settle site g m none) :=
      Bypass.refl.settle ha hs m (by simp)
    exact hB.rests.spares
  cases g with
  | accept peer => exact absurd rfl (hg.1 peer)
  | probe k => exact absurd rfl (hg.2 k)
  | request =>
    unfold settle
    dsimp only
    split <;> exact ⟨rfl, rfl, id⟩
  | disconnect =>
    have hc : t.conn.duty.Spares (t.transition site .closing).conn.duty := by
      by_cases hp : t.conn.phase = .closing
      · rw [transition_of_phase site t hp]
        exact .refl
      · rw [duty_transition_closing site hp]
        exact ⟨rfl, rfl, fun ho => absurd ho Bool.false_ne_true⟩
    exact ⟨hc.outstanding, hc.failures, hc.phase⟩
  | _ => exact settled trivial

end Turn

/-! ### Turns of a run -/

namespace Beat

/-- The turn opens the connection. -/
def opens (site : Site) (b : Beat) : Bool :=
  !b.conn.phase.isOpen && (b.turn site).conn.phase.isOpen

/-- The watchdog request that is unanswered is answered. -/
def reassures (b : Beat) : Bool :=
  match b.input with
  | .event (.received link m) => b.begun.reassures link m
  | _ => false

/-- An answer comes in with the identifier of the watchdog request that is unanswered, on the stream
that carries traffic, whatever its flags are and whoever it says to be from. -/
def echoes (b : Beat) : Bool :=
  match b.input with
  | .event (.received link m) =>
    b.conn.activeSide?.isSome && b.conn.sideOf? link = b.conn.activeSide? &&
      m.isBaseCommand Command.deviceWatchdog && !m.header.isRequest &&
      b.conn.outstanding = some m.header.hopByHop
  | _ => false

/-- The answer to the watchdog request that is unanswered has not come in time. -/
def timesOut (b : Beat) : Bool :=
  match b.input with
  | .event (.watchdogReply hopByHop) => b.conn.outstanding = some hopByHop
  | _ => false

/-- The watchdog request that has been written. -/
def probes (b : Beat) : Option UInt32 :=
  match b.input with
  | .written none => b.conn.probe?
  | _ => none

/-- The turn sets the count back. -/
def resets (site : Site) (b : Beat) : Bool := b.opens site || b.reassures

/-- Watchdog requests given up since the last turn of a kind. -/
def missesSince (p : Beat → Bool) (bs : List Beat) : Nat :=
  (bs.rtakeWhile fun b => !p b).countP timesOut

/-- Watchdog requests given up since the connection was opened or the last one was answered. -/
def misses (site : Site) (bs : List Beat) : Nat := missesSince (resets site) bs

variable {site : Site} {bs : List Beat} {b : Beat}

lemma misses_concat : misses site (bs ++ [b]) =
    if b.resets site then 0 else misses site bs + if b.timesOut then 1 else 0 := by
  unfold misses missesSince
  rw [List.rtakeWhile_concat]
  by_cases h : b.resets site <;> simp [h, List.countP_append, List.countP_singleton]

/-- What a turn does to the count. -/
inductive Tally (site : Site) (b : Beat) : Prop
  | reset (hr : b.resets site) (ho : (b.turn site).conn.outstanding = none)
    (hf : (b.turn site).conn.failures = 0)
  | missed (hr : b.resets site = false) (ht : b.timesOut)
    (ho : (b.turn site).conn.outstanding = none)
    (hf : (b.turn site).conn.failures = b.conn.failures + 1)
  | probed {k : UInt32} (hr : b.resets site = false) (ht : b.timesOut = false)
    (hp : b.probes = some k) (ho : (b.turn site).conn.outstanding = some k)
    (hf : (b.turn site).conn.failures = b.conn.failures)
  | spared (hr : b.resets site = false) (ht : b.timesOut = false) (hp : b.probes = none)
    (ho : (b.turn site).conn.outstanding = b.conn.outstanding)
    (hf : (b.turn site).conn.failures = b.conn.failures)

lemma timesOut_iff : b.timesOut ↔
    ∃ k, b.input = .event (.watchdogReply k) ∧ b.conn.outstanding = some k := by
  unfold timesOut
  split
  · rename_i k hi
    simp [hi]
  · rename_i hn
    simp only [Bool.false_eq_true, false_iff, not_exists, not_and]
    exact fun k hk => absurd hk (hn k)

lemma reassures_iff_begun : b.reassures ↔
    ∃ link m, b.input = .event (.received link m) ∧ b.begun.Reassures link m := by
  unfold reassures
  split
  · rename_i link m hi
    simp [hi, Turn.reassures_iff]
  · rename_i hn
    simp only [Bool.false_eq_true, false_iff, not_exists, not_and]
    exact fun link m hk => absurd hk (hn link m)

lemma opens_eq_false (h : (b.turn site).conn.phase.isOpen → b.conn.phase.isOpen) :
    b.opens site = false := by
  simp only [opens, Bool.and_eq_false_iff, Bool.not_eq_false']
  by_cases hx : (b.turn site).conn.phase.isOpen
  · exact .inl (h hx)
  · exact .inr (by simpa using hx)

lemma Tally.of_spares (h : b.conn.duty.Spares (b.turn site).conn.duty) (hr : b.reassures = false)
    (ht : b.timesOut = false) (hp : b.probes = none) : b.Tally site := by
  refine .spared ?_ ht hp h.outstanding h.failures
  simp [resets, opens_eq_false h.phase, hr]

lemma Tally.of_opens {t : Turn} (h : t.Opens (b.turn site)) (ht : t.conn.phase = b.conn.phase) :
    b.Tally site :=
  .reset (by simp [resets, opens, ← ht, h.before, h.after]) h.outstanding h.failures

lemma tally_event {e : Event} (hi : b.input = .event e) :
    b.Tally site := by
  have hp : b.probes = none := by simp [probes, hi]
  by_cases hr : b.reassures
  · obtain ⟨link, m, hm, h⟩ := reassures_iff_begun.mp hr
    have hu : b.turn site = b.begun.onDwa site m :=
      (turn_event hm).trans (Turn.handle_of_reassures h)
    have ho := h.outstanding
    -- either way the failures are forgotten
    refine .reset (by simp [resets, hr]) ?_ ?_ <;> rw [hu] <;> simp only [Turn.onDwa, ho] <;>
    · simp only [ne_eq, not_true_eq_false, if_false]
      split <;> rfl
  have hr : b.reassures = false := by simpa using hr
  by_cases hx : b.timesOut
  · obtain ⟨k, hk, ho⟩ := timesOut_iff.mp hx
    have hb : b.begun.conn.outstanding = some k :=
      (congrArg Duty.outstanding b.duty_begun).trans ho
    have hu : b.turn site = b.begun.onWatchdogReply site k := turn_event hk
    obtain ⟨hn, hf, hph⟩ := Turn.counted_onWatchdogReply site hb
    rw [← hu] at hn hf hph
    have hd := b.duty_begun
    refine .missed ?_ hx hn (hf.trans (congrArg (fun d : Duty => d.failures + 1) hd))
    have ho : b.opens site = false := opens_eq_false fun h =>
      (congrArg (fun d : Duty => d.phase.isOpen) hd).symm.trans (hph h)
    simp [resets, ho, hr]
  · have hu : Turn.Upshot site _ b.begun e (b.turn site) :=
      turn_event hi ▸ Turn.handle_upshot_any site b.begun e
    rcases hu.spares with h | h | ⟨link, m, rfl, h⟩ | ⟨k, rfl, h⟩
    · -- neither the failures nor the outstanding request is touched
      exact .of_spares (b.duty_begun ▸ h) hr (by simpa using hx) hp
    · -- it has just been opened
      exact .of_opens h (congrArg Duty.phase b.duty_begun)
    · -- an answer that reassures; `hr` excludes it
      rw [reassures_iff_begun.mpr ⟨link, m, hi, h⟩] at hr
      exact absurd hr (by decide)
    · -- an alarm for the outstanding request; `hx` excludes it
      exact absurd (timesOut_iff.mpr
        ⟨k, hi, (congrArg Duty.outstanding b.duty_begun).symm.trans h⟩) hx

/-- The end of the write that is to open the connection comes when it is not open. -/
def Prompt (b : Beat) : Prop :=
  ∀ w peer, b.conn.writing = some w → w.goal = .accept peer → b.conn.phase.isOpen = false

lemma tally_written (ht : b.conn.Takes b.input) (hp : b.Prompt) {result : Option Failure}
    (hi : b.input = .written result) : b.Tally site := by
  have hr : b.reassures = false := by simp [reassures, hi]
  have hx : b.timesOut = false := by simp [timesOut, hi]
  rw [hi] at ht
  cases ht with
  | @written w hw _ =>
    let t : Turn := { b.begun with conn.writing := none }
    have hu : b.turn site = t.settle site w.goal w.message result := turn_written hi hw
    have hph : t.conn.phase = b.conn.phase := congrArg Duty.phase b.duty_begun
    have ho : t.conn.outstanding = b.conn.outstanding := congrArg Duty.outstanding b.duty_begun
    have hf : t.conn.failures = b.conn.failures := congrArg Duty.failures b.duty_begun
    have spared : t.conn.duty.Spares (b.turn site).conn.duty → b.probes = none → b.Tally site :=
      fun h hn => .of_spares ⟨h.outstanding.trans ho, h.failures.trans hf, fun hx =>
        (congrArg Phase.isOpen hph).symm.trans (h.phase hx)⟩ hr hx hn
    cases result with
    | some f =>
      have hB : Turn.Bypass site (fun _ => True) t (t.settle site w.goal w.message (some f)) :=
        Turn.Bypass.refl.settle_failed (fun _ _ => trivial) w.message trivial
      exact spared (hu ▸ hB.rests.spares) (by simp [probes, hi])
    | none =>
      have hpr : b.probes = b.conn.probe? := by simp [probes, hi]
      rcases w with ⟨link, m, g, deadline⟩
      by_cases hg : (∀ peer, g ≠ .accept peer) ∧ ∀ k, g ≠ .probe k
      · refine spared (hu ▸ Turn.settle_spares hg m) ?_
        rw [hpr, Connection.probe?, hw]
        cases g <;> first | rfl | exact absurd rfl (hg.2 _)
      · cases g with
        | accept peer =>
          have hc : t.conn.phase.isOpen = false := hph ▸ hp _ peer hw rfl
          exact .of_opens (hu ▸ Turn.opens_openAs hc peer rfl) hph
        | probe k =>
          have hk : b.probes = some k := by rw [hpr, Connection.probe?, hw]
          refine .probed ?_ hx hk (hu ▸ rfl) ((hu ▸ rfl : (b.turn site).conn.failures = _).trans hf)
          have hopen : b.opens site = false := opens_eq_false fun h => by
            rw [hu] at h
            exact hph ▸ h
          simp [resets, hopen, hr]
        | _ => exact absurd (by simp) hg

lemma tally (site : Site) (ht : b.conn.Takes b.input) (hp : b.Prompt) : b.Tally site := by
  cases hi : b.input with
  | event e => exact tally_event hi
  | written result => exact tally_written ht hp hi

end Beat

/-! ### Runs -/

/-- Not that a watchdog has expired. -/
def Failure.IsOther (f : Failure) : Prop := ∀ k, f ≠ .watchdogExpired k

/-- What an input says has gone wrong. -/
def Input.failure? : Input → Option Failure
  | .event e => e.failure?
  | .written result => result

lemma Turn.spans_isOther : Spans Failure.IsOther where
  remote h := by
    rintro k rfl
    exact h
  mistake _ _ _ k := by simp

variable {site : Site} {expected : Option String} {first : Event} {as bs : List Beat} {b : Beat}
  {c : Connection}

/-- Where the stage of a connection is known, nothing is written after the shutdown, and the
connection is not open while the write is under way that is to open it. -/
lemma Stage.prompt {n : Nat} {s : Stage} (hc : b.conn.shape = s.shape expected n) (hs : s.Sound)
    (ht : b.conn.Takes b.input) : b.conn.phase ≠ .shutdown ∧ b.Prompt := by
  have hp : b.conn.phase = s.phase := Stage.phase_of_shape hc
  have hw : b.conn.writing = (s.shape expected n).writing := congrArg Shape.writing hc
  constructor
  · intro hd
    obtain ⟨peer, cached, rfl⟩ := Stage.eq_shut hs (hp.symm.trans hd)
    cases hi : b.input with
    | event e =>
      rw [hi] at ht
      cases ht with
      | internal ha _ | queued ha _ => exact ha.1 hd
    | written result =>
      rw [hi] at ht
      cases ht with
      | written hx _ => exact absurd (hw.symm.trans hx) (by simp [Stage.shape])
  · intro w peer hx hg
    rw [hw] at hx
    rw [hp]
    cases s with
    | accepting source x d =>
      simp only [Stage.Sound, List.mem_cons, List.not_mem_nil, or_false] at hs
      rcases hs with rfl | rfl | rfl | rfl <;> rfl
    | running closing side link peer' v =>
      obtain rfl : v = some w := by cases side <;> exact hx
      have := hs.2
      rw [hg] at this
      exact this.elim
    | introducing | turningAway | rejecting =>
      obtain rfl := Option.some.inj hx
      exact absurd hg (by simp)
    | _ => exact absurd hx (by simp [Stage.shape])

namespace Beat

lemma turn_timesOut (site : Site) (h : b.timesOut) :
    b.turn site =
      let v : Turn :=
        { b.begun with conn.outstanding := none, conn.failures := b.conn.failures + 1 }
      if b.conn.failures + 1 ≥ site.settings.watchdogLimit then
        v.giveUp site (.watchdogExpired (b.conn.failures + 1))
      else v.armIdle site := by
  obtain ⟨k, hk, ho⟩ := timesOut_iff.mp h
  have hb : b.begun.conn.outstanding = some k :=
    (congrArg Duty.outstanding b.duty_begun).trans ho
  have hf : b.begun.conn.failures = b.conn.failures := congrArg Duty.failures b.duty_begun
  have hu : b.turn site = b.begun.onWatchdogReply site k := turn_event hk
  rw [hu, Turn.onWatchdogReply_eq site hb, hf]

/-- What is known of a connection after some turns of a run. -/
structure Counted (site : Site) (bs : List Beat) (c : Connection) : Prop where
  exact : c.failures.toNat = misses site bs
  below : c.phase ≠ .shutdown → c.failures.toNat < site.settings.missLimit
  /-- The unanswered watchdog request is the last that was written. -/
  unanswered : ∀ k, c.outstanding = some k → ∃ ps p ms, bs = ps ++ p :: ms ∧ p.probes = some k ∧
    ∀ m ∈ ms, m.probes = none ∧ m.timesOut = false ∧ m.resets site = false
  /-- The write under way tells of no expired watchdog. -/
  tells : ∀ w, c.writing = some w → w.goal.Tells Failure.IsOther

/-- The next miss ends the connection exactly if it is one too many for the settings. -/
lemma Counted.limit_le (h : Counted site bs c) (hp : c.phase ≠ .shutdown) :
    (c.failures + 1).toNat = misses site bs + 1 ∧
      (c.failures + 1 ≥ site.settings.watchdogLimit ↔
        misses site bs + 1 = site.settings.missLimit) := by
  have hb := h.below hp
  have hx := h.exact
  have hl : site.settings.watchdogLimit.toNat < 2 ^ 32 := site.settings.watchdogLimit.toNat_lt
  have hn : (c.failures + 1).toNat = misses site bs + 1 := by
    rw [UInt32.toNat_add, hx]
    unfold PeerSettings.missLimit at hb
    show (misses site bs + 1) % 2 ^ 32 = _
    omega
  refine ⟨hn, ?_⟩
  rw [ge_iff_le, UInt32.le_iff_toNat_le, hn]
  unfold PeerSettings.missLimit at hb ⊢
  omega

lemma counted_fresh (expected : Option String) (first : Event) :
    Counted site [] (.fresh expected first) where
  exact := rfl
  below _ := Nat.lt_of_lt_of_le Nat.one_pos (Nat.le_max_left _ _)
  unanswered _ h := absurd h (by simp [Connection.fresh])
  tells _ h := absurd h (by simp [Connection.fresh])

lemma Counted.tells_turn (h : Counted site bs b.conn) (ht : b.conn.Takes b.input)
    (hx : b.timesOut = false) (hr : ∀ f, b.input.failure? = some f → f.IsOther) :
    (b.turn site).Tells Failure.IsOther := by
  have hb : b.begun.Tells Failure.IsOther :=
    ⟨by simp [begun], fun w hw => h.tells w (b.writing_begun.symm.trans hw)⟩
  cases hi : b.input with
  | event e =>
    rw [turn_event hi]
    refine hb.handle Turn.spans_isOther (.inr fun _ _ _ => by simp) ?_ (.inr ?_)
    · exact fun f hf => hr f (by rw [hi]; exact hf)
    · rintro k hk l rfl rfl
      rw [timesOut_iff.mpr ⟨l, hi, (congrArg Duty.outstanding b.duty_begun).symm.trans hk⟩] at hx
      exact absurd hx (by decide)
  | written result =>
    rw [hi] at ht
    cases ht with
    | @written w hw _ =>
      have hn : ({ b.begun with conn.writing := none } : Turn).Tells Failure.IsOther :=
        ⟨hb.effects, by simp⟩
      rw [turn_written hi hw]
      exact hn.settle (h.tells w hw) _ fun e he => hr e (by rw [hi]; exact he)

lemma writing_of_timesOut (ht : b.conn.Takes b.input) (h : b.timesOut) :
    (b.turn site).conn.writing = none := by
  obtain ⟨k, hk, -⟩ := timesOut_iff.mp h
  have hn : b.begun.conn.writing = none := writing_begun_of_event ht hk
  rw [turn_timesOut site h]
  dsimp only
  split
  · exact (Turn.writing_transition site _ _).trans hn
  · exact hn

/-- What is known of a connection remains so with a turn. -/
lemma Counted.turn (h : Counted site bs b.conn) (ht : b.conn.Takes b.input)
    (hp : b.conn.phase ≠ .shutdown) (ha : b.Prompt)
    (hr : ∀ f, b.input.failure? = some f → f.IsOther) :
    Counted site (bs ++ [b]) (b.turn site).conn := by
  have tells : ∀ w, (b.turn site).conn.writing = some w → w.goal.Tells Failure.IsOther := by
    by_cases hx : b.timesOut
    · simp [writing_of_timesOut ht hx]
    · exact (h.tells_turn ht (by simpa using hx) hr).writing
  have hn := h.limit_le hp
  have hb := h.below hp
  rcases b.tally site ht ha with ⟨hs, ho, hf⟩ | ⟨hs, hx, ho, hf⟩ | ⟨hs, hx, hk, ho, hf⟩ |
    ⟨hs, hx, hk, ho, hf⟩
  · -- the count starts again
    refine ⟨?_, fun _ => ?_, by simp [ho], tells⟩
    · rw [misses_concat, if_pos hs, hf]
      rfl
    · rw [hf]
      exact Nat.lt_of_lt_of_le Nat.one_pos (Nat.le_max_left _ _)
  · -- one more miss; as long as the connection is up, it was not the last one tolerated
    have hm : misses site (bs ++ [b]) = misses site bs + 1 := by simp [misses_concat, hs, hx]
    refine ⟨?_, fun hd => ?_, by simp [ho], tells⟩
    · rw [hf, hn.1, hm]
    · have hl : ¬ b.conn.failures + 1 ≥ site.settings.watchdogLimit := by
        intro hl
        refine hd ?_
        rw [turn_timesOut site hx]
        dsimp only
        rw [if_pos hl]
        exact Turn.phase_giveUp site _ _
      have hne := mt hn.2.mpr hl
      rw [hf, hn.1]
      have := h.exact
      omega
  · -- a watchdog request has been written
    have hm : misses site (bs ++ [b]) = misses site bs := by simp [misses_concat, hs, hx]
    refine ⟨by rw [hf, hm, h.exact], fun _ => hf ▸ hb, ?_, tells⟩
    intro k hk'
    obtain rfl := Option.some.inj (ho.symm.trans hk')
    exact ⟨bs, b, [], rfl, hk, by simp⟩
  · -- the count is let alone
    have hm : misses site (bs ++ [b]) = misses site bs := by simp [misses_concat, hs, hx]
    refine ⟨by rw [hf, hm, h.exact], fun _ => hf ▸ hb, ?_, tells⟩
    intro k hk'
    obtain ⟨ps, p, ms, rfl, hpk, hms⟩ := h.unanswered k (ho.symm.trans hk')
    refine ⟨ps, p, ms ++ [b], by simp, hpk, fun m hm => ?_⟩
    rcases List.mem_append.mp hm with hm | hm
    · exact hms m hm
    · obtain rfl := List.mem_singleton.mp hm
      exact ⟨hk, hx, hs⟩

/-- Whether and how a turn counts, after the others. -/
structure Counts (site : Site) (as : List Beat) (b : Beat) : Prop where
  /-- The expiry of the watchdog is reported exactly when a request is given up that is one too many
  for the settings, whether the connection is open or about to part. -/
  expires : (∃ peer missed,
      .note (.failure peer (.watchdogExpired missed)) ∈ (b.turn site).effects) ↔
    b.timesOut ∧ misses site as + 1 = site.settings.missLimit
  /-- That is the first thing reported then, with the number of misses, and the connection ends. -/
  ends : b.timesOut → misses site as + 1 = site.settings.missLimit →
    (b.turn site).conn.phase = .shutdown ∧ ∃ missed rest, missed.toNat = site.settings.missLimit ∧
      (b.turn site).effects = .note (.failure b.conn.peerHost? (.watchdogExpired missed)) ::
        .note (.phase b.conn.peerHost? b.conn.phase .shutdown) :: .showPhase .shutdown :: rest
  /-- What is given up is the watchdog request written last, and nothing has counted since. -/
  once : b.timesOut → ∃ hopByHop ps p ms, b.input = .event (.watchdogReply hopByHop) ∧
    as = ps ++ p :: ms ∧ p.probes = some hopByHop ∧
    ∀ m ∈ ms, m.probes = none ∧ m.timesOut = false ∧ m.resets site = false
  /-- Nothing else changes the count. -/
  other : b.timesOut = false → b.resets site = false →
    (b.turn site).conn.failures = b.conn.failures

lemma turn_expired (hx : b.timesOut) (hp : b.conn.phase ≠ .shutdown)
    (hl : b.conn.failures + 1 ≥ site.settings.watchdogLimit) :
    (b.turn site).conn.phase = .shutdown ∧ ∃ rest, (b.turn site).effects =
      .note (.failure b.conn.peerHost? (.watchdogExpired (b.conn.failures + 1))) ::
        .note (.phase b.conn.peerHost? b.conn.phase .shutdown) :: .showPhase .shutdown :: rest := by
  let e : Failure := .watchdogExpired (b.conn.failures + 1)
  let v : Turn := { b.begun with conn.outstanding := none, conn.failures := b.conn.failures + 1 }
  have hu : b.turn site = v.giveUp site e := by
    rw [turn_timesOut site hx]
    dsimp only
    rw [if_pos hl]
  have hph : v.conn.phase = b.conn.phase := congrArg Duty.phase b.duty_begun
  have hh : v.conn.peerHost? = b.conn.peerHost? := b.peerHost?_begun
  have hv : v.effects = [] := rfl
  rw [hu]
  refine ⟨Turn.phase_giveUp site _ _, v.conn.shape.releases ++
    ((v.conn.pending.drain site.node).map .complete ++ v.conn.stoppers.map .release), ?_⟩
  rw [Turn.effects_giveUp site v e (hph ▸ hp), hv, Turn.shift, hph, hh]
  simp only [List.nil_append, List.cons_append, List.append_assoc]
  rfl

lemma Counted.counts (h : Counted site as b.conn) (ht : b.conn.Takes b.input)
    (hp : b.conn.phase ≠ .shutdown) (ha : b.Prompt)
    (hr : ∀ f, b.input.failure? = some f → f.IsOther) : b.Counts site as := by
  obtain ⟨hn, hl⟩ := h.limit_le hp
  refine ⟨⟨?_, ?_⟩, ?_, ?_, ?_⟩
  · rintro ⟨peer, missed, hm⟩
    -- only an alarm for an unanswered request reports this failure
    by_cases hx : b.timesOut
    · refine ⟨hx, hl.mp ?_⟩
      by_contra hc
      rw [turn_timesOut site hx] at hm
      dsimp only at hm
      rw [if_neg hc] at hm
      exact absurd hm (by simp [Turn.armIdle, Turn.arm, begun])
    · exact absurd rfl ((h.tells_turn ht (by simpa using hx) hr).effects _ hm missed)
  · -- at the limit it does, and first of all
    rintro ⟨hx, hm⟩
    obtain ⟨-, rest, he⟩ := turn_expired hx hp (hl.mpr hm)
    exact ⟨b.conn.peerHost?, _, by rw [he]; exact List.mem_cons_self⟩
  · intro hx hm
    obtain ⟨hd, rest, he⟩ := turn_expired hx hp (hl.mpr hm)
    exact ⟨hd, _, rest, hn.trans hm, he⟩
  · -- the request was written, and neither answered nor missed since
    intro hx
    obtain ⟨k, hi, ho⟩ := timesOut_iff.mp hx
    obtain ⟨ps, p, ms, has, hk, hms⟩ := h.unanswered k ho
    exact ⟨k, ps, p, ms, hi, has, hk, hms⟩
  · -- otherwise the count stays
    intro hx hs
    rcases b.tally site ht ha with ⟨hs', -, -⟩ | ⟨-, hx', -, -⟩ | ⟨-, -, -, -, hf⟩ |
      ⟨-, -, -, -, hf⟩
    · exact absurd hs' (by simp [hs])
    · exact absurd hx' (by simp [hx])
    · exact hf
    · exact hf

end Beat

namespace Connection.Run

lemma prompt (h : Run site (fresh expected first) bs b.conn) (hf : first.IsOpening)
    (ht : b.conn.Takes b.input) : b.conn.phase ≠ .shutdown ∧ b.Prompt := by
  obtain ⟨n, s, hs, hc⟩ := h.course hf
  exact Stage.prompt hc (hs.sound hf) ht

lemma counted (h : Run site (fresh expected first) bs c) (hf : first.IsOpening)
    (hr : ∀ b ∈ bs, ∀ f, b.input.failure? = some f → f.IsOther) : Beat.Counted site bs c := by
  induction h with
  | nil => exact Beat.counted_fresh expected first
  | ring _ _ ih =>
    obtain ⟨hx, hb, hu, hw⟩ := ih hr
    exact ⟨hx, hb, hu, hw⟩
  | @turn bs b h ht ih =>
    obtain ⟨hp, ha⟩ := prompt h hf ht
    exact (ih fun d hd => hr d (by simp [hd])).turn ht hp ha (hr b (by simp))

end Connection.Run

/-- The count of unanswered watchdog requests is what the turns that led to a connection make it,
and each of them did what it should about it. -/
structure CountsMisses (site : Site) (bs : List Beat) (c : Connection) : Prop where
  exact : c.failures.toNat = Beat.misses site bs
  below : c.phase ≠ .shutdown → c.failures.toNat < site.settings.missLimit
  turns : ∀ as b ds, bs = as ++ b :: ds → b.Counts site as

/-- **The count of unanswered watchdog requests is exact.** No input says of itself that a watchdog
has expired. -/
theorem Connection.Run.countsMisses (h : Run site (fresh expected first) bs c)
    (hf : first.IsOpening) (hr : ∀ b ∈ bs, ∀ f, b.input.failure? = some f → f.IsOther) :
    CountsMisses site bs c := by
  obtain ⟨hx, hb, -, -⟩ := h.counted hf hr
  refine ⟨hx, hb, ?_⟩
  rintro as b ds rfl
  obtain ⟨ha, ht, -⟩ := h.split
  obtain ⟨hp, hpr⟩ := ha.prompt hf ht
  exact (ha.counted hf fun d hd => hr d (by simp [hd])).counts ht hp hpr (hr b (by simp))

namespace Connection

/-- A CER is answered and the connection opens, then its idle time is over and a watchdog request is
written, which stays unanswered. -/
theorem countsMisses_unanswered :
    let site : Site := ⟨Node.plain "a", {}⟩
    let b := opening (.acceptedCer 0 ((Node.plain "b").cer {}).1)
    let r := (b.turn site).conn.play site [.written none, .event (.watchdogIdle 1), .written none,
      .event (.watchdogReply ({} : Identifiers).nextHopByHop.1)]
    Run site b.conn ([b] ++ r.1) r.2 ∧ r.2.phase = .rOpen ∧ r.2.failures = 1 ∧
      CountsMisses site ([b] ++ r.1) r.2 := by
  intro site b r
  have h : Run site b.conn ([b] ++ r.1) r.2 := (run_opening site _).play (by decide +kernel)
  refine ⟨h, by decide +kernel, by decide +kernel, h.countsMisses trivial ?_⟩
  intro d hd f hf
  rcases List.mem_append.mp hd with hd | hd
  · obtain rfl := List.mem_singleton.mp hd
    exact absurd hf (by simp [b, opening, beat, Input.failure?, Event.failure?])
  · have hi := mem_play hd
    simp only [List.mem_cons, List.not_mem_nil, or_false] at hi
    rcases hi with hi | hi | hi | hi <;> simp [hi, Input.failure?, Event.failure?] at hf

/-- One watchdog request has stayed unanswered. To the next comes an answer that is marked as
retransmitted, or one under another name than the peer's. Neither sets the count back, although it
has the identifier of the request, and so the connection is given up with the second miss. -/
theorem miscounts_answersTurnedDown :
    let site : Site := ⟨Node.plain "a", { watchdogLimit := 2 }⟩
    let b := opening (.acceptedCer 0 ((Node.plain "b").cer {}).1)
    let r := (b.turn site).conn.play site
      [.written none, .event (.watchdogIdle 1), .written none, .event (.watchdogReply 1)]
    let p : Beat := ⟨r.2, ⟨0, 0, { hopByHop := 1 }⟩, .event (.watchdogIdle 2)⟩
    let dwr := (site.node.dwr p.moment.ids).1
    let dwa := (Node.plain "b").dwa dwr
    let marked : Message := { dwa with header := dwa.header.setRetransmit }
    let answered := fun m : Message =>
      (p.turn site).conn.play site [.written none, .event (.received 1 m)]
    let miscounts := fun m : Message =>
      let c := (answered m).2
      let bs := [b] ++ r.1 ++ [p] ++ (answered m).1
      let last := c.beat (.event (.watchdogReply 2))
      let since := fun d : Beat => d.opens site || d.echoes
      Run site b.conn bs c ∧ c.phase = .rOpen ∧
        c.failures.toNat = 1 ∧ Beat.missesSince since bs = 0 ∧
        Run site b.conn (bs ++ [last]) (last.turn site).conn ∧
        (last.turn site).conn.phase = .shutdown ∧
        Beat.missesSince since (bs ++ [last]) < site.settings.missLimit
    miscounts marked ∧ miscounts ((Node.plain "c").dwa dwr) := by
  intro site b r p dwr dwa marked answered miscounts
  have hr : Run site b.conn ([b] ++ r.1) r.2 := (run_opening site _).play (by decide +kernel)
  have hp : Run site b.conn ([b] ++ r.1 ++ [p]) (p.turn site).conn :=
    hr.turn (b := p) (takes_of_mayTake (by decide +kernel))
  have hrun : ∀ m, (p.turn site).conn.plays site [.written none, .event (.received 1 m)] →
      Run site b.conn ([b] ++ r.1 ++ [p] ++ (answered m).1) (answered m).2 := fun m hm => hp.play hm
  constructor
  · -- the answer marked as retransmitted
    have h := hrun marked (by decide +kernel)
    exact ⟨h, by decide +kernel, by decide +kernel, by decide +kernel,
      h.beat (by decide +kernel), by decide +kernel, by decide +kernel⟩
  · -- the answer under another name
    have h := hrun ((Node.plain "c").dwa dwr) (by decide +kernel)
    exact ⟨h, by decide +kernel, by decide +kernel, by decide +kernel,
      h.beat (by decide +kernel), by decide +kernel, by decide +kernel⟩

end Connection

end Diameter
