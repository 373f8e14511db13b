import Diameter.Proofs.Chronicle
import Diameter.Proofs.Misses

/-!
A connection that parts has no watchdog, save what is left of it.

As the connection begins to part its watchdog alarms are disarmed. What they have already rung for
may still come, and changes nothing, with one exception: a watchdog request that was unanswered then
can still be given up, once, and that counts and may end the connection. Main statement:
`Connection.Run.disarmsWatchdog`.
-/

namespace Diameter

/-- Only the watchdog is concerned. -/
def Event.IsWatch : Event → Prop
  | .watchdogIdle _ | .watchdogReply _ => True
  | _ => False

section Next

variable {site : Site} {expected : Option String} {n n' : Nat} {s s' : Stage} {i : Input}
  {out : List Effect}

lemma Next.of_closing (h : Next site expected n s i out n' s') (hs : s.Sound)
    (hp : s.phase = .closing) : s'.phase = .closing ∨ s'.phase = .shutdown := by
  obtain ⟨side, link, peer, w, hr⟩ := Stage.eq_parting hs hp
  cases h with
  | stay | refuse | turnAwayUnanswered => exact .inl hp
  | write | written => cases hr; exact .inl rfl
  | fall | partAndFall => exact .inr rfl
  | part => exact .inl rfl
  | @turnAway i | @turnedAway i => cases i <;> cases hr
  | _ => cases hr

lemma Next.parts (h : Next site expected n s i out n' s') (hs : s.Sound)
    (hp : s.phase ≠ .closing) (hp' : s'.phase = .closing) :
    i = .written none ∧ ∃ w, (s.shape expected n).writing = some w ∧ w.goal = .disconnect := by
  obtain ⟨_, _, _, _, hr⟩ := Stage.eq_parting (h.sound hs) hp'
  cases h with
  | @part side _ _ w hg => cases side <;> exact ⟨rfl, w, rfl, hg⟩
  | @write closing side | @written closing side =>
    cases closing with
    | true => exact absurd rfl hp
    | false => cases hr
  | stay | refuse | turnAwayUnanswered => exact absurd hp' hp
  | @turnedAway i => cases i <;> cases hr
  | _ => cases hr

end Next

namespace Beat

variable {site : Site} {b : Beat}

/-- The turn changes nothing: the connection is as it was, nothing is done, and no identifier is
drawn. -/
def Ignores (site : Site) (b : Beat) : Prop :=
  b.turn site =
    { now := b.moment.now, serial := b.moment.serial, ids := b.moment.ids, conn := b.conn }

/-- The connection begins to part. -/
def Parts (site : Site) (b : Beat) : Prop :=
  b.conn.phase ≠ .closing ∧ (b.turn site).conn.phase = .closing

/-- While the connection parts, an event of the watchdog changes nothing, unless it gives up the
watchdog request that is unanswered. -/
lemma ignores (hc : b.conn.phase = .closing) (hn : b.conn.internal = []) {e : Event}
    (hi : b.input = .event e) (he : e.IsWatch) (hx : b.timesOut = false) : b.Ignores site := by
  have hb : b.begun =
      { now := b.moment.now, serial := b.moment.serial, ids := b.moment.ids, conn := b.conn } := by
    have hcb : b.begun.conn = b.conn := by rw [conn_begun hi, hn, List.tail_nil, ← hn]
    exact congrArg (fun c => ({ b.begun with conn := c } : Turn)) hcb
  have hu : b.turn site = b.begun := by
    rw [turn_event hi]
    cases e with
    | watchdogIdle g => simp [Turn.handle, Turn.onWatchdogIdle, hb, hc, Phase.isOpen]
    | watchdogReply k =>
      have ho : b.begun.conn.outstanding ≠ some k := by
        rw [hb]
        intro ho
        rw [timesOut_iff.mpr ⟨k, hi, ho⟩] at hx
        exact absurd hx (by decide)
      simp [Turn.handle, Turn.onWatchdogReply, ho]
    | _ => exact he.elim
  exact hu.trans hb

lemma alarms_of_written {w : Writing} (hi : b.input = .written none)
    (hw : b.conn.writing = some w) (hg : w.goal = .disconnect) (hp : b.Parts site) :
    ∀ a ∈ (b.turn site).conn.alarms.armed, a.slot ≠ .idle ∧ a.slot ≠ .reply := by
  let t : Turn := { b.begun with conn.writing := none }
  have hc : t.conn.phase ≠ .closing := by
    have hph : t.conn.phase = b.conn.phase := congrArg Duty.phase b.duty_begun
    exact hph ▸ hp.1
  have hu : b.turn site =
      (t.transition site .closing).arm .close site.settings.sendTimeout .closeTimeout := by
    rw [turn_written hi hw, hg]
    rfl
  have ha : (t.transition site .closing).conn.alarms =
      (t.conn.alarms.cancel .idle).cancel .reply :=
    congrArg Duty.alarms (Turn.duty_transition_closing site hc)
  intro a hm
  rw [hu] at hm
  simp only [Turn.arm, Alarms.arm, ha, Alarms.cancel, List.mem_append, List.mem_filter,
    List.mem_singleton, decide_eq_true_eq] at hm
  rcases hm with ⟨⟨⟨-, hi⟩, hr⟩, -⟩ | rfl
  · exact ⟨hi, hr⟩
  · simp

/-- A watchdog request that is given up counts; it ends the connection if it is one too many, and
otherwise nothing is done but to start the idle time afresh. -/
structure GivesUp (site : Site) (b : Beat) : Prop where
  outstanding : (b.turn site).conn.outstanding = none
  failures : (b.turn site).conn.failures = b.conn.failures + 1
  tolerated : b.conn.failures + 1 < site.settings.watchdogLimit →
    (b.turn site).conn.phase = b.conn.phase ∧ (b.turn site).effects = []
  expired : site.settings.watchdogLimit ≤ b.conn.failures + 1 →
    (b.turn site).conn.phase = .shutdown ∧ ∃ rest, (b.turn site).effects =
      .note (.failure b.conn.peerHost? (.watchdogExpired (b.conn.failures + 1))) ::
        .note (.phase b.conn.peerHost? b.conn.phase .shutdown) :: .showPhase .shutdown :: rest

lemma givesUp (hp : b.conn.phase ≠ .shutdown) (hx : b.timesOut) : b.GivesUp site := by
  obtain ⟨k, hk, ho⟩ := timesOut_iff.mp hx
  have hd := b.duty_begun
  have hb : b.begun.conn.outstanding = some k := (congrArg Duty.outstanding hd).trans ho
  obtain ⟨hn, hf, -⟩ := Turn.counted_onWatchdogReply site hb
  have hu : b.turn site = b.begun.onWatchdogReply site k := turn_event hk
  rw [← hu] at hn hf
  refine ⟨hn, hf.trans (congrArg (fun d : Duty => d.failures + 1) hd), fun hl => ?_, fun hl =>
    turn_expired hx hp hl⟩
  have hr := turn_timesOut site hx
  dsimp only at hr
  rw [if_neg (UInt32.not_le.mpr hl)] at hr
  rw [hr]
  exact ⟨congrArg Duty.phase hd, rfl⟩

end Beat

/-! ### Runs -/

variable {site : Site} {expected : Option String} {first : Event} {as bs ds : List Beat} {b : Beat}
  {c : Connection}

/-- What becomes of the watchdog once the connection has begun to part with a turn, in the turns
after it. -/
structure Disarms (site : Site) (b : Beat) (ds : List Beat) : Prop where
  /-- No alarm of the watchdog is armed any more. -/
  alarms : ∀ a ∈ (b.turn site).conn.alarms.armed, a.slot ≠ .idle ∧ a.slot ≠ .reply
  /-- Events of the watchdog change nothing, also those its alarms had already rung for. -/
  ignores : ∀ d ∈ ds, ∀ e, d.input = .event e → e.IsWatch → d.timesOut = false → d.Ignores site
  /-- The exception is the watchdog request that was unanswered as the connection began to part,
  and only once, if no answer has come meanwhile. -/
  once : ∀ es d fs, ds = es ++ d :: fs → d.timesOut → d.conn.outstanding.isSome ∧
    d.conn.outstanding = (b.turn site).conn.outstanding ∧
    ∀ e ∈ es, e.timesOut = false ∧ e.reassures = false
  /-- Then it is given up as on an open connection. -/
  late : ∀ d ∈ ds, d.timesOut → d.GivesUp site

namespace Connection.Run

lemma phase_of_closing (h : Run site (fresh expected first) bs b.conn) (hf : first.IsOpening)
    (ht : b.conn.Takes b.input) (hp : b.conn.phase = .closing) :
    (b.turn site).conn.phase = .closing ∨ (b.turn site).conn.phase = .shutdown := by
  obtain ⟨n, s, n', s', hc, hs, hn, hc'⟩ := h.next hf ht
  have h₁ : b.conn.phase = s.phase := Stage.phase_of_shape hc
  have h₂ : (b.turn site).conn.phase = s'.phase := Stage.phase_of_shape hc'
  rw [h₂]
  exact hn.of_closing hs (h₁.symm.trans hp)

lemma quiet_of_closing (h : Run site (fresh expected first) bs c) (hf : first.IsOpening)
    (hp : c.phase = .closing) : c.internal = [] ∧ c.probe? = none := by
  obtain ⟨n, s, hs, hc⟩ := h.course hf
  have h₁ : c.phase = s.phase := Stage.phase_of_shape hc
  have hsound := hs.sound hf
  obtain ⟨side, link, peer, w, rfl⟩ := Stage.eq_parting hsound (h₁.symm.trans hp)
  have hi : c.internal = [] := (congrArg Shape.internal hc).trans (by cases side <;> rfl)
  have hw : c.writing = w := (congrArg Shape.writing hc).trans (by cases side <;> rfl)
  refine ⟨hi, ?_⟩
  unfold probe?
  rw [hw]
  split
  · rename_i l m k d
    exact absurd hsound.2 (by simp [Goal.IsTraffic])
  · rfl

/-- Since the connection began to part it goes on to, and only the watchdog request that was
unanswered then may still be. -/
lemma parted (h : Run site (fresh expected first) bs c) (hf : first.IsOpening)
    (hl : bs = as ++ b :: ds) (hb : b.Parts site) :
    (∀ d ∈ ds, d.conn.phase = .closing) ∧ (c.phase = .closing ∨ c.phase = .shutdown) ∧
      (c.outstanding.isSome → c.outstanding = (b.turn site).conn.outstanding ∧
        ∀ d ∈ ds, d.timesOut = false ∧ d.reassures = false) := by
  induction h generalizing ds with
  | nil => exact absurd hl (by simp)
  | ring _ _ ih => exact ih hl
  | @turn bs d h ht ih =>
    rcases split_concat hl with ⟨rfl, rfl, rfl⟩ | ⟨es, rfl, rfl⟩
    · -- this is the turn that parts
      exact ⟨by simp, .inl hb.2, fun _ => ⟨rfl, by simp⟩⟩
    · -- it has parted before, and is closing
      obtain ⟨hds, hp, ho⟩ := ih rfl
      obtain ⟨hns, hpr⟩ := h.prompt hf ht
      have hp := hp.resolve_right hns
      refine ⟨?_, h.phase_of_closing hf ht hp, ?_⟩
      · simp only [List.mem_append, List.mem_singleton]
        rintro e (he | rfl)
        · exact hds e he
        · exact hp
      · intro hs
        rcases d.tally site ht hpr with ⟨-, hn, -⟩ | ⟨-, -, hn, -⟩ | ⟨-, -, hk, -⟩ |
          ⟨hr, hx, -, hn, -⟩
        · -- it starts the count again, and nothing is outstanding then
          exact absurd hs (by simp [hn])
        · -- a miss: nothing is outstanding then
          exact absurd hs (by simp [hn])
        · -- no watchdog request is being written
          have hq := (h.quiet_of_closing hf hp).2
          unfold Beat.probes at hk
          split at hk
          · exact absurd (hq.symm.trans hk) (by simp)
          · exact absurd hk (by simp)
        · -- the watchdog is let alone
          rw [hn] at hs ⊢
          obtain ⟨he, hall⟩ := ho hs
          refine ⟨he, ?_⟩
          simp only [List.mem_append, List.mem_singleton]
          rintro e (hm | rfl)
          · exact hall e hm
          · simp only [Beat.resets, Bool.or_eq_false_iff] at hr
            exact ⟨hx, hr.2⟩

/-- **Parting disarms the watchdog**, but for the request that is unanswered then: its end still
counts, and may be the end of the connection. -/
theorem disarmsWatchdog (h : Run site (fresh expected first) (as ++ b :: ds) c)
    (hf : first.IsOpening) (hb : b.Parts site) : Disarms site b ds := by
  have closing : ∀ d ∈ ds, d.conn.phase = .closing := (h.parted hf rfl hb).1
  have split : ∀ {es d fs}, ds = es ++ d :: fs →
      Run site (fresh expected first) (as ++ b :: es) d.conn ∧ d.conn.Takes d.input := by
    rintro es d fs rfl
    have hl : as ++ b :: (es ++ d :: fs) = (as ++ b :: es) ++ d :: fs := by simp
    obtain ⟨hr, ht, -⟩ := Run.split (hl ▸ h)
    exact ⟨hr, ht⟩
  refine ⟨?_, fun d hd e hi he hx => ?_, fun es d fs hl hx => ?_, fun d hd hx => ?_⟩
  · -- the turn that parts writes the last of the disconnect request
    obtain ⟨hr, ht, -⟩ := h.split
    obtain ⟨n, s, n', s', hc, hs, hn, hc'⟩ := hr.next hf ht
    have h₁ : b.conn.phase = s.phase := (congrArg Shape.phase hc).trans (Stage.phase_shape _ _ _)
    have h₂ : (b.turn site).conn.phase = s'.phase :=
      (congrArg Shape.phase hc').trans (Stage.phase_shape _ _ _)
    obtain ⟨hi, w, hw, hg⟩ := hn.parts hs (h₁ ▸ hb.1) (h₂ ▸ hb.2)
    exact Beat.alarms_of_written hi ((congrArg Shape.writing hc).trans hw) hg hb
  · -- the ring of another alarm is ignored
    obtain ⟨es, fs, hl⟩ := List.append_of_mem hd
    obtain ⟨hr, -⟩ := split hl
    exact Beat.ignores (closing d hd) (hr.quiet_of_closing hf (closing d hd)).1 hi he hx
  · -- a miss is of the request that was outstanding when it parted
    obtain ⟨hr, -⟩ := split hl
    obtain ⟨k, -, ho⟩ := Beat.timesOut_iff.mp hx
    have hs : d.conn.outstanding.isSome := by simp [ho]
    obtain ⟨he, hall⟩ := (hr.parted hf rfl hb).2.2 hs
    exact ⟨hs, he, hall⟩
  · -- nothing is opened again, so it can only give up
    exact Beat.givesUp (by rw [closing d hd]; decide) hx

end Connection.Run

namespace Connection

/-- A connection is open and its watchdog request unanswered when it is asked to part. The ends of
the idle time and of the wait for the answer are handled late. -/
theorem disarmsWatchdog_unanswered :
    let site : Site := ⟨Node.plain "a", {}⟩
    let b₀ := opening (.acceptedCer 0 ((Node.plain "b").cer {}).1)
    let asked := (b₀.turn site).conn.play site [.written none, .event (.watchdogIdle 1),
      .written none, .event (.stop 0 .rebooting)]
    let b := asked.2.beat (.written none)
    let late := (b.turn site).conn.play site [.event (.watchdogIdle 1),
      .event (.watchdogReply ({} : Identifiers).nextHopByHop.1)]
    Run site b₀.conn (([b₀] ++ asked.1) ++ b :: late.1) late.2 ∧ b.Parts site ∧
      late.1.map Beat.timesOut = [false, true] ∧ Disarms site b late.1 := by
  intro site b₀ asked b late
  have h₁ : Run site b₀.conn ([b₀] ++ asked.1) asked.2 :=
    (run_opening site _).play (by decide +kernel)
  have h₂ : Run site b₀.conn ([b₀] ++ asked.1 ++ [b]) (b.turn site).conn :=
    h₁.beat (by decide +kernel)
  have h₃ : Run site b₀.conn (([b₀] ++ asked.1) ++ b :: late.1) late.2 := by
    rw [List.append_cons]
    exact h₂.play (by decide +kernel)
  have hb : b.Parts site := ⟨by decide +kernel, by decide +kernel⟩
  exact ⟨h₃, hb, by decide +kernel, h₃.disarmsWatchdog trivial hb⟩

end Connection

namespace Clockwork

lemma queue_eq_of_timesOut {w : Clockwork} {k : UInt32} (hl : w.queue.length = 1)
    (hx : w.queue.all fun e => (w.beat (.event e)).timesOut) (ho : w.conn.outstanding = some k) :
    w.queue = [.watchdogReply k] := by
  obtain ⟨e, he⟩ := List.length_eq_one_iff.mp hl
  rw [he, List.all_cons, List.all_nil, Bool.and_true] at hx
  obtain ⟨k', hi, hk⟩ := Beat.timesOut_iff.mp hx
  have hkk : k' = k := Option.some.inj (hk.symm.trans ho)
  rw [he, Input.event.inj hi, hkk]

/-- A connection that tolerates no miss is asked to part while its watchdog request is unanswered.
As the disconnect request is written, the alarm rings that ends the wait for the answer. What it
rang for is handled late, ends the connection and reports an expired watchdog. -/
theorem expires_parting :
    let site : Site := ⟨Node.plain "a", { watchdogLimit := 1 }⟩
    let w₀ := fresh none (.acceptedCer 0 ((Node.plain "b").cer {}).1)
    let late : Event := .watchdogReply ({} : Identifiers).nextHopByHop.1
    let r := w₀.acts site [.own, .written none, .wait site.settings.watchdogInterval, .ring, .take,
      .written none, .wait 1, .post (.stop 0 .rebooting), .take, .wait site.settings.sendTimeout,
      .ring, .written none]
    let b := r.2.beat (.event late)
    Chronicle site w₀ (r.1 ++ [b]) ⟨(b.turn site).conn, r.2.now, []⟩ ∧
      r.2.queue = [late] ∧ b.conn.phase = .closing ∧ b.conn.failures = 0 ∧
      (b.turn site).conn.phase = .shutdown ∧ (b.turn site).conn.failures = 1 ∧
      ∃ rest, (b.turn site).effects =
        .note (.failure (some "b") (.watchdogExpired 1)) :: rest := by
  intro site w₀ late r b
  have h : Chronicle site w₀ r.1 r.2 := Chronicle.told (by decide +kernel)
  have hq : r.2.queue = [late] :=
    queue_eq_of_timesOut (by decide +kernel) (by decide +kernel) (by decide +kernel)
  have hx : b.timesOut := by decide +kernel
  have hl : site.settings.watchdogLimit ≤ b.conn.failures + 1 := by decide +kernel
  obtain ⟨hp, rest, he⟩ := Beat.turn_expired hx (by decide +kernel) hl
  have hh : b.conn.peerHost? = some "b" := by decide +kernel
  have hf : b.conn.failures = 0 := by decide +kernel
  rw [hh, hf] at he
  exact ⟨h.takeFirst (by decide +kernel) hq, hq, by decide +kernel, hf, hp, by decide +kernel, _,
    he⟩

end Clockwork

end Diameter
