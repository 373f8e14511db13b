import Diameter.Proofs.Chronicle
import Diameter.Proofs.Misses
import Diameter.Proofs.Rebuff
import Diameter.Proofs.Utterance

/-!
What postpones the next watchdog request of an open connection.

A message of the peer does that is taken to be its own, and so does a request that has been written.
All other traffic leaves the idle time as it is: answers, complaints, and what comes from the peer
and is turned down. `Turn.Dwells` says what one turn does to the idle time, `Clockwork.Paced` what
is so upheld by all of them. Main statement: `Clockwork.Chronicle.postpones`.
-/

namespace Diameter

namespace Alarms

variable {s : Alarms AlarmSlot Event} {slot slot' : AlarmSlot}

/-- What is armed in a slot. -/
def inSlot (s : Alarms AlarmSlot Event) (slot : AlarmSlot) : List (Alarm AlarmSlot Event) :=
  s.armed.filter (·.slot = slot)

lemma mem_inSlot {a : Alarm AlarmSlot Event} :
    a ∈ s.inSlot slot ↔ a ∈ s.armed ∧ a.slot = slot := by
  simp [inSlot]

lemma inSlot_cancel (h : slot' ≠ slot) : (s.cancel slot').inSlot slot = s.inSlot slot := by
  simp only [inSlot, cancel, List.filter_filter]
  refine List.filter_congr fun a _ => ?_
  by_cases ha : a.slot = slot
  · simp [ha, h.symm]
  · simp [ha]

lemma inSlot_arm (h : slot' ≠ slot) (due serial : Nat) (e : Event) :
    (s.arm slot' due serial e).inSlot slot = s.inSlot slot := by
  have hc : (s.cancel slot').inSlot slot = s.inSlot slot := inSlot_cancel h
  rw [← hc]
  unfold inSlot
  rw [arm, List.filter_append]
  simp [h]

lemma inSlot_arm_self (due serial : Nat) (e : Event) :
    (s.arm slot due serial e).inSlot slot = [⟨slot, due, serial, e⟩] := by
  simp [inSlot, arm, cancel, List.filter_append, List.filter_filter]

end Alarms

lemma Duty.Rests.still {d d' : Duty} (h : d.Rests d') :
    d'.phase.isOpen = false ∨ d'.phase = d.phase ∧ d'.generation = d.generation ∧
      d'.alarms = d.alarms ∧ d'.outstanding = d.outstanding := by
  have closed : ∀ {p : Phase}, p.isRunning = false → p.isOpen = false := by
    intro p hp
    simp only [Phase.isRunning, Bool.or_eq_false_iff] at hp
    exact hp.1
  cases h with
  | kept hp _ => exact hp.elim (fun he => .inr ⟨he, rfl, rfl, rfl⟩) fun hn => .inl (closed hn)
  | ended hp _ _ => exact .inl (closed hp)

namespace Turn

/-- What becomes of the idle time with a turn, given whether it has postponed the end of it. -/
inductive Dwells (site : Site) (stirred : Prop) (t u : Turn) : Prop
  /-- It goes on, because nothing has stirred or because a watchdog request is unanswered. -/
  | kept (hg : u.conn.generation = t.conn.generation)
    (ha : u.conn.alarms.inSlot .idle = t.conn.alarms.inSlot .idle)
    (ho : u.conn.phase.isOpen → t.conn.phase.isOpen)
    (hs : stirred → u.conn.phase.isOpen → u.conn.outstanding.isSome)
  /-- It starts afresh. -/
  | afresh (hg : u.conn.generation = t.conn.generation + 1)
    (ha : u.conn.alarms.inSlot .idle = [⟨.idle, t.now + site.settings.watchdogInterval, t.serial,
      .watchdogIdle (t.conn.generation + 1)⟩])
    (hs : stirred ∨ t.conn.outstanding.isSome ∨ t.conn.phase.isOpen = false)
  | ended (hu : u.conn.phase.isOpen = false)

variable {site : Site} {stirred : Prop} {t u v : Turn} {A : Failure → Prop}

namespace Dwells

lemma refl (hs : ¬ stirred) : t.Dwells site stirred t :=
  .kept rfl rfl id fun h => absurd h hs

lemma congr (h : t.Dwells site stirred u) (hg : v.conn.generation = u.conn.generation)
    (ha : v.conn.alarms.inSlot .idle = u.conn.alarms.inSlot .idle)
    (hp : v.conn.phase = u.conn.phase) (ho : v.conn.outstanding = u.conn.outstanding) :
    t.Dwells site stirred v := by
  cases h with
  | kept hg' ha' ho' hs =>
    exact .kept (hg.trans hg') (ha.trans ha') (hp ▸ ho') (by rw [hp, ho]; exact hs)
  | afresh hg' ha' hs => exact .afresh (hg.trans hg') (ha.trans ha') hs
  | ended hu => exact .ended (hp ▸ hu)

lemma rests (h : t.Dwells site stirred u) (hr : u.conn.duty.Rests v.conn.duty) :
    t.Dwells site stirred v := by
  rcases hr.still with hv | ⟨hp, hg, ha, ho⟩
  · exact .ended hv
  · exact h.congr hg (congrArg (Alarms.inSlot · .idle) ha) hp ho

lemma armIdle (hs : stirred ∨ t.conn.outstanding.isSome ∨ t.conn.phase.isOpen = false)
    (hn : u.now = t.now) (hr : u.serial = t.serial)
    (hg : u.conn.generation = t.conn.generation) : t.Dwells site stirred (u.armIdle site) := by
  refine .afresh (congrArg (· + 1) hg) ?_ hs
  show (u.conn.alarms.arm .idle (u.now + site.settings.watchdogInterval) u.serial
    (.watchdogIdle (u.conn.generation + 1))).inSlot .idle = _
  rw [Alarms.inSlot_arm_self, hn, hr, hg]

lemma complete (h : t.Dwells site stirred u) (x : Exchange) (c : Completion) (p : Pending) :
    t.Dwells site stirred (u.complete x c p) :=
  h.congr rfl (Alarms.inSlot_cancel (by simp)) rfl rfl

lemma failExchange (h : t.Dwells site stirred u) (k : UInt32) (r : ResultCode) :
    t.Dwells site stirred (u.failExchange site k r) := by
  unfold Turn.failExchange
  split
  · exact h
  · rename_i x c p _
    exact (h.complete x c p).congr rfl rfl rfl rfl

lemma onAnswer (h : t.Dwells site stirred u) (m : Message) :
    t.Dwells site stirred (u.onAnswer m) := by
  unfold Turn.onAnswer
  split
  · exact h.congr rfl rfl rfl rfl
  · rename_i x c p _
    exact (h.complete x c p).congr rfl rfl rfl rfl

lemma onExchangeTimeout (h : t.Dwells site stirred u) (k : UInt32) :
    t.Dwells site stirred (u.onExchangeTimeout site k) := by
  unfold Turn.onExchangeTimeout
  split
  · exact h
  · rename_i x c p _
    exact (h.complete x c p).congr rfl rfl rfl rfl

lemma enter (h : t.Dwells site stirred u) (waiter : Nat) (request : Message) :
    t.Dwells site stirred (u.enter site waiter request) := by
  have hd := duty_enter site u waiter request
  refine h.congr (congrArg Duty.generation hd) ?_ (congrArg Duty.phase hd)
    (congrArg Duty.outstanding hd)
  exact (congrArg (fun d : Duty => d.alarms.inSlot .idle) hd).trans
    (Alarms.inSlot_arm (by simp) _ _ _)

end Dwells

/-! ### Opening -/

lemma dwells_openAs (peer : PeerIdentity) {p : Phase} (hp : p.isOpen) (hn : u.now = t.now)
    (hr : u.serial = t.serial) (hg : u.conn.generation = t.conn.generation)
    (ht : t.conn.phase.isOpen = false) : t.Dwells site stirred (u.openAs site peer p) := by
  let v : Turn := { ({ u with conn.identity := some peer } : Turn).emit (.showPeer peer) with
    conn.failures := 0, conn.outstanding := none }
  have hs : p ≠ .shutdown ∧ p ≠ .closing := by
    constructor <;> rintro rfl <;> exact absurd hp (by decide)
  have hd := duty_transition site v hs.1 hs.2
  have hk : (v.transition site p).now = v.now ∧ (v.transition site p).serial = v.serial := by
    unfold transition
    split
    · exact ⟨rfl, rfl⟩
    · cases p <;> first | exact ⟨rfl, rfl⟩ | exact absurd rfl hs.1
  exact Dwells.armIdle (u := v.transition site p) (.inr (.inr ht)) (hk.1.trans hn)
    (hk.2.trans hr) ((congrArg Duty.generation hd).trans hg)

lemma dwells_of_introduces {link : Nat} {m : Message} {peer : PeerIdentity}
    (h : t.Introduces site link m peer) :
    t.Dwells site stirred (t.handle site (.received link m)) := by
  have hp : t.conn.phase.isOpen = false := by
    rcases h.phase with hp | hp <;> simp [hp, Phase.isOpen]
  rw [handle_of_introduces h]
  split
  · exact dwells_openAs peer rfl (now_hangUp t .responder) (serial_hangUp t .responder)
      (congrArg Duty.generation (duty_hangUp .responder)) hp
  · exact dwells_openAs peer rfl rfl rfl rfl hp

/-! ### Messages of the peer -/

/-- With whatever is taken to be the peer's the idle time starts afresh, unless a watchdog request
is unanswered. -/
lemma dwells_stir : t.Dwells site True (t.stir site) := by
  unfold stir
  split
  · exact .armIdle (.inl trivial) rfl rfl rfl
  · rename_i hc
    refine .kept rfl rfl id fun _ ho => ?_
    exact Option.isSome_iff_ne_none.mpr fun hn => hc (by simp [hn, ho])

lemma dwells_onDwa (m : Message) : t.Dwells site True ((t.stir site).onDwa site m) := by
  by_cases hx : t.conn.outstanding = some m.header.hopByHop
  · have hs : t.stir site = t := by simp [stir, hx]
    rw [hs]
    simp only [onDwa, hx, ne_eq, not_true_eq_false, if_false]
    split
    · exact .armIdle (.inl trivial) rfl rfl rfl
    · rename_i hp
      exact .ended (by simpa using hp)
  · obtain ⟨_, _, hd⟩ := duty_stir site t
    have ho : (t.stir site).conn.outstanding = t.conn.outstanding := congrArg Duty.outstanding hd
    have hn : (t.stir site).onDwa site m = t.stir site := by simp [onDwa, ho, hx]
    rw [hn]
    exact dwells_stir

lemma dwells_onPeerMessage (side : Side) (link : Nat) (m : Message) :
    t.Dwells site True (t.onPeerMessage site side link m) := by
  have hs : t.Dwells site True (t.stir site) := dwells_stir
  have rest : ∀ {v : Turn}, Bypass site (fun _ => True) (t.stir site) v →
      t.Dwells site True v := fun hB => hs.rests hB.rests
  rw [onPeerMessage_eq]
  split
  · split
    · exact rest (Bypass.refl.write spans_any side _ (g := .answer) trivial)
    · exact dwells_onDwa m
  · split
    · split
      · exact rest (Bypass.refl.write spans_any side _ (g := .farewell) trivial)
      · exact rest (Bypass.refl.onDpa spans_any)
    · split
      · exact hs.congr rfl rfl rfl rfl
      · exact hs.onAnswer m

/-! ### Events and ends of writes -/

/-- **What an event does to the idle time.** It is postponed by messages that are taken to be the
peer's. -/
theorem dwells_handle (e : Event) :
    t.Dwells site (∃ side link m, e = .received link m ∧ t.Trusts side link m)
      (t.handle site e) := by
  by_cases hq : ∃ side link m, e = .received link m ∧ t.Trusts side link m
  · -- a message from the peer that is trusted
    obtain ⟨side, link, m, rfl, h⟩ := hq
    rw [handle_of_trusts h]
    have hd : t.Dwells site True (t.onPeerMessage site side link m) :=
      dwells_onPeerMessage side link m
    cases hd with
    | kept hg ha ho hs => exact .kept hg ha ho fun _ => hs trivial
    | afresh hg ha _ => exact .afresh hg ha (.inl ⟨side, link, m, rfl, h⟩)
    | ended hu => exact .ended hu
  -- one that opens the connection
  by_cases hi : ∃ link m peer, e = .received link m ∧ t.Introduces site link m peer
  · obtain ⟨link, m, peer, rfl, h⟩ := hi
    exact dwells_of_introduces h
  have hu := handle_upshot_any site t e
  generalize t.handle site e = u at hu
  have hr : t.Dwells site (∃ side link m, e = .received link m ∧ t.Trusts side link m) t := .refl hq
  have trusted : ∀ {side link m}, e = .received link m → t.Trusts side link m → False :=
    fun he h => hq ⟨_, _, _, he, h⟩
  cases hu with
  | bypass hB | fallen hB => exact hr.rests hB.rests
  -- the trusted messages have been dealt with
  | stale => exact hr
  | opened _ h => exact absurd ⟨_, _, _, rfl, h⟩ hi
  | heard h | dispatched h | answered h => exact (trusted rfl h).elim
  | reassured h => exact (trusted rfl h.trusts.choose_spec).elim
  | failed _ k r _ => exact (hr.failExchange k r).congr rfl rfl rfl rfl
  | expired k => exact hr.onExchangeTimeout k
  | refused => exact hr.congr rfl rfl rfl rfl
  | entered j m => exact (hr.enter j m).congr rfl rfl rfl rfl
  | lost => exact .ended (by rw [phase_giveUp]; rfl)
  | probing => exact hr.congr rfl rfl rfl rfl
  | @missed k ho =>
    rw [onWatchdogReply_eq site ho]
    dsimp only
    split
    · -- one request too many was missed
      exact .ended (by rw [phase_giveUp]; rfl)
    · -- the time starts afresh after a miss, for a request was outstanding
      exact .armIdle (.inr (.inl (by simp [ho]))) rfl rfl rfl

/-- **What the end of a write does to the idle time.** It is postponed by requests. -/
theorem dwells_settle {g : Goal} (hp : ∀ peer, g = .accept peer → t.conn.phase.isOpen = false)
    (m : Message) (result : Option Failure) :
    t.Dwells site (result = none ∧ g = .request) (t.settle site g m result) := by
  cases result with
  | some w =>
    have hB : Bypass site (fun _ => True) t (t.settle site g m (some w)) :=
      Bypass.refl.settle_failed (fun _ _ => trivial) m trivial
    exact (Dwells.refl (by simp)).rests hB.rests
  | none =>
    have settled : g.IsSettled →
        t.Dwells site (none = (none : Option Failure) ∧ g = .request) (t.settle site g m none) := by
      intro hg
      have ha : g.IsAside fun _ => True := by cases g <;> first | exact trivial | exact hg.elim
      have hB : Bypass site (fun _ => True) t (t.settle site g m none) :=
        Bypass.refl.settle ha hg m fun _ _ => trivial
      refine (Dwells.refl ?_).rests hB.rests
      rintro ⟨-, rfl⟩
      exact hg
    cases g with
    | accept peer => exact dwells_openAs peer rfl rfl rfl rfl (hp peer rfl)
    | request =>
      unfold settle
      dsimp only
      split
      · exact .armIdle (.inl ⟨rfl, rfl⟩) rfl rfl rfl
      · rename_i ho
        exact .kept rfl rfl id fun _ _ =>
          Option.isSome_iff_ne_none.mpr fun hn => ho (Option.isNone_iff_eq_none.mpr hn)
    | disconnect =>
      refine .ended ?_
      show (t.transition site .closing).conn.phase.isOpen = false
      rw [show (t.transition site .closing).conn.phase = .closing from
        congrArg Shape.phase (shape_transition site t (by simp))]
      rfl
    | probe k => exact .kept rfl (Alarms.inSlot_arm (by simp) _ _ _) id (by simp)
    | _ => exact settled trivial

end Turn

/-! ### Turns of a run -/

namespace Beat

variable {site : Site} {b : Beat}

/-- Traffic that postpones the next watchdog request. -/
inductive Stirs (b : Beat) : Prop
  /-- A message that is taken to be the peer's: in order, from nobody else, and on the stream that
  carries traffic. -/
  | heard {side : Side} {link : Nat} {m : Message} (hi : b.input = .event (.received link m))
    (h : b.begun.Trusts side link m)
  /-- A request has been written. -/
  | asked {w : Writing} (hi : b.input = .written none) (hw : b.conn.writing = some w)
    (hg : w.goal = .request)

/-- The connection is open and no watchdog request unanswered, before the turn and after it. -/
structure Calm (site : Site) (b : Beat) : Prop where
  before : b.conn.phase.isOpen
  after : (b.turn site).conn.phase.isOpen
  spare : b.conn.outstanding = none
  spared : (b.turn site).conn.outstanding = none

lemma dwells (ht : b.conn.Takes b.input) (hp : b.Prompt) :
    b.begun.Dwells site b.Stirs (b.turn site) := by
  cases hi : b.input with
  | event e =>
    have hs : b.Stirs ↔ ∃ side link m, e = .received link m ∧ b.begun.Trusts side link m := by
      constructor
      · -- an event stirs only as a message, for it ends no write
        rintro (⟨hi', h⟩ | ⟨hi', -, -⟩)
        · exact ⟨_, _, _, Input.event.inj (hi.symm.trans hi'), h⟩
        · exact absurd (hi.symm.trans hi') (by simp)
      · rintro ⟨side, link, m, rfl, h⟩
        exact .heard hi h
    rw [turn_event hi, hs]
    exact Turn.dwells_handle e
  | written result =>
    rw [hi] at ht
    cases ht with
    | @written w hw _ =>
      have hs : b.Stirs ↔ result = none ∧ w.goal = .request := by
        constructor
        · -- and the end of a write is no message
          rintro (⟨hi', -⟩ | ⟨hi', hw', hg⟩)
          · exact absurd (hi.symm.trans hi') (by simp)
          · obtain rfl := Option.some.inj (hw.symm.trans hw')
            exact ⟨Input.written.inj (hi.symm.trans hi'), hg⟩
        · rintro ⟨rfl, hg⟩
          exact .asked hi hw hg
      have hph : b.begun.conn.phase = b.conn.phase := congrArg Duty.phase b.duty_begun
      rw [turn_written hi hw, hs]
      let t : Turn := { b.begun with conn.writing := none }
      have hd : t.Dwells site (result = none ∧ w.goal = .request)
          (t.settle site w.goal w.message result) :=
        Turn.dwells_settle (fun peer hg => hph ▸ hp w peer hw hg) w.message result
      cases hd with
      | kept hg ha ho hs => exact .kept hg ha ho hs
      | afresh hg ha hs => exact .afresh hg ha hs
      | ended hu => exact .ended hu

lemma idle_of_probe? (ht : b.conn.Takes b.input) (h : (b.turn site).conn.probe?.isSome) :
    b.input = .event (.watchdogIdle b.conn.generation) ∧ b.conn.phase.isOpen := by
  obtain ⟨w, hw, k, hk⟩ : ∃ w, (b.turn site).conn.writing = some w ∧ ∃ k, w.goal = .probe k := by
    unfold Connection.probe? at h
    split at h
    · exact ⟨_, ‹_›, _, rfl⟩
    · exact absurd h (by simp)
  obtain ⟨e, hi, hu⟩ := utters ht hw
  rw [hk] at hu
  generalize w.message = m at hu
  cases hu with
  | probes ho _ =>
    have hg : b.begun.conn.generation = b.conn.generation := congrArg Duty.generation b.duty_begun
    have hph : b.begun.conn.phase = b.conn.phase := congrArg Duty.phase b.duty_begun
    exact ⟨hg ▸ hi, hph ▸ ho⟩

end Beat

namespace Clockwork

/-- The event does not come before the time: no alarm rings for it before, and it does not wait to
be handled. -/
structure NotBefore (w : Clockwork) (time : Nat) (e : Event) : Prop where
  armed : ∀ a ∈ w.conn.alarms.armed, a.event = e → time ≤ a.due
  queue : e ∈ w.queue → time ≤ w.now

/-- The idle time does not end before it is over since all that has postponed its end. -/
structure Paced (site : Site) (bs : List Beat) (w : Clockwork) : Prop where
  past : ∀ b ∈ bs, b.moment.now ≤ w.now
  rest : w.conn.phase.isOpen → ∀ b ∈ bs, b.Stirs →
    w.NotBefore (b.moment.now + site.settings.watchdogInterval)
      (.watchdogIdle w.conn.generation)

variable {site : Site} {w w₀ : Clockwork} {bs : List Beat} {b : Beat} {expected : Option String}
  {first : Event} {time : Nat} {e e' : Event} {q : List Event}

namespace NotBefore

lemma wait (h : w.NotBefore time e) (ms : Nat) :
    NotBefore { w with now := w.now + ms } time e :=
  ⟨h.armed, fun hq => Nat.le_trans (h.queue hq) (Nat.le_add_right _ _)⟩

lemma post (h : w.NotBefore time e) (he : e ≠ e') :
    NotBefore { w with queue := w.queue ++ [e'] } time e := by
  refine ⟨h.armed, fun hq => h.queue ?_⟩
  simpa [he] using hq

lemma ring (h : w.NotBefore time e) {a : Alarm AlarmSlot Event} (ha : a ∈ w.conn.alarms.armed)
    (hd : a.due ≤ w.now) :
    NotBefore { w with
      conn := { w.conn with alarms := w.conn.alarms.cancel a.slot }
      queue := w.queue ++ [a.event] } time e := by
  refine ⟨fun x hx => h.armed x (List.mem_filter.mp hx).1, fun hq => ?_⟩
  rcases List.mem_append.mp hq with hq | hq
  · exact h.queue hq
  · exact Nat.le_trans (h.armed a ha (List.mem_singleton.mp hq).symm) hd

lemma turn {g : Nat} (h : w.NotBefore time (.watchdogIdle g)) (hq : q ⊆ w.queue)
    {c : Connection} (hs : c.alarms.Sorted)
    (ha : c.alarms.inSlot .idle = w.conn.alarms.inSlot .idle) :
    NotBefore ⟨c, w.now, q⟩ time (.watchdogIdle g) := by
  refine ⟨fun a hm he => h.armed a ?_ he, fun hm => h.queue (hq hm)⟩
  have hi : a ∈ c.alarms.inSlot .idle :=
    Alarms.mem_inSlot.mpr ⟨hm, Option.some.inj ((hs a hm).symm.trans (he ▸ rfl))⟩
  rw [ha] at hi
  exact (Alarms.mem_inSlot.mp hi).1

end NotBefore

namespace Paced

lemma turn (h : w.Paced site bs) (hw : w.Sound expected) (hc : b.conn = w.conn)
    (hn : b.moment.now = w.now) (ht : b.conn.Takes b.input) (hq : q ⊆ w.queue)
    (hs : Sound expected ⟨(b.turn site).conn, w.now, q⟩) :
    Paced site (bs ++ [b]) ⟨(b.turn site).conn, w.now, q⟩ := by
  obtain ⟨n, s, hsh, hsound⟩ := hw.stage
  have hp : b.Prompt := (Stage.prompt (hc ▸ hsh) hsound ht).2
  have hd : b.begun.conn.duty = w.conn.duty := hc ▸ b.duty_begun
  have past : ∀ d ∈ bs ++ [b], d.moment.now ≤ w.now := by
    intro d hm
    rcases List.mem_append.mp hm with hm | hm
    · exact h.past d hm
    · rw [List.mem_singleton.mp hm, hn]
  have sorted : (b.turn site).conn.alarms.Sorted := hs.watched.timed.sorted
  refine ⟨past, fun ho d hm hst => ?_⟩
  dsimp only at ho ⊢
  have hdw : b.begun.Dwells site b.Stirs (b.turn site) := b.dwells ht hp
  cases hdw with
  | kept hg ha ho' hstir =>
    have hg' : (b.turn site).conn.generation = w.conn.generation :=
      hg.trans (congrArg Duty.generation hd)
    have ha' : (b.turn site).conn.alarms.inSlot .idle = w.conn.alarms.inSlot .idle :=
      ha.trans (congrArg (fun d : Duty => d.alarms.inSlot .idle) hd)
    by_cases hb : b.Stirs
    · -- A watchdog request is unanswered, so the end of no idle time is upcoming.
      have hx : (b.turn site).conn.duty.outstanding ≠ none :=
        Option.isSome_iff_ne_none.mp (hstir hb ho)
      have hz : .watchdogIdle (b.turn site).conn.generation ∉
          (b.turn site).conn.alarms.upcoming q :=
        fun hi => Duty.idles_ne_zero.mpr hi (hs.watched.busy ho (.inl hx))
      refine ⟨fun a ha he => absurd ?_ hz, fun hi => absurd (List.mem_append_right _ hi) hz⟩
      exact List.mem_append_left _ (he ▸ List.mem_map_of_mem ha)
    · -- nothing has stirred, so what was so far still holds
      have hm' : d ∈ bs := by
        rcases List.mem_append.mp hm with hm | hm
        · exact hm
        · exact absurd (List.mem_singleton.mp hm ▸ hst) hb
      have hph : b.begun.conn.phase = w.conn.phase := congrArg Duty.phase hd
      have hw' : w.conn.phase.isOpen := hph ▸ ho' ho
      rw [hg']
      exact (h.rest hw' d hm' hst).turn hq sorted ha'
  | afresh hg ha _ =>
    -- the one alarm there is was set now
    refine ⟨fun a hm' he => ?_, fun hi => ?_⟩
    · have hi : a ∈ (b.turn site).conn.alarms.inSlot .idle :=
        Alarms.mem_inSlot.mpr ⟨hm', Option.some.inj ((sorted a hm').symm.trans (he ▸ rfl))⟩
      rw [ha, List.mem_singleton] at hi
      rw [hi]
      exact Nat.add_le_add_right (Nat.le_trans (past d hm) hn.ge) _
    · -- What waits to be handled is of an earlier arming.
      have hg' : (b.turn site).conn.generation = w.conn.generation + 1 :=
        hg.trans (congrArg (fun d : Duty => d.generation + 1) hd)
      rw [hg'] at hi
      have hl := hw.watched.timed.past _ (List.mem_append_right _ (hq hi))
      exact absurd hl (Nat.not_succ_le_self _)
  | ended hu => exact absurd ho (by simp [hu])

end Paced

namespace Chronicle

lemma paced (h : Chronicle site (fresh expected first) bs w) (hf : first.IsOpening) :
    w.Paced site bs := by
  induction h with
  | begin => exact ⟨by simp, by simp⟩
  | wait _ ms ih =>
    exact ⟨fun b hb => Nat.le_trans (ih.past b hb) (Nat.le_add_right _ _),
      fun ho b hb hs => (ih.rest ho b hb hs).wait ms⟩
  | post _ e he ih =>
    refine ⟨ih.past, fun ho b hb hs => (ih.rest ho b hb hs).post ?_⟩
    rintro rfl
    exact absurd he (by simp [Event.slot?])
  | ring _ ha hd ih => exact ⟨ih.past, fun ho b hb hs => (ih.rest ho b hb hs).ring ha hd⟩
  | own h hc hn ht hi ih =>
    exact ih.turn (h.reached.sound hf) hc hn ht (List.Subset.refl _)
      ((h.own hc hn ht hi).reached.sound hf)
  | take h hc hn hi hq hb ht ih =>
    refine ih.turn (h.reached.sound hf) hc hn ?_ (by simp [hq])
      ((h.take hc hn hi hq hb ht).reached.sound hf)
    rw [hb] at ht ⊢
    exact .queued ht hi

end Chronicle

end Clockwork

/-- What the turns of a connection, each with its time, do to the end of the idle time. -/
structure Postpones (site : Site) (bs : List Beat) : Prop where
  /-- After a message that is taken to be the peer's, and after a request has been written, the
  alarm rings a full watchdog interval later. -/
  rearmed : ∀ b ∈ bs, b.Calm site → b.Stirs → (b.turn site).conn.alarms.inSlot .idle =
    [⟨.idle, b.moment.now + site.settings.watchdogInterval, b.moment.serial,
      .watchdogIdle (b.turn site).conn.generation⟩]
  /-- After anything else it rings when it would have. -/
  kept : ∀ b ∈ bs, b.Calm site → ¬ b.Stirs →
    (b.turn site).conn.generation = b.conn.generation ∧
      (b.turn site).conn.alarms.inSlot .idle = b.conn.alarms.inSlot .idle
  /-- No watchdog request begins to be written while less than the watchdog interval has passed
  since the last that has postponed it. -/
  paced : ∀ as b ds, bs = as ++ b :: ds → (b.turn site).conn.probe?.isSome → ∀ a ∈ as, a.Stirs →
    a.moment.now + site.settings.watchdogInterval ≤ b.moment.now

namespace Clockwork

variable {site : Site} {w : Clockwork} {bs : List Beat} {expected : Option String} {first : Event}

/-- **What postpones the watchdog**: requests that are written and messages that are taken to be the
peer's, and nothing else. -/
theorem Chronicle.postpones (h : Chronicle site (fresh expected first) bs w)
    (hf : first.IsOpening) : Postpones site bs := by
  have turned : ∀ b ∈ bs, b.begun.Dwells site b.Stirs (b.turn site) := by
    intro b hb
    obtain ⟨as, ds, rfl⟩ := List.append_of_mem hb
    obtain ⟨v, hv, hc, -, ht, -⟩ := h.before
    obtain ⟨n, s, hs, hsound⟩ := (hv.reached.sound hf).stage
    exact b.dwells ht (Stage.prompt (hc ▸ hs) hsound ht).2
  refine ⟨fun b hb hc hs => ?_, fun b hb hc hs => ?_, ?_⟩
  · -- what stirs while the watchdog has time to spare starts the idle time afresh
    cases turned b hb with
    | kept _ _ _ ho => exact absurd (ho hs hc.after) (by simp [hc.spared])
    | afresh hg ha _ =>
      rw [hg]
      exact ha
    | ended hu => exact absurd hc.after (by simp [hu])
  · -- what does not stir leaves it alone
    have hd := b.duty_begun
    cases turned b hb with
    | kept hg ha _ _ =>
      exact ⟨hg.trans (congrArg Duty.generation hd),
        ha.trans (congrArg (fun d : Duty => d.alarms.inSlot .idle) hd)⟩
    | afresh _ _ hw =>
      have ho : b.begun.conn.outstanding = b.conn.outstanding := congrArg Duty.outstanding hd
      have hp : b.begun.conn.phase = b.conn.phase := congrArg Duty.phase hd
      rw [ho, hp, hc.spare] at hw
      rcases hw with hw | hw | hw
      · exact absurd hw hs
      · exact absurd hw (by simp)
      · exact absurd hc.before (by simp [hw])
    | ended hu => exact absurd hc.after (by simp [hu])
  · -- a request goes out only when the idle time is over
    rintro as b ds rfl hp a ha hs
    obtain ⟨v, hv, hc, hn, ht, hq⟩ := h.before
    obtain ⟨hi, ho⟩ := Beat.idle_of_probe? ht hp
    have hr := (hv.paced hf).rest (hc ▸ ho) a ha hs
    rw [← hc] at hr
    rcases hq with hq | ⟨e, rest, hq, he⟩
    · -- the end of the idle time is no event of the connection's own
      exact absurd ((hv.reached.sound hf).slot?_own hc ht hq hi) (by simp [Event.slot?])
    · rw [hn]
      refine hr.queue ?_
      rw [hq, ← Input.event.inj (he.symm.trans hi)]
      exact List.mem_cons_self

/-- A connection opens and sends a request six seconds later, which nobody answers. Its watchdog
request goes out a full watchdog interval after that. -/
theorem Chronicle.postpones_asked :
    let site : Site := ⟨Node.plain "a", {}⟩
    let w₀ := fresh none (.acceptedCer 0 ((Node.plain "b").cer {}).1)
    let r := w₀.acts site [.own, .written none, .wait 6000, .post (.send 7 (.request 272 4)), .take,
      .written none, .wait site.settings.watchdogInterval, .ring, .take, .ring, .take]
    Chronicle site w₀ r.1 r.2 ∧ r.1.map (·.moment.now) = [0, 0, 6000, 6000, 36000, 36000] ∧
      r.2.conn.probe?.isSome ∧ Postpones site r.1 := by
  intro site w₀ r
  have h : Chronicle site w₀ r.1 r.2 := .told (by decide +kernel)
  exact ⟨h, by decide +kernel, by decide +kernel, h.postpones trivial⟩

/-- A connection opens, reads a request six seconds later that cannot be understood, and complains
of it. Its watchdog request goes out when the idle time ends that began with the opening. -/
theorem probes_after_complaint :
    let site : Site := ⟨Node.plain "a", {}⟩
    let w₀ := fresh none (.acceptedCer 0 ((Node.plain "b").cer {}).1)
    let read : Event := .receivedInvalid 1 (.request 272 4) (.invalidAvp 263 .badLength)
    let r := w₀.acts site [.own, .written none, .wait 6000, .post read, .take]
    let b := r.2.beat (.written none)
    let s := (r.2.act site (.written none)).2.acts site [.wait 24000, .ring, .take]
    Chronicle site w₀ (r.1 ++ b :: s.1) s.2 ∧ site.settings.watchdogInterval = 30000 ∧
      b.Calm site ∧ b.moment.now = 6000 ∧
      ((b.turn site).conn.alarms.inSlot .idle).map (·.due) = [30000] ∧
      s.2.now = 30000 ∧ s.2.conn.probe?.isSome := by
  intro site w₀ read r b s
  have h₁ : Chronicle site w₀ r.1 r.2 := .told (by decide +kernel)
  have h₂ : Chronicle site w₀ (r.1 ++ [b]) (r.2.act site (.written none)).2 :=
    h₁.act (a := .written none) (by decide +kernel)
  have h₃ : Chronicle site w₀ (r.1 ++ b :: s.1) s.2 := by
    rw [List.append_cons]
    exact h₂.acts (by decide +kernel)
  refine ⟨h₃, rfl, ?_, by decide +kernel, by decide +kernel, by decide +kernel, by decide +kernel⟩
  exact ⟨by decide +kernel, by decide +kernel, by decide +kernel, by decide +kernel⟩

end Clockwork

end Diameter
