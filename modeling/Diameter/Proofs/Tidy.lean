import Diameter.Proofs.Pending
import Diameter.Proofs.Run
import Diameter.Proofs.Watch

/-!
No alarm outlives what it was armed for.

The alarm of a request is armed only while the request is pending, and a connection that is shut
down has neither requests nor alarms; each alarm rings for what its slot is for (`Duty.Tidy`). Every
move that arms an alarm is taken before the shutdown. Main statement: `Connection.Run.tidy`.
-/

namespace Diameter

/-- Alarms of requests are armed for pending ones only, none is armed after the shutdown, and each
rings for what its slot is for. -/
structure Duty.Tidy (d : Duty) : Prop where
  sorted : d.alarms.Sorted
  owned : ∀ a ∈ d.alarms.armed, ∀ k, a.slot = .exchange k → k ∈ d.pending.keys
  ended : d.phase = .shutdown → d.alarms.armed = [] ∧ d.pending = {}

namespace Duty.Tidy

variable {d : Duty}

lemma shrink (h : d.Tidy) {alarms : Alarms AlarmSlot Event}
    (ha : alarms.armed.Sublist d.alarms.armed) : Duty.Tidy { d with alarms := alarms } where
  sorted := h.sorted.sublist ha
  owned a hm := h.owned a (ha.subset hm)
  ended hp := ⟨List.sublist_nil.mp ((h.ended hp).1 ▸ ha), (h.ended hp).2⟩

lemma arm (h : d.Tidy) (hp : d.phase ≠ .shutdown) {slot : AlarmSlot}
    (hs : ∀ k, slot = .exchange k → k ∈ d.pending.keys) (due serial : Nat) {event : Event}
    (he : event.slot? = some slot) :
    Duty.Tidy { d with alarms := d.alarms.arm slot due serial event } where
  sorted := h.sorted.arm he due serial
  owned := by
    intro a ha k hk
    rcases List.mem_append.mp ha with ha | ha
    · exact h.owned a (List.mem_filter.mp ha).1 k hk
    · obtain rfl := List.mem_singleton.mp ha
      exact hs k hk
  ended hq := absurd hq hp

lemma erase (h : d.Tidy) (k : UInt32) :
    Duty.Tidy { d with
      pending := d.pending.erase k, alarms := d.alarms.cancel (.exchange k) } where
  sorted := h.sorted.sublist List.filter_sublist
  owned := by
    intro a ha l hl
    obtain ⟨ha, hne⟩ := List.mem_filter.mp ha
    have hkl : l ≠ k := by
      rintro rfl
      simp [hl] at hne
    obtain ⟨x, hx, rfl⟩ := List.mem_map.mp (h.owned a ha l hl)
    exact List.mem_map_of_mem (List.mem_filter.mpr ⟨hx, by simpa using hkl⟩)
  ended hp := by
    obtain ⟨ha, hq⟩ := h.ended hp
    exact ⟨by simp [Alarms.cancel, ha], by simp [hq, Pending.erase]⟩

lemma insert (h : d.Tidy) (hp : d.phase ≠ .shutdown) (x : Exchange) (due serial : Nat)
    {event : Event} (he : event.slot? = some (.exchange x.key)) :
    Duty.Tidy { d with
      pending := (d.pending.insert x).2
      alarms := d.alarms.arm (.exchange x.key) due serial event } where
  sorted := h.sorted.arm he due serial
  owned := by
    intro a ha l hl
    rw [Pending.insert, Pending.keys, List.map_append, List.mem_append]
    rcases List.mem_append.mp ha with ha | ha
    · exact .inl ((h.erase x.key).owned a ha l hl)
    · obtain rfl := List.mem_singleton.mp ha
      obtain rfl : x.key = l := by simpa using hl
      exact .inr (by simp)
  ended hq := absurd hq hp

end Duty.Tidy

namespace Turn

variable {site : Site} {A : Failure → Prop} {t u : Turn} {e : Event}

/-! ### The shutdown -/

lemma mem_armed_foldl_disarm (t : Turn) (xs : List Exchange) (a : Alarm AlarmSlot Event) :
    a ∈ (xs.foldl (fun t x => t.disarm (.exchange x.key)) t).conn.alarms.armed ↔
      a ∈ t.conn.alarms.armed ∧ ∀ x ∈ xs, a.slot ≠ .exchange x.key := by
  induction xs generalizing t with
  | nil => simp
  | cons x xs ih =>
    rw [List.foldl_cons, ih]
    simp [disarm, Alarms.cancel, and_assoc]

lemma armed_teardown (site : Site)
    (h : ∀ a ∈ t.conn.alarms.armed, ∀ k, a.slot = .exchange k → k ∈ t.conn.pending.keys) :
    (t.teardown site).conn.alarms.armed = [] := by
  let v := t.stopDialing.dropStreams
  let u : Turn := ((v.disarm .idle).disarm .reply).disarm .close
  have hv : v.conn.duty = t.conn.duty := by simp [v]
  have ha : v.conn.alarms = t.conn.alarms := congrArg Duty.alarms hv
  have hp : u.conn.pending = t.conn.pending := congrArg Duty.pending hv
  refine List.eq_nil_iff_forall_not_mem.mpr fun a hm => ?_
  obtain ⟨hu, hx⟩ := (mem_armed_foldl_disarm u u.conn.pending.entries a).mp hm
  simp only [u, disarm, Alarms.cancel, List.mem_filter, ha, decide_eq_true_eq] at hu
  obtain ⟨⟨⟨hm, hi⟩, hr⟩, hc⟩ := hu
  cases hs : a.slot with
  | exchange k =>
    obtain ⟨x, hxm, rfl⟩ := List.mem_map.mp (h a hm k hs)
    exact hx x (hp ▸ hxm) hs
  | idle => exact hi hs
  | reply => exact hr hs
  | close => exact hc hs

lemma tidy_fall (h : t.conn.duty.Tidy) : (t.transition site .shutdown).conn.duty.Tidy := by
  by_cases hp : t.conn.phase = .shutdown
  · rw [transition_of_phase site t hp]
    exact h
  · have hf : ∀ u : Turn, u.conn.alarms = t.conn.alarms → u.conn.pending = t.conn.pending →
        (u.teardown site).conn.duty.Tidy := by
      intro u ha hq
      have hn := armed_teardown site (t := u) (by rw [ha, hq]; exact h.owned)
      have none_of : ∀ a, a ∉ (u.teardown site).conn.alarms.armed := fun a hm =>
        absurd (hn ▸ hm : a ∈ []) (by simp)
      exact ⟨fun a hm => absurd hm (none_of a), fun a hm => absurd hm (none_of a),
        fun _ => ⟨hn, rfl⟩⟩
    rw [transition, if_neg hp]
    exact hf _ rfl rfl

lemma tidy_transition (h : t.conn.duty.Tidy) (p : Phase) :
    (t.transition site p).conn.duty.Tidy := by
  by_cases hs : p = .shutdown
  · subst hs
    exact tidy_fall h
  · by_cases hc : p = .closing
    · subst hc
      by_cases hp : t.conn.phase = .closing
      · rw [transition_of_phase site t hp]
        exact h
      · rw [duty_transition_closing site hp]
        exact ⟨(h.sorted.sublist List.filter_sublist).sublist List.filter_sublist,
          fun a ha => h.owned a (List.mem_filter.mp (List.mem_filter.mp ha).1).1,
          fun hq => absurd hq (by simp)⟩
    · rw [duty_transition site t hs hc]
      exact ⟨h.sorted, h.owned, fun hq => absurd hq hs⟩

lemma tidy_giveUp (h : t.conn.duty.Tidy) (e : Failure) : (t.giveUp site e).conn.duty.Tidy :=
  tidy_fall (t := t.report e) h

lemma tidy_armIdle (h : t.conn.duty.Tidy) (hp : t.conn.phase ≠ .shutdown) :
    (t.armIdle site).conn.duty.Tidy :=
  Duty.Tidy.arm (d := { t.conn.duty with generation := t.conn.generation + 1 })
    ⟨h.sorted, h.owned, h.ended⟩ hp (by simp) _ _ rfl

lemma tidy_stir (h : t.conn.duty.Tidy) : (t.stir site).conn.duty.Tidy := by
  unfold stir
  split
  · rename_i hc
    refine tidy_armIdle h fun hp => ?_
    simp [hp, Phase.isOpen] at hc
  · exact h

/-- Moves that leave requests and alarms alone keep them tidy. -/
lemma Bypass.tidy (h : Bypass site A t u) (ht : t.conn.duty.Tidy) : u.conn.duty.Tidy := by
  induction h with
  | refl => exact ht
  | adjust _ _ hd _ ih => exact hd ▸ ih
  | emit _ _ ih | report _ _ ih => exact ih
  | transition _ _ ih => exact tidy_transition ih _
  | part _ ih => exact tidy_fall (tidy_transition ih _)
  | begin _ _ ih => exact ⟨ih.sorted, ih.owned, ih.ended⟩

/-! ### Opening and requests -/

lemma tidy_openAs (h : t.conn.duty.Tidy) (peer : PeerIdentity) {p : Phase} (hp : p.isOpen) :
    (t.openAs site peer p).conn.duty.Tidy := by
  obtain ⟨due, serial, hd⟩ := duty_openAs site t peer hp
  have hn : p ≠ .shutdown := by
    rintro rfl
    exact absurd hp (by decide)
  rw [hd]
  exact Duty.Tidy.arm (d := { t.conn.duty with
    phase := p, failures := 0, outstanding := none, generation := t.conn.generation + 1 })
    ⟨h.sorted, h.owned, fun hq => absurd hq hn⟩ hn (by simp) due serial rfl

lemma tidy_complete (h : t.conn.duty.Tidy) {k : UInt32} {x : Exchange}
    (hx : t.conn.pending.find? k = some x) (c : Completion) :
    (t.complete x c (t.conn.pending.erase k)).conn.duty.Tidy := by
  rw [← Pending.key_of_find? hx]
  exact h.erase x.key

lemma tidy_failExchange (h : t.conn.duty.Tidy) (k : UInt32) (r : ResultCode) :
    (t.failExchange site k r).conn.duty.Tidy := by
  cases hx : t.conn.pending.find? k with
  | none =>
    have hf : t.failExchange site k r = t := by simp [failExchange, Pending.fail, hx]
    rw [hf]
    exact h
  | some x =>
    simp only [failExchange, Pending.fail, hx, Option.map_some, conn_note]
    exact tidy_complete h hx _

lemma tidy_onExchangeTimeout (h : t.conn.duty.Tidy) (k : UInt32) :
    (t.onExchangeTimeout site k).conn.duty.Tidy := by
  cases hx : t.conn.pending.find? k with
  | none =>
    have hf : t.onExchangeTimeout site k = t := by
      simp [onExchangeTimeout, Pending.expire, Pending.fail, hx]
    rw [hf]
    exact h
  | some x =>
    simp only [onExchangeTimeout, Pending.expire, Pending.fail, hx, Option.map_some, conn_note]
    exact tidy_complete h hx _

lemma tidy_onAnswer (h : t.conn.duty.Tidy) (m : Message) : (t.onAnswer m).conn.duty.Tidy := by
  cases hx : t.conn.pending.find? m.header.hopByHop with
  | none =>
    simp only [onAnswer, Pending.resolve, hx, conn_report]
    exact h
  | some x =>
    simp only [onAnswer, Pending.resolve, hx, conn_note]
    exact tidy_complete h hx _

lemma tidy_enter (h : t.conn.duty.Tidy) (hp : t.conn.phase ≠ .shutdown) (waiter : Nat)
    (request : Message) : (t.enter site waiter request).conn.duty.Tidy := by
  rw [duty_enter]
  exact h.insert hp _ _ _ rfl

/-! ### The watchdog -/

lemma tidy_onDwa (h : t.conn.duty.Tidy) (m : Message) : (t.onDwa site m).conn.duty.Tidy := by
  unfold onDwa
  split
  · exact h
  · let v : Turn := { t with conn.outstanding := none, conn.failures := 0 }.disarm .reply
    have hv : v.conn.duty.Tidy :=
      Duty.Tidy.shrink (d := { t.conn.duty with outstanding := none, failures := 0 })
        ⟨h.sorted, h.owned, h.ended⟩ List.filter_sublist
    show (if v.conn.phase.isOpen then v.armIdle site else v).conn.duty.Tidy
    split
    · rename_i ho
      refine tidy_armIdle hv fun hp => ?_
      simp [hp, Phase.isOpen] at ho
    · exact hv

lemma tidy_onWatchdogReply (h : t.conn.duty.Tidy) (hp : t.conn.phase ≠ .shutdown)
    {hopByHop : UInt32} (ho : t.conn.outstanding = some hopByHop) :
    (t.onWatchdogReply site hopByHop).conn.duty.Tidy := by
  let v : Turn := { t with conn.outstanding := none, conn.failures := t.conn.failures + 1 }
  have hv : v.conn.duty.Tidy := ⟨h.sorted, h.owned, h.ended⟩
  rw [onWatchdogReply_eq site ho]
  dsimp only
  split
  · exact tidy_giveUp hv _
  · exact tidy_armIdle hv hp

/-! ### Turns -/

/-- Handling an event keeps requests and alarms tidy. -/
lemma Upshot.tidy (hu : Upshot site A t e u) (h : t.conn.duty.Tidy)
    (hp : t.conn.phase ≠ .shutdown) : u.conn.duty.Tidy := by
  cases hu with
  | bypass hb | fallen hb => exact hb.tidy h
  | stale => exact h
  | opened hb => exact tidy_openAs (hb.tidy h) _ rfl
  | heard _ hb => exact hb.tidy (tidy_stir h)
  | dispatched => exact tidy_stir h
  | reassured => exact tidy_onDwa h _
  | answered => exact tidy_onAnswer (tidy_stir h) _
  | failed _ k r => exact tidy_failExchange h k r
  | expired k => exact tidy_onExchangeTimeout h k
  | refused => exact h
  | entered j m link deadline =>
    have he : (t.enter site j m).conn.duty.Tidy := tidy_enter h hp j m
    exact ⟨he.sorted, he.owned, he.ended⟩
  | lost j m => exact tidy_giveUp (tidy_enter h hp j m) _
  | probing => exact ⟨h.sorted, h.owned, h.ended⟩
  | missed ho => exact tidy_onWatchdogReply h hp ho

lemma settle_tidy (h : t.conn.duty.Tidy) (hp : t.conn.phase ≠ .shutdown) (g : Goal) (m : Message)
    (result : Option Failure) : (t.settle site g m result).conn.duty.Tidy := by
  have aside : g.IsAside (fun _ => True) → g.IsSettled →
      (t.settle site g m result).conn.duty.Tidy := fun ha hs =>
    (Bypass.refl.settle ha hs m fun _ _ => trivial).tidy h
  cases result with
  | some w => exact (Bypass.refl.settle_failed (A := fun _ => True) (fun _ _ => trivial) m
      (w := w) trivial).tidy h
  | none =>
    cases g with
    | accept peer => exact tidy_openAs h peer rfl
    | request =>
      unfold settle
      dsimp only
      split
      · exact tidy_armIdle (t := t.note _) h hp
      · exact h
    | disconnect =>
      have hc : (t.transition site .closing).conn.phase = .closing := by
        exact congrArg Shape.phase (shape_transition site t (by decide))
      exact (tidy_transition h .closing).arm (by simp [Connection.duty, hc]) (by simp) _ _ rfl
    | probe hopByHop =>
      exact Duty.Tidy.arm (d := { t.conn.duty with outstanding := some hopByHop })
        ⟨h.sorted, h.owned, h.ended⟩ hp (by simp) _ _ rfl
    | _ => exact aside trivial trivial

end Turn

/-! ### Runs -/

variable {site : Site} {expected : Option String} {first : Event} {bs : List Beat} {b : Beat}
  {c : Connection}

lemma Connection.Run.phase_ne_shutdown (h : Run site (fresh expected first) bs b.conn)
    (hf : first.IsOpening) (ht : b.conn.Takes b.input) : b.conn.phase ≠ .shutdown := by
  cases hi : b.input with
  | event e =>
    rw [hi] at ht
    cases ht with
    | internal ha _ | queued ha _ => exact ha.1
  | written result =>
    intro hp
    obtain ⟨n, q, cached, hc⟩ := h.shape_of_shutdown hf hp
    have hn : b.conn.writing = none := congrArg Shape.writing hc
    rw [hi] at ht
    cases ht with
    | written hw => exact absurd (hn.symm.trans hw) (by simp)

/-- One turn keeps requests and alarms tidy. -/
lemma Beat.tidy (ht : b.conn.Takes b.input) (hp : b.conn.phase ≠ .shutdown)
    (h : b.conn.duty.Tidy) : (b.turn site).conn.duty.Tidy := by
  cases hi : b.input with
  | event e =>
    have hu := Turn.handle_upshot_any site b.begun e
    have hb : b.begun.conn.phase = b.conn.phase := congrArg Duty.phase b.duty_begun
    rw [Beat.turn_event hi]
    exact hu.tidy (b.duty_begun ▸ h) (hb ▸ hp)
  | written result =>
    rw [hi] at ht
    cases ht with
    | @written w hw _ =>
      have hb : b.begun.conn = b.conn := by
        rw [Beat.begun, hi]
        rfl
      rw [Beat.turn_written hi hw]
      refine Turn.settle_tidy ?_ ?_ w.goal w.message result
      · show Duty.Tidy { b.begun.conn.duty with probe := _ }
        rw [hb]
        exact ⟨h.sorted, h.owned, h.ended⟩
      · show b.begun.conn.phase ≠ .shutdown
        rwa [hb]

/-- **No alarm outlives what it was armed for**, and none the connection. -/
theorem Connection.Run.tidy (h : Run site (fresh expected first) bs c) (hf : first.IsOpening) :
    c.duty.Tidy := by
  induction h with
  | nil =>
    exact ⟨by simp [fresh, duty, Alarms.Sorted], by simp [fresh, duty], by simp [fresh, duty]⟩
  | ring _ time ih => exact ih.shrink (Alarms.sublist_ringAll _ time)
  | turn h ht ih => exact Beat.tidy ht (h.phase_ne_shutdown hf ht) ih

end Diameter
