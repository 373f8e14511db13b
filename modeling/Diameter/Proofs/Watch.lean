import Mathlib.Data.List.Count
import Mathlib.Data.List.Nodup
import Diameter.Proofs.EventHandling

/-!
The alarms that a connection must not be without.

What is upcoming is what armed alarms ring for, and what waits to be handled. While a connection
is open, either the next watchdog request is upcoming, and only one, or the end of the wait for an
answer to the last. While it parts, the end of that is upcoming. A pending request always has its
end upcoming. `Duty.Watched` says so, and the lemmas on it say what may happen to a duty that way.
-/

namespace Diameter

/-- The slot of the alarms that ring for an event. -/
def Event.slot? : Event → Option AlarmSlot
  | .watchdogIdle _ => some .idle
  | .watchdogReply _ => some .reply
  | .closeTimeout => some .close
  | .exchangeTimeout hopByHop => some (.exchange hopByHop)
  | _ => none

/-- The end of the idle time that this arming has begun. -/
def Event.isIdle (generation : Nat) : Event → Bool
  | .watchdogIdle g => g = generation
  | _ => false

lemma Event.IsNews.slot? {e : Event} (h : e.IsNews) : e.slot? = none := by
  cases e <;> first | rfl | exact h.elim

lemma Event.isIdle_of_slot? {e : Event} (h : e.slot? ≠ some .idle) (g : Nat) :
    e.isIdle g = false := by
  cases e <;> first | rfl | exact absurd rfl h

namespace Alarms

/-- What armed alarms ring for, and what waits to be handled. -/
def upcoming {σ ε : Type} (s : Alarms σ ε) (queue : List ε) : List ε :=
  s.armed.map (·.event) ++ queue

/-- Each alarm is in the slot of what it rings for. -/
def Sorted (s : Alarms AlarmSlot Event) : Prop := ∀ a ∈ s.armed, a.event.slot? = some a.slot

variable {s s' : Alarms AlarmSlot Event} {q : List Event} {slot : AlarmSlot} {e : Event} {g : Nat}

lemma upcoming_subset (h : s'.armed.Sublist s.armed) : s'.upcoming q ⊆ s.upcoming q := by
  intro e he
  rcases List.mem_append.mp he with he | he
  · exact List.mem_append_left _ ((h.map _).subset he)
  · exact List.mem_append_right _ he

lemma mem_upcoming_cancel (hs : s.Sorted) (he : e ∈ s.upcoming q) (hn : e.slot? ≠ some slot) :
    e ∈ (s.cancel slot).upcoming q := by
  rcases List.mem_append.mp he with he | he
  · obtain ⟨a, ha, rfl⟩ := List.mem_map.mp he
    refine List.mem_append_left _ (List.mem_map_of_mem (List.mem_filter.mpr ⟨ha, ?_⟩))
    have hne : a.slot ≠ slot := by
      rintro rfl
      exact hn (hs a ha)
    simpa using hne
  · exact List.mem_append_right _ he

lemma mem_upcoming_cons {x : Event} : x ∈ s.upcoming (e :: q) ↔ x = e ∨ x ∈ s.upcoming q := by
  simp only [upcoming, List.mem_append, List.mem_cons]
  tauto

lemma mem_upcoming_arm {due serial : Nat} {event : Event} :
    e ∈ (s.arm slot due serial event).upcoming q ↔ e = event ∨ e ∈ (s.cancel slot).upcoming q := by
  simp only [upcoming, arm, List.map_append, List.map_cons, List.map_nil, List.mem_append,
    List.mem_singleton]
  tauto

lemma Sorted.sublist (hs : s.Sorted) (h : s'.armed.Sublist s.armed) : s'.Sorted :=
  fun a ha => hs a (h.subset ha)

lemma Sorted.arm (hs : s.Sorted) {event : Event} (he : event.slot? = some slot)
    (due serial : Nat) : (s.arm slot due serial event).Sorted := by
  intro a ha
  rcases List.mem_append.mp ha with ha | ha
  · exact hs a (List.mem_filter.mp ha).1
  · obtain rfl := List.mem_singleton.mp ha
    exact he

lemma perm_upcoming_cancel (h : (s.armed.map (·.slot)).Nodup) {a : Alarm AlarmSlot Event}
    (ha : a ∈ s.armed) : ((s.cancel a.slot).upcoming (q ++ [a.event])).Perm (s.upcoming q) := by
  have hp : (s.armed.map (·.event)).Perm (a.event :: (s.cancel a.slot).armed.map (·.event)) :=
    (perm_cancel h ha).map _
  have hq : (s.cancel a.slot).upcoming (q ++ [a.event]) =
      (s.cancel a.slot).upcoming q ++ [a.event] := (List.append_assoc _ _ _).symm
  rw [hq]
  exact (List.perm_append_singleton _ _).trans (hp.symm.append_right q)

lemma countP_upcoming_cancel (hs : s.Sorted) (hi : slot ≠ .idle) :
    ((s.cancel slot).upcoming q).countP (·.isIdle g) = (s.upcoming q).countP (·.isIdle g) := by
  have ha : ((s.cancel slot).armed.map (·.event)).countP (·.isIdle g) =
      (s.armed.map (·.event)).countP (·.isIdle g) := by
    rw [List.countP_map, List.countP_map, cancel, List.countP_filter]
    refine List.countP_congr fun a ha => ?_
    have hn : a.event.isIdle g = true → a.slot ≠ slot := by
      rintro he rfl
      have hx := Event.isIdle_of_slot? (e := a.event) (by rw [hs a ha]; simpa using hi) g
      rw [hx] at he
      exact absurd he (by decide)
    simp only [Function.comp_apply, Bool.and_eq_true, decide_eq_true_eq]
    exact ⟨fun h => h.1, fun h => ⟨h, hn h⟩⟩
  rw [upcoming, upcoming, List.countP_append, List.countP_append, ha]

lemma countP_upcoming_cons :
    (s.upcoming (e :: q)).countP (·.isIdle g) =
      (s.upcoming q).countP (·.isIdle g) + if e.isIdle g then 1 else 0 := by
  simp only [upcoming, List.countP_append, List.countP_cons]
  omega

lemma countP_upcoming_arm (due serial : Nat) (event : Event) :
    ((s.arm slot due serial event).upcoming q).countP (·.isIdle g) =
      ((s.cancel slot).upcoming q).countP (·.isIdle g) + if event.isIdle g then 1 else 0 := by
  simp only [upcoming, arm, List.map_append, List.map_cons, List.map_nil, List.countP_append,
    List.countP_singleton]
  omega

lemma Sorted.mem_arm (hs : s.Sorted) {event : Event} (hv : event.slot? = some slot)
    (due serial : Nat) (he : e ∈ s.upcoming q) (hn : e.slot? ≠ event.slot?) :
    e ∈ (s.arm slot due serial event).upcoming q :=
  mem_upcoming_arm.mpr (.inr (mem_upcoming_cancel hs he (hv ▸ hn)))

lemma Sorted.countP_arm (hs : s.Sorted) {event : Event} (hv : event.slot? = some slot)
    (hi : slot ≠ .idle) (due serial : Nat) :
    ((s.arm slot due serial event).upcoming q).countP (·.isIdle g) =
      (s.upcoming q).countP (·.isIdle g) := by
  have he : event.isIdle g = false :=
    Event.isIdle_of_slot? (by rw [hv]; simpa using hi) g
  rw [countP_upcoming_arm, countP_upcoming_cancel hs hi, he]
  rfl

end Alarms

/-! ### What is watched -/

/-- Whatever the phase: one alarm a slot, no idle event ahead of its time, and for each pending
request its end. -/
structure Timed (alarms : Alarms AlarmSlot Event) (pending : Pending) (generation : Nat)
    (queue : List Event) : Prop where
  sorted : alarms.Sorted
  nodup : (alarms.armed.map (·.slot)).Nodup
  past : ∀ g, .watchdogIdle g ∈ alarms.upcoming queue → g ≤ generation
  pending : ∀ x ∈ pending.entries, .exchangeTimeout x.key ∈ alarms.upcoming queue

namespace Duty

/-- Idle events that are not stale. -/
def idles (d : Duty) (queue : List Event) : Nat :=
  (d.alarms.upcoming queue).countP (·.isIdle d.generation)

lemma idles_ne_zero {d : Duty} {queue : List Event} :
    d.idles queue ≠ 0 ↔ .watchdogIdle d.generation ∈ d.alarms.upcoming queue := by
  rw [idles, ← Nat.pos_iff_ne_zero, List.countP_pos_iff]
  constructor
  · rintro ⟨e, he, hi⟩
    cases e with
    | watchdogIdle g => exact (of_decide_eq_true hi : g = d.generation) ▸ he
    | _ => exact absurd hi Bool.false_ne_true
  · exact fun he => ⟨_, he, by simp [Event.isIdle]⟩

/-- Nothing is missing of what a running connection relies on. -/
structure Watched (d : Duty) (queue : List Event) : Prop where
  timed : Timed d.alarms d.pending d.generation queue
  /-- The next watchdog request is upcoming once. -/
  idle : d.phase.isOpen → d.outstanding = none → d.probe = none → d.idles queue = 1
  /-- No further watchdog request is upcoming while one is being written or is unanswered. -/
  busy : d.phase.isOpen → d.outstanding ≠ none ∨ d.probe ≠ none → d.idles queue = 0
  /-- The wait for the answer to a watchdog request has an end. -/
  reply : d.phase.isOpen → ∀ h, d.outstanding = some h →
    .watchdogReply h ∈ d.alarms.upcoming queue
  /-- Parting has an end. -/
  close : d.phase = .closing → .closeTimeout ∈ d.alarms.upcoming queue

end Duty

variable {q : List Event} {alarms : Alarms AlarmSlot Event} {pending : Pending} {generation : Nat}
  {d d' : Duty} {slot : AlarmSlot} {e : Event}

namespace Timed

lemma shrink (h : Timed alarms pending generation q) {alarms' : Alarms AlarmSlot Event}
    {pending' : Pending} (ha : alarms'.armed.Sublist alarms.armed)
    (hp : ∀ x ∈ pending'.entries, .exchangeTimeout x.key ∈ alarms'.upcoming q) :
    Timed alarms' pending' generation q where
  sorted := h.sorted.sublist ha
  nodup := h.nodup.sublist (ha.map _)
  past g hg := h.past g (Alarms.upcoming_subset ha hg)
  pending := hp

lemma cancel (h : Timed alarms pending generation q) (hs : ∀ k, slot ≠ .exchange k) :
    Timed (alarms.cancel slot) pending generation q :=
  h.shrink List.filter_sublist fun x hx =>
    Alarms.mem_upcoming_cancel h.sorted (h.pending x hx) fun he => hs _ (Option.some.inj he).symm

lemma arm (h : Timed alarms pending generation q) {event : Event} (he : event.slot? = some slot)
    {next : Nat} (hn : generation ≤ next) (hg : ∀ g, event = .watchdogIdle g → g ≤ next)
    (due serial : Nat) : Timed (alarms.arm slot due serial event) pending next q where
  sorted := h.sorted.arm he due serial
  nodup := Alarms.nodup_arm h.nodup due serial event
  past g hm := by
    rcases Alarms.mem_upcoming_arm.mp hm with rfl | hm
    · exact hg g rfl
    · exact Nat.le_trans (h.past g (Alarms.upcoming_subset List.filter_sublist hm)) hn
  pending x hx := by
    refine Alarms.mem_upcoming_arm.mpr ?_
    by_cases hs : slot = .exchange x.key
    · -- The request's own alarm is the one that is armed again.
      subst hs
      refine .inl ?_
      cases event <;> simp_all [Event.slot?]
    · refine .inr (Alarms.mem_upcoming_cancel h.sorted (h.pending x hx) fun hc => hs ?_)
      exact (Option.some.inj hc).symm

lemma drop (h : Timed alarms pending generation (e :: q))
    (he : ∀ x ∈ pending.entries, e ≠ .exchangeTimeout x.key) :
    Timed alarms pending generation q where
  sorted := h.sorted
  nodup := h.nodup
  past g hg := h.past g (Alarms.mem_upcoming_cons.mpr (.inr hg))
  pending x hx :=
    (Alarms.mem_upcoming_cons.mp (h.pending x hx)).resolve_left fun hc => he x hx hc.symm

lemma countP_next (h : Timed alarms pending generation q) :
    ((alarms.cancel .idle).upcoming q).countP (·.isIdle (generation + 1)) = 0 := by
  refine List.countP_eq_zero.mpr fun e he => ?_
  cases e with
  | watchdogIdle g =>
    have hg := h.past g (Alarms.upcoming_subset List.filter_sublist he)
    simp only [Event.isIdle, decide_eq_true_eq]
    omega
  | _ => exact Bool.false_ne_true

end Timed

namespace Duty.Watched

lemma of_not_running (ht : Timed d.alarms d.pending d.generation q)
    (hp : d.phase.isRunning = false) : d.Watched q := by
  have ho : ¬ d.phase.isOpen ∧ d.phase ≠ .closing := by
    simpa [Phase.isRunning, not_or] using hp
  exact ⟨ht, fun h => absurd h ho.1, fun h => absurd h ho.1, fun h => absurd h ho.1,
    fun h => absurd h ho.2⟩

lemma rests (h : d.Watched q) (hd : d.Rests d') (hb : d.probe = none) : d'.Watched q := by
  cases hd with
  | @kept p probe hp hprobe =>
    have hn : probe = none := hprobe.elim (·.trans hb) id
    rcases hp with rfl | hp
    · subst hn
      exact ⟨h.timed, fun ho hx _ => h.idle ho hx hb,
        fun ho hx => h.busy ho (hx.imp_right fun hy => absurd rfl hy), h.reply, h.close⟩
    · exact of_not_running h.timed hp
  | ended hp _ ha => exact of_not_running (h.timed.shrink ha (by simp)) hp

lemma rests_of_not_running (ht : Timed d.alarms d.pending d.generation q) (hd : d.Rests d')
    (hp : d'.phase.isRunning = false) : d'.Watched q := by
  cases hd with
  | kept _ _ => exact of_not_running ht hp
  | ended _ _ ha => exact of_not_running (ht.shrink ha (by simp)) hp

lemma armIdle (ht : Timed d.alarms d.pending d.generation q) (ho : d.outstanding = none)
    (hb : d.probe = none) (hc : d.phase = .closing → .closeTimeout ∈ d.alarms.upcoming q)
    (due serial : Nat) :
    { d with
      generation := d.generation + 1
      alarms := d.alarms.arm .idle due serial (.watchdogIdle (d.generation + 1)) }.Watched q where
  timed := ht.arm rfl (Nat.le_succ _) (by rintro g ⟨⟩; exact Nat.le_refl _) due serial
  idle _ _ _ := by
    show List.countP _ _ = 1
    rw [Alarms.countP_upcoming_arm, ht.countP_next]
    simp [Event.isIdle]
  busy _ hx := hx.elim (absurd ho) (absurd hb)
  reply _ h hx := absurd (ho.symm.trans hx) (by simp)
  close hp := Alarms.mem_upcoming_arm.mpr
    (.inr (Alarms.mem_upcoming_cancel ht.sorted (hc hp) (by simp [Event.slot?])))

lemma cancel (h : d.Watched q) (hi : slot ≠ .idle) (hc : slot ≠ .close)
    (hr : slot = .reply → d.outstanding = none)
    (hp : ∀ x ∈ d.pending.entries, slot ≠ .exchange x.key) :
    { d with alarms := d.alarms.cancel slot }.Watched q where
  timed := h.timed.shrink List.filter_sublist fun x hx =>
    Alarms.mem_upcoming_cancel h.timed.sorted (h.timed.pending x hx) fun he =>
      hp x hx (Option.some.inj he).symm
  idle ho hx hb := (Alarms.countP_upcoming_cancel h.timed.sorted hi).trans (h.idle ho hx hb)
  busy ho hx := (Alarms.countP_upcoming_cancel h.timed.sorted hi).trans (h.busy ho hx)
  reply ho k hk := by
    refine Alarms.mem_upcoming_cancel h.timed.sorted (h.reply ho k hk) fun he => ?_
    exact absurd (hk.symm.trans (hr (Option.some.inj he).symm)) (by simp)
  close ho := by
    refine Alarms.mem_upcoming_cancel h.timed.sorted (h.close ho) fun he => ?_
    exact hc (Option.some.inj he).symm

lemma forget (h : d.Watched q) {pending : Pending}
    (hp : ∀ x ∈ pending.entries, x ∈ d.pending.entries) :
    { d with pending := pending }.Watched q :=
  { h with timed := { h.timed with pending := fun x hx => h.timed.pending x (hp x hx) } }

lemma conclude (h : d.Watched q) (k : UInt32) :
    { d with pending := d.pending.erase k, alarms := d.alarms.cancel (.exchange k) }.Watched q := by
  have hf : { d with pending := d.pending.erase k }.Watched q :=
    h.forget fun x hx => (List.mem_filter.mp hx).1
  refine hf.cancel (by simp) (by simp) (by simp) ?_
  intro x hx he
  have hk : x.key ≠ k := by simpa using (List.mem_filter.mp hx).2
  exact hk (AlarmSlot.exchange.inj he).symm

lemma enter (h : d.Watched q) (x : Exchange) (due serial : Nat) :
    { d with
      pending := (d.pending.insert x).2
      alarms := d.alarms.arm (.exchange x.key) due serial (.exchangeTimeout x.key) }.Watched q := by
  have he : (Event.exchangeTimeout x.key).slot? = some (.exchange x.key) := rfl
  have ht := h.timed.arm he (Nat.le_refl _) (by simp) due serial
  have keeps := fun {e : Event} => h.timed.sorted.mem_arm (e := e) (q := q) he due serial
  have hi := h.timed.sorted.countP_arm (q := q) (g := d.generation) he (by simp) due serial
  refine ⟨{ ht with pending := fun y hy => ?_ }, fun ho hx hb => hi.trans (h.idle ho hx hb),
    fun ho hx => hi.trans (h.busy ho hx),
    fun ho k hk => keeps (h.reply ho k hk) (by simp [Event.slot?]),
    fun ho => keeps (h.close ho) (by simp [Event.slot?])⟩
  rcases List.mem_append.mp hy with hy | hy
  · exact ht.pending y (List.mem_filter.mp hy).1
  · obtain rfl := List.mem_singleton.mp hy
    exact Alarms.mem_upcoming_arm.mpr (.inl rfl)

lemma probing (h : d.Watched (.watchdogIdle d.generation :: q)) (ho : d.outstanding = none)
    (hb : d.probe = none) (hp : d.phase.isOpen) (k : UInt32) :
    { d with probe := some k }.Watched q where
  timed := h.timed.drop (by simp)
  idle _ _ hx := absurd hx (by simp)
  busy _ _ := by
    have hi := h.idle hp ho hb
    rw [idles, Alarms.countP_upcoming_cons] at hi
    simpa [Event.isIdle, idles] using hi
  reply _ l hl := absurd (ho.symm.trans hl) (by simp)
  close hc := absurd hp (by simp [show d.phase = .closing from hc, Phase.isOpen])

lemma probed (h : d.Watched q) {k : UInt32} (hb : d.probe = some k) (probe : Option UInt32)
    (due serial : Nat) :
    { d with
      outstanding := some k, probe := probe
      alarms := d.alarms.arm .reply due serial (.watchdogReply k) }.Watched q := by
  have he : (Event.watchdogReply k).slot? = some .reply := rfl
  have hx : d.outstanding ≠ none ∨ d.probe ≠ none := .inr (by simp [hb])
  exact
    { timed := h.timed.arm he (Nat.le_refl _) (by simp) due serial
      idle := fun _ hx => absurd hx (by simp)
      busy := fun ho _ =>
        (h.timed.sorted.countP_arm he (by simp) due serial).trans (h.busy ho hx)
      reply := fun _ l hl => Alarms.mem_upcoming_arm.mpr (.inl (by rw [Option.some.inj hl]))
      close := fun hc =>
        h.timed.sorted.mem_arm he due serial (h.close hc) (by simp [Event.slot?]) }

lemma armClose (ht : Timed d.alarms d.pending d.generation q) (hp : d.phase = .closing)
    (due serial : Nat) :
    { d with alarms := d.alarms.arm .close due serial .closeTimeout }.Watched q := by
  have hn : ¬ d.phase.isOpen := by simp [hp, Phase.isOpen]
  exact
    { timed := ht.arm rfl (Nat.le_refl _) (by simp) due serial
      idle := fun ho => absurd ho hn
      busy := fun ho => absurd ho hn
      reply := fun ho => absurd ho hn
      close := fun _ => Alarms.mem_upcoming_arm.mpr (.inl rfl) }

lemma perm (h : d.Watched q) {queue : List Event} (ha : alarms.armed.Sublist d.alarms.armed)
    (hp : (alarms.upcoming queue).Perm (d.alarms.upcoming q)) :
    { d with alarms := alarms }.Watched queue where
  timed :=
    { sorted := h.timed.sorted.sublist ha
      nodup := h.timed.nodup.sublist (ha.map _)
      past := fun g hg => h.timed.past g (hp.subset hg)
      pending := fun x hx => hp.symm.subset (h.timed.pending x hx) }
  idle ho hx hb := (hp.countP_eq _).trans (h.idle ho hx hb)
  busy ho hx := (hp.countP_eq _).trans (h.busy ho hx)
  reply ho k hk := hp.symm.subset (h.reply ho k hk)
  close hc := hp.symm.subset (h.close hc)

lemma add (h : d.Watched q) (he : e.slot? = none) : d.Watched (e :: q) where
  timed :=
    { h.timed with
      past := fun g hg => by
        refine h.timed.past g ((Alarms.mem_upcoming_cons.mp hg).resolve_left ?_)
        rintro rfl
        exact absurd he (by simp [Event.slot?])
      pending := fun x hx => Alarms.mem_upcoming_cons.mpr (.inr (h.timed.pending x hx)) }
  idle ho hx hb := by
    have hn := Event.isIdle_of_slot? (e := e) (by simp [he]) d.generation
    rw [idles, Alarms.countP_upcoming_cons, hn]
    exact h.idle ho hx hb
  busy ho hx := by
    have hn := Event.isIdle_of_slot? (e := e) (by simp [he]) d.generation
    rw [idles, Alarms.countP_upcoming_cons, hn]
    exact h.busy ho hx
  reply ho k hk := Alarms.mem_upcoming_cons.mpr (.inr (h.reply ho k hk))
  close hc := Alarms.mem_upcoming_cons.mpr (.inr (h.close hc))

lemma drop (h : d.Watched (e :: q)) (he : e.slot? = none ∨ ¬ d.Minds e) : d.Watched q where
  timed := by
    refine h.timed.drop ?_
    rintro x hx rfl
    refine he.elim (by simp [Event.slot?]) fun hn => hn ?_
    exact List.find?_isSome.mpr ⟨x, hx, by simp⟩
  idle ho hx hb := by
    have hi := h.idle ho hx hb
    rw [idles, Alarms.countP_upcoming_cons] at hi
    have hn : e.isIdle d.generation = false := by
      rcases he with he | he
      · exact Event.isIdle_of_slot? (by simp [he]) _
      · cases e with
        | watchdogIdle g => exact decide_eq_false fun hg => he ⟨hg, ho, hx⟩
        | _ => rfl
    simpa [idles, hn] using hi
  busy ho hx := by
    have hi := h.busy ho hx
    rw [idles, Alarms.countP_upcoming_cons] at hi
    exact Nat.eq_zero_of_add_eq_zero_right hi
  reply ho k hk := by
    refine (Alarms.mem_upcoming_cons.mp (h.reply ho k hk)).resolve_left ?_
    rintro rfl
    exact he.elim (by simp [Event.slot?]) fun hn => hn hk
  close hc := by
    refine (Alarms.mem_upcoming_cons.mp (h.close hc)).resolve_left ?_
    rintro rfl
    exact he.elim (by simp [Event.slot?]) fun hn => hn hc

end Duty.Watched

end Diameter
