import Diameter.Proofs.Run
import Diameter.Proofs.Watch.Turn

/-!
A connection with its clock and the events that wait for it: supervision never lapses.

Time passes, others bring events, and alarms that are due ring: what an alarm rings for joins the
queue. An alarm that finds no room there stays armed until it does. The connection takes what is
its own first, and else the first event of the queue. Whatever happens in which order, between two
events nothing that the connection relies on is neither armed nor waiting to be handled. Main
statement: `Clockwork.Reached.supervised`.
-/

namespace Diameter

structure Clockwork where
  conn : Connection
  now : Nat := 0
  /-- Events that wait to be handled, first things first. -/
  queue : List Event := []

namespace Clockwork

variable (site : Site) (w : Clockwork)

def fresh (expected : Option String) (first : Event) : Clockwork :=
  { conn := .fresh expected first }

/-- Everything that may happen. -/
inductive Step : Clockwork → Prop
  | wait (ms : Nat) : Step { w with now := w.now + ms }
  /-- Others bring an event, and never what only an alarm rings for. -/
  | post (e : Event) (he : e.slot? = none) : Step { w with queue := w.queue ++ [e] }
  /-- An alarm that is due rings. -/
  | ring {a : Alarm AlarmSlot Event} (ha : a ∈ w.conn.alarms.armed) (hd : a.due ≤ w.now) :
    Step { w with
      conn := { w.conn with alarms := w.conn.alarms.cancel a.slot }
      queue := w.queue ++ [a.event] }
  /-- The connection takes an event of its own, or the end of a write. -/
  | own {b : Beat} (hc : b.conn = w.conn) (hn : b.moment.now = w.now) (ht : b.conn.Takes b.input)
    (hi : b.conn.internal = [] → ∀ e, b.input ≠ .event e) :
    Step { w with conn := (b.turn site).conn }
  /-- The connection takes the first event of the queue. -/
  | take {b : Beat} {e : Event} {rest : List Event} (hc : b.conn = w.conn)
    (hn : b.moment.now = w.now) (hi : b.conn.internal = []) (hq : w.queue = e :: rest)
    (hb : b.input = .event e) (ht : b.conn.Accepts b.input) :
    Step { w with conn := (b.turn site).conn, queue := rest }

/-- What may become of a beginning. -/
inductive Reached (w₀ : Clockwork) : Clockwork → Prop
  | begin : Reached w₀ w₀
  | step {w w' : Clockwork} (h : Reached w₀ w) (hs : w.Step site w') : Reached w₀ w'

/-- An alarm is armed in the slot and rings for the event, or the event waits to be handled. -/
def Expects (slot : AlarmSlot) (e : Event) : Prop :=
  (∃ a ∈ w.conn.alarms.armed, a.slot = slot ∧ a.event = e) ∨ e ∈ w.queue

/-- No watchdog request is unanswered, and the end of the idle time is expected. -/
def Idles : Prop :=
  w.conn.outstanding = none ∧ w.Expects .idle (.watchdogIdle w.conn.generation)

/-- A watchdog request is unanswered, the end of the wait for its answer is expected, and no further
watchdog request is. -/
def Probes : Prop :=
  ∃ hopByHop, w.conn.outstanding = some hopByHop ∧ w.Expects .reply (.watchdogReply hopByHop) ∧
    ¬ w.Expects .idle (.watchdogIdle w.conn.generation)

/-- Nothing waits without an end. -/
structure Supervised : Prop where
  /-- While the connection is open, either it is idle or a watchdog request is unanswered. -/
  watchdog : w.conn.phase.isOpen → Xor w.Idles w.Probes
  /-- While it parts, the end of that is expected. -/
  close : w.conn.phase = .closing → w.Expects .close .closeTimeout
  /-- The end of each pending request is expected. -/
  pending : ∀ x ∈ w.conn.pending.entries,
    w.Expects (.exchange x.key) (.exchangeTimeout x.key)

variable {site w} {w' : Clockwork} {expected : Option String} {first : Event}

/-! ### What holds at any time, also during a write -/

/-- The connection is at some stage of its way, and nothing it relies on is missing. -/
structure Sound (expected : Option String) (w : Clockwork) : Prop where
  stage : ∃ (n : Nat) (s : Stage), w.conn.shape = s.shape expected n ∧ s.Sound
  watched : w.conn.duty.Watched w.queue

lemma sound_fresh (hf : first.IsOpening) : (fresh expected first).Sound expected where
  stage := ⟨0, .closed first, rfl, hf⟩
  watched := Duty.Watched.of_not_running
    { sorted := by simp [fresh, Connection.fresh, Connection.duty, Alarms.Sorted]
      nodup := by simp [fresh, Connection.fresh, Connection.duty]
      past := by simp [fresh, Connection.fresh, Connection.duty, Alarms.upcoming]
      pending := by simp [fresh, Connection.fresh, Connection.duty] } rfl

lemma watched_event {b : Beat} (hc : b.conn = w.conn) (ht : b.conn.Takes b.input)
    {e : Event} {q : List Event} (hb : b.input = .event e)
    (hw : w.conn.duty.Watched (e :: q)) : (b.turn site).conn.duty.Watched q := by
  have hu := Turn.handle_upshot_any site b.begun e
  rw [Beat.turn_event hb]
  exact hu.watched (Beat.writing_begun_of_event ht hb) (by rw [b.duty_begun, hc]; exact hw)

namespace Sound

lemma slot?_own (h : w.Sound expected) {b : Beat} (hc : b.conn = w.conn) (ht : b.conn.Takes b.input)
    (hi : b.conn.internal = [] → ∀ e, b.input ≠ .event e) {e : Event} (hb : b.input = .event e) :
    e.slot? = none := by
  obtain ⟨n, s, hs, hsound⟩ := h.stage
  have hm : e ∈ b.conn.internal := by
    rw [hb] at ht
    cases ht with
    | internal _ hl => rw [hl]; exact List.mem_cons_self
    | queued _ hn => exact absurd hb (hi hn e)
  have hl : b.conn.internal = (s.shape expected n).internal := congrArg Shape.internal (hc ▸ hs)
  rcases Stage.mem_internal (hl ▸ hm) with rfl | ⟨_, _, -, rfl⟩
  · cases e <;> first | rfl | exact absurd hsound (by simp [Stage.Sound, Event.IsOpening])
  · rfl

lemma own (h : w.Sound expected) {b : Beat} (hc : b.conn = w.conn) (ht : b.conn.Takes b.input)
    (hi : b.conn.internal = [] → ∀ e, b.input ≠ .event e) :
    (b.turn site).conn.duty.Watched w.queue := by
  cases hb : b.input with
  | event e => exact watched_event hc ht hb (h.watched.add (h.slot?_own hc ht hi hb))
  | written result =>
    rw [hb] at ht
    cases ht with
    | @written v hv _ =>
      have hd : ({ b.begun.conn with writing := some v } : Connection).duty = w.conn.duty := by
        rw [← hc, ← hv, ← b.duty_begun, ← b.writing_begun]
      rw [Beat.turn_written hb hv]
      exact Turn.settle_watched rfl (by rw [hd]; exact h.watched) result

lemma stage_turn (h : w.Sound expected) {b : Beat} (hc : b.conn = w.conn)
    (ht : b.conn.Takes b.input) :
    ∃ (n : Nat) (s : Stage), (b.turn site).conn.shape = s.shape expected n ∧ s.Sound := by
  obtain ⟨n, s, hs, hsound⟩ := h.stage
  obtain ⟨out, n', s', hn, hc', rfl⟩ := ht.follows (hc ▸ hs) hsound b.moment.now b.moment.serial
    b.moment.ids
  exact ⟨n', s', hc', hn.sound hsound⟩

lemma step (h : w.Sound expected) (hs : w.Step site w') : w'.Sound expected := by
  cases hs with
  | wait ms => exact ⟨h.stage, h.watched⟩
  | post e he =>
    refine ⟨h.stage, (h.watched.add he).perm (.refl _) ?_⟩
    exact (List.perm_append_singleton e w.queue).append_left _
  | @ring a ha hd =>
    refine ⟨h.stage, h.watched.perm List.filter_sublist ?_⟩
    exact Alarms.perm_upcoming_cancel h.watched.timed.nodup ha
  | own hc hn ht hi => exact ⟨h.stage_turn hc ht, h.own hc ht hi⟩
  | @take b e rest hc hn hi hq hb ha =>
    have ht : b.conn.Takes b.input := by
      rw [hb] at ha ⊢
      exact .queued ha hi
    exact ⟨h.stage_turn hc ht, watched_event hc ht hb (hq ▸ h.watched)⟩

lemma expects (h : w.Sound expected) {slot : AlarmSlot} {e : Event} (he : e.slot? = some slot) :
    w.Expects slot e ↔ e ∈ w.conn.alarms.upcoming w.queue := by
  constructor
  · rintro (⟨a, ha, -, rfl⟩ | hm)
    · exact List.mem_append_left _ (List.mem_map_of_mem ha)
    · exact List.mem_append_right _ hm
  · intro hm
    rcases List.mem_append.mp hm with hm | hm
    · obtain ⟨a, ha, rfl⟩ := List.mem_map.mp hm
      exact .inl ⟨a, ha, Option.some.inj ((h.watched.timed.sorted a ha).symm.trans he), rfl⟩
    · exact .inr hm

end Sound

lemma Reached.sound (h : Reached site (fresh expected first) w) (hf : first.IsOpening) :
    w.Sound expected := by
  induction h with
  | begin => exact sound_fresh hf
  | step _ hs ih => exact ih.step hs

/-- **Supervision never lapses.** -/
theorem Reached.supervised (h : Reached site (fresh expected first) w) (hf : first.IsOpening)
    (hw : w.conn.writing = none) : w.Supervised := by
  have hs := h.sound hf
  have hb : w.conn.duty.probe = none := Connection.probe?_of_writing hw
  have hi : w.Expects .idle (.watchdogIdle w.conn.generation) ↔ w.conn.duty.idles w.queue ≠ 0 :=
    (hs.expects rfl).trans (Duty.idles_ne_zero (d := w.conn.duty)).symm
  refine
    { watchdog := fun ho => ?_
      close := fun hc => (hs.expects rfl).mpr (hs.watched.close hc)
      pending := fun x hx => (hs.expects rfl).mpr (hs.watched.timed.pending x hx) }
  cases hx : w.conn.outstanding with
  | none =>
    have hn : w.conn.duty.idles w.queue ≠ 0 := by
      rw [hs.watched.idle ho hx hb]
      exact Nat.one_ne_zero
    refine .inl ⟨⟨hx, hi.mpr hn⟩, ?_⟩
    rintro ⟨k, hk, -⟩
    exact absurd (hx.symm.trans hk) (by simp)
  | some k =>
    have hn : w.conn.duty.idles w.queue = 0 :=
      hs.watched.busy ho (.inl (by simp [Connection.duty, hx]))
    refine .inr ⟨⟨k, hx, (hs.expects rfl).mpr (hs.watched.reply ho k hx),
      fun he => hi.mp he hn⟩, ?_⟩
    rintro ⟨hy, -⟩
    exact absurd (hy.symm.trans hx) (by simp)

/-! ### What an alarm clock does -/

/-- The connection takes an input. -/
def give (site : Site) (i : Input) (w : Clockwork) : Clockwork :=
  { w with conn := (Beat.turn site ⟨w.conn, ⟨w.now, 0, {}⟩, i⟩).conn }

/-- The connection takes the first event of the queue. -/
def giveFirst (site : Site) (w : Clockwork) : Clockwork :=
  match w.queue with
  | [] => w
  | e :: rest => { w.give site (.event e) with queue := rest }

/-- The alarm rings that is the first to be due. -/
def ring (w : Clockwork) : Clockwork :=
  match w.conn.alarms.ring? w.now with
  | none => w
  | some (a, alarms) =>
    { w with conn := { w.conn with alarms := alarms }, queue := w.queue ++ [a.event] }

lemma Reached.give {w₀ : Clockwork} (h : Reached site w₀ w) {i : Input} (ht : w.conn.Takes i)
    (hi : w.conn.internal = [] → ∀ e, i ≠ .event e) : Reached site w₀ (w.give site i) :=
  h.step (.own (b := ⟨w.conn, ⟨w.now, 0, {}⟩, i⟩) rfl rfl ht hi)

lemma Reached.giveFirst {w₀ : Clockwork} (h : Reached site w₀ w) (hp : w.conn.phase ≠ .shutdown)
    (hw : w.conn.writing = none) (hi : w.conn.internal = []) :
    Reached site w₀ (w.giveFirst site) := by
  unfold Clockwork.giveFirst
  split
  · exact h
  · rename_i e rest hq
    exact h.step (.take (b := ⟨w.conn, ⟨w.now, 0, {}⟩, .event e⟩) rfl rfl hi hq rfl ⟨hp, hw⟩)

lemma Reached.ring {w₀ : Clockwork} (h : Reached site w₀ w) : Reached site w₀ w.ring := by
  unfold Clockwork.ring
  split
  · exact h
  · rename_i a alarms hr
    obtain ⟨ha, hd, rfl⟩ := Alarms.ring?_eq_some hr
    exact h.step (.ring ha hd)

/-- A connection has been handed a CER and is open, and its idle time is over: a watchdog request
has been written. -/
def probing (site : Site) (cer : Message) : Clockwork :=
  let heard := (fresh none (.acceptedCer 0 cer)).give site (.event (.acceptedCer 0 cer))
  let opened := heard.give site (.written none)
  let rung := { opened with now := opened.now + site.settings.watchdogInterval }.ring
  (rung.giveFirst site).give site (.written none)

/-- The answer to its watchdog request is waited for, with an end. -/
theorem supervised_probing :
    let site : Site := ⟨Node.plain "a", {}⟩
    let cer := ((Node.plain "b").cer {}).1
    let w := probing site cer
    Reached site (fresh none (.acceptedCer 0 cer)) w ∧ w.conn.phase = .rOpen ∧
      w.conn.outstanding.isSome ∧ w.Supervised := by
  intro site cer w
  have none_of : ∀ {α : Type} {x : Option α}, x.isNone → x = none :=
    fun h => Option.isNone_iff_eq_none.mp h
  have own : ∀ {w : Clockwork}, w.conn.writing.isSome → w.conn.Takes (.written none) :=
    fun h => .written (Option.some_get h).symm none
  let heard := (fresh none (.acceptedCer 0 cer)).give site (.event (.acceptedCer 0 cer))
  have h₁ : Reached site (fresh none (.acceptedCer 0 cer)) heard :=
    Reached.begin.give (.internal ⟨by decide, rfl⟩ rfl) fun h =>
      absurd h (by simp [fresh, Connection.fresh])
  let opened := heard.give site (.written none)
  have h₂ : Reached site _ opened := h₁.give (own (by decide +kernel)) (by simp)
  let rung := { opened with now := opened.now + site.settings.watchdogInterval }.ring
  have h₃ : Reached site _ rung := (h₂.step (.wait _)).ring
  have h₄ : Reached site _ (rung.giveFirst site) :=
    h₃.giveFirst (by decide +kernel) (none_of (by decide +kernel))
      (List.isEmpty_iff.mp (by decide +kernel))
  have h₅ : Reached site _ w := h₄.give (own (by decide +kernel)) (by simp)
  exact ⟨h₅, by decide +kernel, by decide +kernel,
    h₅.supervised trivial (none_of (by decide +kernel))⟩

end Clockwork

end Diameter
