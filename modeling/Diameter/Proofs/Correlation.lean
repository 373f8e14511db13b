import Diameter.Proofs.RequestNotes
import Diameter.Proofs.World

/-!
Every attempt gets its own answer, once.

What a world has done so far is kept in order by an invariant (`World.Settled`): whoever was handled
has been answered or is pending, and what is pending belongs to the attempt of its waiter. Main
statement: `World.Reached.correlated`.
-/

namespace Diameter

/-- An answer of the node itself to an attempt. -/
structure Attempt.IsLocal (n : Node) (a : Attempt) (m : Message) : Prop where
  made : ∃ r, m = n.answer a.message r
  command : m.header.command = a.message.header.command
  application : m.header.application = a.message.header.application
  hopByHop : m.header.hopByHop = a.message.header.hopByHop
  endToEnd : m.header.endToEnd = a.message.header.endToEnd

lemma Attempt.isLocal_answer (n : Node) (a : Attempt) (r : ResultCode) :
    a.IsLocal n (n.answer a.message r) := by
  refine ⟨⟨r, rfl⟩, ?_, ?_, ?_, ?_⟩ <;>
  · simp only [Node.answer, Node.localAnswer, Node.answerHeader]
    split <;> rfl

/-- What a turn hands to waiters: answers of the node itself to their attempts, or the one answer
that was received on the stream that carries traffic, to the attempt with its identifier. -/
inductive Beat.Delivers (site : Site) (attempts : List Attempt) (b : Beat) :
    List Completion → Prop
  | locally {cs : List Completion}
    (h : ∀ c ∈ cs, ∃ a, attempts[c.waiter]? = some a ∧ a.IsLocal site.node c.message) :
    Delivers site attempts b cs
  | received {link : Nat} {m : Message} {j : Nat} {a : Attempt}
    (hi : b.input = .event (.received link m)) (hl : b.conn.activeLink?.map (·.id) = some link)
    (hm : m.header.isRequest = false) (ha : attempts[j]? = some a)
    (hk : m.header.hopByHop = a.message.header.hopByHop) : Delivers site attempts b [⟨j, m⟩]

lemma Beat.Delivers.mono {site : Site} {as : List Attempt} {b : Beat} {cs : List Completion}
    (h : b.Delivers site as cs) (ds : List Attempt) : b.Delivers site (as ++ ds) cs := by
  cases h with
  | locally h =>
    refine .locally fun c hc => ?_
    obtain ⟨a, ha, hl⟩ := h c hc
    exact ⟨a, getElem?_append_of_some ha ds, hl⟩
  | received hi hl hm ha hk => exact .received hi hl hm (getElem?_append_of_some ha ds) hk

namespace World

variable (site : Site) (w : World)

/-- Attempts whose request was handled. -/
def handled : List Nat := w.beats.filterMap (·.input.waiter?)

/-- Everything that was handed to waiters. -/
def completions : List Completion := w.beats.flatMap (Beat.completions site)

/-- An entry of the table belongs to the attempt of its waiter. -/
def Holds (x : Exchange) : Prop :=
  ∃ a now, w.attempts[x.waiter]? = some a ∧ x = .ofRequest x.waiter a.message now

/-- What was handled is in order. -/
structure Settled (c₀ : Connection) (seed : UInt32) : Prop where
  run : Connection.Run site c₀ w.beats w.conn
  numbered : w.Numbered seed
  nodup : (w.queued ++ w.handled).Nodup
  place : ∀ j ∈ w.queued ++ w.handled, j < w.attempts.length
  asked : ∀ b ∈ w.beats, ∀ j m, b.input = .event (.send j m) →
    (∃ a, w.attempts[j]? = some a ∧ a.message = m) ∧
      b.conn.pending.find? m.header.hopByHop = none
  holds : ∀ x ∈ w.conn.pending.entries, w.Holds x
  settled : ((w.completions site).map (·.waiter) ++ w.conn.pending.waiters).Perm w.handled
  delivers : ∀ b ∈ w.beats, b.Delivers site w.attempts (b.completions site)

variable {site : Site} {w w' : World} {c₀ : Connection} {seed : UInt32}

lemma handled_after (b : Beat) :
    (w.after site b).handled = w.handled ++ b.input.waiter?.toList := by
  show (w.beats ++ [b]).filterMap _ = _
  rw [List.filterMap_append]
  cases hb : b.input.waiter? <;> simp [handled, hb]

lemma completions_after (b : Beat) :
    (w.after site b).completions site = w.completions site ++ b.completions site := by
  show (w.beats ++ [b]).flatMap _ = _
  rw [List.flatMap_append]
  simp [completions]

namespace Settled

lemma nodup_waiters (h : w.Settled site c₀ seed) : w.conn.pending.waiters.Nodup := by
  have hh : w.handled.Nodup := (List.nodup_append.mp h.nodup).2.1
  exact (List.nodup_append.mp (h.settled.nodup_iff.mpr hh)).2.1

lemma nodup_keys (h : w.Settled site c₀ seed) (ht : w.Timely) : w.conn.pending.keys.Nodup := by
  have hw := h.nodup_waiters
  refine List.Nodup.map_on ?_ (List.Nodup.of_map _ hw)
  intro x hx y hy hk
  obtain ⟨a, _, ha, hxa⟩ := h.holds x hx
  obtain ⟨b, _, hb, hyb⟩ := h.holds y hy
  by_contra hne
  have hj : x.waiter ≠ y.waiter := fun he => hne (List.inj_on_of_nodup_map hw hx hy he)
  have hxm : x.waiter ∈ w.outstanding :=
    List.mem_append_right _ (List.mem_map_of_mem (f := Exchange.waiter) hx)
  have hym : y.waiter ∈ w.outstanding :=
    List.mem_append_right _ (List.mem_map_of_mem (f := Exchange.waiter) hy)
  have := h.numbered.hopByHop_ne ht hxm hym ha hb hj
  rw [hxa, hyb] at hk
  exact this hk

lemma find?_eq_none (h : w.Settled site c₀ seed) (ht : w.Timely) {j : Nat} {a : Attempt}
    (hj : j ∈ w.queued) (ha : w.attempts[j]? = some a) :
    w.conn.pending.find? a.message.header.hopByHop = none := by
  rw [Pending.find?_eq_none]
  intro hm
  obtain ⟨x, hx, hk⟩ := List.mem_map.mp hm
  obtain ⟨b, _, hb, hxb⟩ := h.holds x hx
  have hxm : x.waiter ∈ w.conn.pending.waiters := List.mem_map_of_mem (f := Exchange.waiter) hx
  have hne : j ≠ x.waiter := by
    rintro rfl
    have hh : x.waiter ∈ w.handled := h.settled.mem_iff.mp (List.mem_append_right _ hxm)
    exact (List.nodup_append.mp h.nodup).2.2 _ hj _ hh rfl
  have := h.numbered.hopByHop_ne ht (List.mem_append_left _ hj) (List.mem_append_right _ hxm)
    ha hb hne
  rw [hxb] at hk
  exact this hk.symm

lemma begin {expected : Option String} {first : Event} {ids : Identifiers} :
    (World.fresh expected first ids).Settled site (.fresh expected first) ids.hopByHop where
  run := .nil
  numbered := ⟨by simp [World.fresh], by simp [World.fresh], by simp [World.fresh]⟩
  nodup := by simp [World.fresh, handled]
  place := by simp [World.fresh, handled]
  asked := by simp [World.fresh]
  holds := by simp [World.fresh, Connection.fresh]
  settled := .refl _
  delivers := by simp [World.fresh]

lemma nodup_after (h : w.Settled site c₀ seed) {b : Beat}
    (hs : ∀ j, b.input.waiter? = some j → j ∈ w.queued) :
    ((w.after site b).queued ++ (w.after site b).handled).Nodup := by
  obtain ⟨hq, hh, hd⟩ := List.nodup_append.mp h.nodup
  rw [handled_after]
  refine List.nodup_append.mpr ⟨hq.filter _, ?_, ?_⟩
  · refine List.nodup_append.mpr ⟨hh, by cases b.input.waiter? <;> simp, ?_⟩
    intro i hi j hj
    exact (hd j (hs j (by simpa using hj)) i hi).symm
  · intro i hi j hj
    obtain ⟨hi, hn⟩ := List.mem_filter.mp hi
    rcases List.mem_append.mp hj with hj | hj
    · exact hd i hi j hj
    · rintro rfl
      exact of_decide_eq_true hn (by simpa using hj)

/-- An entry of the table, before or after a turn, belongs to an attempt. -/
lemma owns (h : w.Settled site c₀ seed) {b : Beat} (hc : b.conn = w.conn)
    (hs : ∀ j m, b.input = .event (.send j m) →
      j ∈ w.queued ∧ ∃ a, w.attempts[j]? = some a ∧ a.message = m) {x : Exchange}
    (hx : x ∈ b.conn.pending.entries ∨
      ∃ j m now, b.input = .event (.send j m) ∧ x = .ofRequest j m now) : w.Holds x := by
  rcases hx with hx | ⟨j, m, now, hj, rfl⟩
  · exact h.holds x (hc ▸ hx)
  · obtain ⟨-, a, ha, rfl⟩ := hs j m hj
    exact ⟨a, now, ha, rfl⟩

lemma delivers_turn (h : w.Settled site c₀ seed) {b : Beat} (hc : b.conn = w.conn)
    (hs : ∀ j m, b.input = .event (.send j m) →
      j ∈ w.queued ∧ ∃ a, w.attempts[j]? = some a ∧ a.message = m)
    (htr : Trade site b.conn b.input (b.turn site).ledger (b.turn site).conn.pending
      (b.turn site).conn.outgoing?) :
    b.Delivers site w.attempts (b.completions site) := by
  rw [Beat.completions_eq_ledger]
  rcases htr.delivers with hl | ⟨link, m, x, hm, hk, hq, hx, hxk, hcs⟩
  · refine .locally fun e he => ?_
    obtain ⟨x, r, rfl, hx⟩ := hl e he
    obtain ⟨a, now, ha, hxa⟩ := h.owns hc hs hx
    refine ⟨a, ha, ?_⟩
    rw [hxa]
    exact a.isLocal_answer site.node r
  · obtain ⟨a, now, ha, hxa⟩ := h.owns hc hs (.inl hx)
    rw [hcs]
    refine .received hm hk hq ha ?_
    rw [← hxk, hxa]
    rfl

lemma after (h : w.Settled site c₀ seed) (h₀ : c₀.Cleared) (ht : w.Timely) {b : Beat}
    (hc : b.conn = w.conn) (hi : b.moment.ids = w.ids) (hb : b.conn.Takes b.input)
    (hs : ∀ j m, b.input = .event (.send j m) →
      j ∈ w.queued ∧ ∃ a, w.attempts[j]? = some a ∧ a.message = m) :
    (w.after site b).Settled site c₀ seed := by
  have hr : Connection.Run site c₀ w.beats b.conn := hc ▸ h.run
  obtain ⟨htr, -⟩ :=
    hb.trades (hr.cleared h₀) site b.moment.now b.moment.serial b.moment.ids
  -- the identifier a queued request carries is not outstanding
  have hf : ∀ j m, b.input = .event (.send j m) →
      b.conn.pending.find? m.header.hopByHop = none := by
    intro j m hj
    obtain ⟨hq, a, ha, rfl⟩ := hs j m hj
    rw [hc]
    exact h.find?_eq_none ht hq ha
  have hw : ∀ j, b.input.waiter? = some j → j ∈ w.queued := by
    intro j hj
    cases hbi : b.input with
    | written r => simp [hbi, Input.waiter?] at hj
    | event e =>
      cases e with
      | send i m =>
        obtain rfl : i = j := by simpa [hbi, Input.waiter?] using hj
        exact (hs i m hbi).1
      | _ => simp [hbi, Input.waiter?] at hj
  exact
    { run := hr.turn hb
      numbered := h.numbered.step (.turn hc hi hb hs)
      nodup := h.nodup_after hw
      place := by
        intro j hj
        rcases List.mem_append.mp hj with hj | hj
        · -- it is still queued
          exact h.place j (List.mem_append_left _ (List.mem_filter.mp hj).1)
        · obtain ⟨d, hd, hdj⟩ := List.mem_filterMap.mp hj
          rcases List.mem_append.mp hd with hd | hd
          · -- it was taken up in an earlier step
            exact h.place j (List.mem_append_right _ (List.mem_filterMap.mpr ⟨d, hd, hdj⟩))
          · -- it is taken up in this one
            obtain rfl := List.mem_singleton.mp hd
            exact h.place j (List.mem_append_left _ (hw j hdj))
      asked := by
        intro d hd j m hj
        rcases List.mem_append.mp hd with hd | hd
        · exact h.asked d hd j m hj
        · obtain rfl := List.mem_singleton.mp hd
          exact ⟨(hs j m hj).2, hf j m hj⟩
      holds := fun x hx => h.owns hc hs (htr.mem_entries hx)
      -- what has been answered, what is pending and what is queued are all there is
      settled := by
        have hp := htr.settles (hc ▸ h.nodup_keys ht) hf
        rw [← Beat.turn, ← Beat.completions_eq_ledger] at hp
        rw [completions_after, handled_after, List.map_append, List.append_assoc]
        refine (hp.append_left _).trans ?_
        rw [← List.append_assoc, hc]
        exact h.settled.append_right _
      delivers := by
        intro d hd
        rcases List.mem_append.mp hd with hd | hd
        · exact h.delivers d hd
        · obtain rfl := List.mem_singleton.mp hd
          exact h.delivers_turn hc hs htr }

/-- Order is kept by everything that may happen. -/
lemma step (h : w.Settled site c₀ seed) (h₀ : c₀.Cleared) (ht : w.Timely)
    (hs : w.Step site w') : w'.Settled site c₀ seed := by
  have hn := h.numbered.step hs
  cases hs with
  | draw ids k hk => exact { h with numbered := hn }
  | ring time => exact { h with run := h.run.ring time, numbered := hn }
  | discard j hp =>
    have hl : ∀ {i}, i ∈ w.queued.filter (· ≠ j) ++ w.handled → i ∈ w.queued ++ w.handled := by
      intro i hi
      exact (List.filter_sublist.append_right _).subset hi
    exact
      { h with
        numbered := hn
        nodup := h.nodup.sublist (List.filter_sublist.append_right _)
        place := fun i hi => h.place i (hl hi) }
  | turn hc hi hb hs => exact h.after h₀ ht hc hi hb hs
  | attempt s room =>
    have hq : ∀ j ∈ (if room then w.queued ++ [w.attempts.length] else w.queued) ++ w.handled,
        j ∈ w.queued ++ w.handled ∨ j = w.attempts.length := by
      intro j hj
      cases room with
      | true =>
        simp only [if_true, List.append_assoc, List.mem_append, List.mem_singleton] at hj ⊢
        tauto
      | false => exact .inl hj
    exact
      { run := h.run
        numbered := hn
        nodup := by
          cases room with
          | true =>
            show (w.queued ++ [w.attempts.length] ++ w.handled).Nodup
            rw [List.append_assoc, List.singleton_append, List.nodup_middle]
            refine List.nodup_cons.mpr ⟨?_, h.nodup⟩
            intro hm
            exact absurd (h.place _ hm) (Nat.lt_irrefl _)
          | false => exact h.nodup
        place := by
          intro j hj
          rw [List.length_append]
          rcases hq j hj with hj | rfl
          · exact Nat.lt_succ_of_lt (h.place j hj)
          · exact Nat.lt_succ_self _
        asked := by
          intro b hb j m hj
          obtain ⟨⟨a, ha, hm⟩, hf⟩ := h.asked b hb j m hj
          exact ⟨⟨a, getElem?_append_of_some ha _, hm⟩, hf⟩
        holds := by
          intro x hx
          obtain ⟨a, now, ha, hxa⟩ := h.holds x hx
          exact ⟨a, now, getElem?_append_of_some ha _, hxa⟩
        settled := h.settled
        delivers := fun b hb => (h.delivers b hb).mono _ }

end Settled

lemma Reached.settled {expected : Option String} {first : Event} {ids : Identifiers}
    (h : Reached site (.fresh expected first ids) w) :
    w.Settled site (.fresh expected first) ids.hopByHop ∧ w.Timely := by
  induction h with
  | begin => exact ⟨.begin, by simp [Timely, outstanding, World.fresh, Connection.fresh,
      Pending.waiters]⟩
  | step _ hs ht ih => exact ⟨ih.1.step (fun _ => rfl) ih.2 hs, ht⟩

/-- What holds of attempts and of what they are answered with. -/
structure Correlated (site : Site) (w : World) : Prop where
  /-- No waiter gets two messages. -/
  once : ((w.completions site).map (·.waiter)).Nodup
  /-- A turn hands local answers to waiters, or it hands the answer that was received to one. -/
  genuine : ∀ b ∈ w.beats, b.Delivers site w.attempts (b.completions site)
  /-- Once the connection is shut down, whoever was handled has got a message. -/
  completed : w.conn.phase = .shutdown → ∀ b ∈ w.beats, ∀ j m, b.input = .event (.send j m) →
    j ∈ (w.completions site).map (·.waiter)
  /-- Until the next request with its identifier an attempt is noted to be sent, and then to be
  answered or timed out, at most. -/
  noted : ∀ bs b ds es j m, w.beats = bs ++ b :: ds ++ es → b.input = .event (.send j m) →
    (∀ d ∈ ds, ¬ d.Sends m.header.hopByHop) →
    ∃ a, w.attempts[j]? = some a ∧ Story a.message.header.hopByHop a.message.header.command
      (Beat.newsOf site a.message.header.hopByHop (b :: ds))
  /-- Nothing is noted of an identifier with which no request was handled. -/
  unnoted : ∀ bs es k, w.beats = bs ++ es → (∀ b ∈ bs, ¬ b.Sends k) → Beat.newsOf site k bs = []

/-- **Every attempt gets its own answer, once.** -/
theorem Reached.correlated {expected : Option String} {first : Event} {ids : Identifiers}
    (h : Reached site (.fresh expected first ids) w) : w.Correlated site := by
  obtain ⟨hs, -⟩ := h.settled
  have hc : (Connection.fresh expected first).Cleared := fun _ => rfl
  have hh : w.handled.Nodup := (List.nodup_append.mp hs.nodup).2.1
  exact
    { once := (List.nodup_append.mp (hs.settled.nodup_iff.mpr hh)).1
      genuine := hs.delivers
      completed := by
        intro hp b hb j m hj
        have hm : j ∈ w.handled := List.mem_filterMap.mpr ⟨b, hb, by rw [hj]; rfl⟩
        have hn : w.conn.pending = {} := hs.run.cleared hc hp
        have hl := hs.settled.mem_iff.mpr hm
        rw [hn] at hl
        simpa [Pending.waiters] using hl
      noted := by
        intro bs b ds es j m hl hj hd
        have hb : b ∈ w.beats := by rw [hl]; simp
        obtain ⟨⟨a, ha, rfl⟩, hf⟩ := hs.asked b hb j m hj
        refine ⟨a, ha, ?_⟩
        obtain ⟨c, hr⟩ := (hl ▸ hs.run).initial
        exact hr.story hc hj hf hd
      unnoted := by
        intro bs es k hl hk
        obtain ⟨c, hr⟩ := (hl ▸ hs.run).initial
        exact hr.newsOf_eq_nil rfl rfl hk }

/-- A connection opens on an accepted stream, and an attempt is sent and answered there. -/
theorem correlated_askingWorld :
    let site : Site := ⟨Node.plain "a", {}⟩
    let cer := ((Node.plain "b").cer {}).1
    let s : Sending := ⟨⟨Header.request 272 4, []⟩, 0⟩
    let w₂ := ((fresh none (.acceptedCer 0 cer) {}).give site (.event (.acceptedCer 0 cer))).give
      site (.written none)
    let m := (s.attempt w₂.ids).1
    let w₃ : World := { w₂ with
      ids := (s.attempt w₂.ids).2, drawn := w₂.drawn + 1, attempts := [⟨m, w₂.drawn + 1⟩]
      queued := [0] }
    let w := ((w₃.give site (.event (.send 0 m))).give site (.written none)).give site
      (.event (.received 1 m.answer))
    w.conn.phase = .rOpen ∧ w.completions site = [⟨0, m.answer⟩] ∧
      Reached site (fresh none (.acceptedCer 0 cer) {}) w ∧ w.Correlated site := by
  intro site cer s w₂ m w₃ w
  let w₀ : World := fresh none (.acceptedCer 0 cer) {}
  let w₁ := w₀.give site (.event (.acceptedCer 0 cer))
  let w₄ := w₃.give site (.event (.send 0 m))
  let w₅ := w₄.give site (.written none)
  have hw₁ : w₁.conn.writing.isSome := by decide +kernel
  have hw₄ : w₄.conn.writing.isSome := by decide +kernel
  have h₁ : Reached site w₀ w₁ :=
    Reached.begin.give (.internal ⟨by decide, rfl⟩ rfl) (by simp) (by decide +kernel)
  have h₂ : Reached site w₀ w₂ :=
    h₁.give (.written (Option.some_get hw₁).symm none) (by simp) (by decide +kernel)
  have h₃ : Reached site w₀ w₃ :=
    h₂.step (.attempt s true) (timely_of_drawn (by decide +kernel))
  have h₄ : Reached site w₀ w₄ := by
    refine h₃.give (.queued ⟨by decide +kernel, by decide +kernel⟩ (by decide +kernel)) ?_
      (by decide +kernel)
    rintro j n ⟨⟩
    exact ⟨by simp [w₃], _, rfl, rfl⟩
  have h₅ : Reached site w₀ w₅ :=
    h₄.give (.written (Option.some_get hw₄).symm none) (by simp) (by decide +kernel)
  have h₆ : Reached site w₀ w :=
    h₅.give (.queued ⟨by decide +kernel, by decide +kernel⟩ (by decide +kernel)) (by simp)
      (by decide +kernel)
  exact ⟨by decide +kernel, by decide +kernel, h₆, h₆.correlated⟩

end World

end Diameter
