import Mathlib.Data.List.Induction
import Diameter.Proofs.Holdings
import Diameter.Proofs.WaitersSettled

/-!
A connection and those who close it.

Whoever closes a connection queues at it, asks for the shutdown and waits until it is there. Others
go on as they like meanwhile, and any number may close the connection, whatever its phase is. Once
it is shut down nothing of it is left, and nobody was let go before that was to be seen. Main
statement: `Lobby.Reached.tornDown`.
-/

namespace Diameter

/-- Nothing is left of a connection. -/
structure Connection.IsBare (c : Connection) : Prop where
  links : c.links = []
  dialing : c.dialing = false
  writing : c.writing = none
  alarms : c.alarms.armed = []
  pending : c.pending = {}
  stoppers : c.stoppers = []

/-- **The shutdown leaves nothing.** -/
theorem Connection.Run.isBare {site : Site} {expected : Option String} {first : Event}
    {bs : List Beat} {c : Connection} (h : Run site (fresh expected first) bs c)
    (hf : first.IsOpening) (hp : c.phase = .shutdown) : c.IsBare := by
  obtain ⟨n, q, cached, hc⟩ := h.shape_of_shutdown hf hp
  have hi : c.initiator = none := congrArg Shape.initiator hc
  have hr : c.responder = none := congrArg Shape.responder hc
  have hw : c.writing = none := congrArg Shape.writing hc
  obtain ⟨ha, hn⟩ := (h.tidy hf).ended hp
  exact
    { links := by simp [links, stray?, hi, hr, hw]
      dialing := congrArg Shape.dialing hc
      writing := hw
      alarms := ha
      pending := hn
      stoppers := (h.accounts hf).ended hp }

/-- Callers who close a connection are named by their place among all of them. -/
structure Lobby where
  conn : Connection
  /-- What everyone who watches the connection has seen last. -/
  sight : Sight := {}
  callers : Nat := 0
  /-- Callers who have not been handled. -/
  queued : List Nat := []
  /-- Callers who were let go, and the phase that was to be seen then. -/
  released : List (Nat × Phase) := []
  /-- Nothing will be handled any more. -/
  finished : Bool := false
  beats : List Beat := []

namespace Lobby

variable (site : Site) (w : Lobby)

def fresh (expected : Option String) (first : Event) : Lobby := { conn := .fresh expected first }

/-- What an effect is to those who watch and to those who wait. -/
def perform (w : Lobby) (e : Effect) : Lobby :=
  { w with
    sight := w.sight.see e
    released := w.released ++ e.released?.toList.map fun j => (j, w.sight.phase) }

/-- After one more turn. -/
def after (b : Beat) : Lobby :=
  (b.turn site).effects.foldl perform
    { w with
      conn := (b.turn site).conn
      queued := w.queued.filter fun j => b.input.stopper? ≠ some j
      beats := w.beats ++ [b] }

/-- Everything that may happen. -/
inductive Step : Lobby → Prop
  /-- Somebody closes the connection. -/
  | call (h : w.finished = false) :
    Step { w with callers := w.callers + 1, queued := w.queued ++ [w.callers] }
  /-- Where nothing is handled any more there is nothing to wait for. -/
  | callLate (h : w.finished = true) :
    Step { w with
      callers := w.callers + 1, released := w.released ++ [(w.callers, w.sight.phase)] }
  /-- Alarms that are due ring. -/
  | ring (time : Nat) :
    Step { w with conn := { w.conn with alarms := (w.conn.alarms.ringAll time).2 } }
  /-- The connection takes what it is given; who asks for the shutdown has queued before. -/
  | turn {b : Beat} (hc : b.conn = w.conn) (ht : b.conn.Takes b.input)
    (hs : ∀ j, b.input.stopper? = some j → j ∈ w.queued) : Step (w.after site b)
  /-- A connection that is shut down drops what is queued. -/
  | finish (h : w.conn.phase = .shutdown) :
    Step { w with
      finished := true, queued := []
      released := w.released ++ w.queued.map fun j => (j, w.sight.phase) }

/-- What may become of a beginning. -/
inductive Reached (w₀ : Lobby) : Lobby → Prop
  | begin : Reached w₀ w₀
  | step {w w' : Lobby} (h : Reached w₀ w) (hs : w.Step site w') : Reached w₀ w'

/-- The shutdown leaves nothing, and nobody waits in vain or too short. -/
structure TornDown : Prop where
  /-- What everyone sees is the phase. -/
  seen : w.sight.phase = w.conn.phase
  /-- After the shutdown no stream is attached, nothing is dialed or written, no alarm is armed, no
  request is pending and nobody waits for the shutdown. -/
  bare : w.conn.phase = .shutdown → w.conn.IsBare
  /-- Every stream that was read from has been closed. -/
  closed : w.conn.phase = .shutdown → ∀ link,
    ((Beat.effectsOf site w.beats).filterMap Effect.listened?).count link =
      ((Beat.effectsOf site w.beats).filterMap Effect.hungUp?).count link
  /-- Every dial has been abandoned, or has had an outcome. -/
  undialed : w.conn.phase = .shutdown →
    (Beat.effectsOf site w.beats).countP Effect.isDial =
      (Beat.effectsOf site w.beats).countP Effect.isAbandonDial + w.beats.countP Beat.isOutcome
  /-- The last turn has led to the shutdown and has answered each request at stake in it, once and
  with 3002. -/
  drained : w.conn.phase = .shutdown → ∃ bs b, w.beats = bs ++ [b] ∧
    b.completions site = b.stake.drain site.node ∧ b.stake.keys.Nodup ∧
    ∀ d ∈ b.completions site, d.message.resultCode? = some 3002
  /-- Whoever has asked for something was answered, was displaced, or has a request pending. -/
  settled : ((w.beats.flatMap (Beat.completions site)).map (·.waiter) ++
      (Beat.effectsOf site w.beats).filterMap Effect.abandoned? ++ w.conn.pending.waiters).Perm
    (w.beats.filterMap (·.input.waiter?))
  /-- Nobody was let go before the shutdown was to be seen. -/
  patient : ∀ x ∈ w.released, x.2 = .shutdown
  /-- Every caller was let go, or is known to the connection, or is queued. -/
  placed : (w.released.map Prod.fst ++ w.conn.stoppers ++ w.queued).Perm (List.range w.callers)
  /-- Where nothing is handled any more everyone was let go. -/
  finished : w.finished = true → (w.released.map Prod.fst).Perm (List.range w.callers)

variable {site w} {w' : Lobby} {expected : Option String} {first : Event}

/-! ### What a turn does to those who wait -/

lemma foldl_perform (es : List Effect) (w : Lobby) :
    es.foldl perform w =
      { w with
        sight := w.sight.seeAll es
        released := (es.foldl perform w).released } := by
  induction es generalizing w with
  | nil => rfl
  | cons e es ih => exact ih (w.perform e)

lemma released_foldl (es : List Effect) (w : Lobby) :
    (es.foldl perform w).released.map Prod.fst =
      w.released.map Prod.fst ++ es.filterMap Effect.released? := by
  induction es generalizing w with
  | nil => simp
  | cons e es ih =>
    rw [List.foldl_cons, ih]
    cases h : e.released? <;> simp [perform, h]

lemma patient_foldl {es : List Effect} (h : ∀ x ∈ w.released, x.2 = .shutdown)
    (hl : w.sight.Lawful es) (he : Effect.Late es) :
    ∀ x ∈ (es.foldl perform w).released, x.2 = .shutdown := by
  induction es using List.reverseRecOn with
  | nil => exact h
  | append_singleton es e ih =>
    obtain ⟨hl, -⟩ := Sight.lawful_append.mp hl
    have hes : Effect.Late es := fun as j ds hd => he as j (ds ++ [e]) (by rw [hd]; simp)
    intro x hx
    rw [List.foldl_append] at hx
    rcases List.mem_append.mp hx with hx | hx
    · exact ih hl hes x hx
    · obtain ⟨j, hj, rfl⟩ := List.mem_map.mp hx
      have hm : .showPhase .shutdown ∈ es := by
        cases e with
        | release i => exact he es i [] rfl
        | _ => exact absurd hj (by simp [Effect.released?])
      rw [foldl_perform]
      exact hl.phase_of_mem hm

/-! ### What everything that may happen keeps -/

/-- What is known of a lobby at any time. -/
structure Kept (site : Site) (expected : Option String) (first : Event) (w : Lobby) : Prop where
  run : Connection.Run site (.fresh expected first) w.beats w.conn
  sight : w.sight = ({} : Sight).seeAll (Beat.effectsOf site w.beats)
  patient : ∀ x ∈ w.released, x.2 = .shutdown
  placed : (w.released.map Prod.fst ++ w.conn.stoppers ++ w.queued).Perm (List.range w.callers)
  finished : w.finished = true → w.queued = [] ∧ w.conn.phase = .shutdown

namespace Kept

lemma begin : (fresh expected first).Kept site expected first where
  run := .nil
  sight := rfl
  patient := by simp [fresh]
  placed := .refl _
  finished := by simp [fresh]

lemma seen (h : w.Kept site expected first) (hf : first.IsOpening) :
    w.sight = ⟨w.conn.phase, w.conn.identity⟩ := h.sight.trans (h.run.lawful hf).2

lemma perm_queued (h : w.Kept site expected first) {o : Option Nat}
    (ho : ∀ j, o = some j → j ∈ w.queued) :
    (o.toList ++ w.queued.filter fun j => o ≠ some j).Perm w.queued := by
  cases o with
  | none => simp
  | some j =>
    have hn : w.queued.Nodup :=
      (List.nodup_append.mp (h.placed.nodup_iff.mpr List.nodup_range)).2.1
    have he : (w.queued.filter fun i => some j ≠ some i) = w.queued.erase j := by
      rw [hn.erase_eq_filter]
      refine List.filter_congr fun i _ => ?_
      rw [Bool.eq_iff_iff, bne_iff_ne, decide_eq_true_eq]
      exact ⟨fun h he => h (congrArg some he.symm), fun h he => h (Option.some.inj he).symm⟩
    rw [he]
    exact (List.perm_cons_erase (ho j rfl)).symm

lemma after (h : w.Kept site expected first) (hf : first.IsOpening) {b : Beat}
    (hc : b.conn = w.conn) (ht : b.conn.Takes b.input)
    (hs : ∀ j, b.input.stopper? = some j → j ∈ w.queued) :
    (w.after site b).Kept site expected first := by
  have hr : Connection.Run site (.fresh expected first) w.beats b.conn := hc ▸ h.run
  obtain ⟨n, s, -, hsh⟩ := hr.course hf
  have hb := Beat.balanced site hsh ht (hr.accounts hf).ended
  have hst : (b.turn site).effects.filterMap Effect.released? ++ (b.turn site).conn.stoppers =
      w.conn.stoppers ++ b.input.stopper?.toList := by
    rw [hb.stoppers, b.holds_notified.2.2, hc]
  have hl : w.sight.Lawful (b.turn site).effects := by
    have hl := ((hr.turn ht).lawful hf).1
    rw [Beat.effectsOf_append, Beat.effectsOf_singleton, Sight.lawful_append, ← h.sight] at hl
    exact hl.2
  have hq := h.perm_queued hs
  rw [Lobby.after, foldl_perform]
  refine ⟨hr.turn ht, ?_, patient_foldl h.patient hl hb.late, ?_, ?_⟩
  · -- what is seen is the effects of all turns
    rw [Beat.effectsOf_append, Beat.effectsOf_singleton, Sight.seeAll_append, ← h.sight]
  · -- whoever waited or came up is released or waits
    rw [released_foldl]
    calc w.released.map Prod.fst ++ (b.turn site).effects.filterMap Effect.released? ++
          (b.turn site).conn.stoppers ++ w.queued.filter (fun j => b.input.stopper? ≠ some j)
        = w.released.map Prod.fst ++ w.conn.stoppers ++ (b.input.stopper?.toList ++
            w.queued.filter fun j => b.input.stopper? ≠ some j) := by
          rw [List.append_assoc (w.released.map Prod.fst), hst]
          simp only [List.append_assoc]
      List.Perm _ (w.released.map Prod.fst ++ w.conn.stoppers ++ w.queued) := hq.append_left _
      List.Perm _ _ := h.placed
  · -- Nothing is handled any more once that is over.
    intro hn
    obtain ⟨-, hp⟩ := h.finished hn
    exact absurd (hc ▸ hp) (hr.phase_ne_shutdown hf ht)

lemma step (h : w.Kept site expected first) (hf : first.IsOpening) (hs : w.Step site w') :
    w'.Kept site expected first := by
  have range : List.Perm ((w.released.map Prod.fst ++ w.conn.stoppers ++ w.queued) ++ [w.callers])
      (List.range (w.callers + 1)) := by
    rw [List.range_succ]
    exact h.placed.append_right _
  cases hs with
  -- a caller gets in line
  | call hn =>
    refine ⟨h.run, h.sight, h.patient, ?_, fun hy => absurd hy (by simp [hn])⟩
    rw [← List.append_assoc]
    exact range
  | callLate hn =>
    -- a caller who comes late is released at once
    obtain ⟨hq, hp⟩ := h.finished hn
    have hv : w.sight.phase = .shutdown := by rw [h.seen hf, hp]
    refine ⟨h.run, h.sight, ?_, ?_, h.finished⟩
    · intro x hx
      rcases List.mem_append.mp hx with hx | hx
      · exact h.patient x hx
      · rw [List.mem_singleton.mp hx, hv]
    · -- nobody waits any more
      have hw : w.conn.stoppers = [] := (h.run.accounts hf).ended hp
      rw [hq, hw] at range ⊢
      simpa using range
  | ring time => exact ⟨h.run.ring time, h.sight, h.patient, h.placed, h.finished⟩
  | turn hc ht hs => exact h.after hf hc ht hs
  | finish hp =>
    -- whoever still stands in line is released
    have hv : w.sight.phase = .shutdown := by rw [h.seen hf, hp]
    refine ⟨h.run, h.sight, ?_, ?_, fun _ => ⟨rfl, hp⟩⟩
    · intro x hx
      rcases List.mem_append.mp hx with hx | hx
      · exact h.patient x hx
      · obtain ⟨j, -, rfl⟩ := List.mem_map.mp hx
        exact hv
    · -- nobody else waits
      have hw : w.conn.stoppers = [] := (h.run.accounts hf).ended hp
      have hpl := h.placed
      rw [hw] at hpl ⊢
      simpa [Function.comp_def] using hpl

end Kept

lemma Reached.kept (h : Reached site (fresh expected first) w) (hf : first.IsOpening) :
    w.Kept site expected first := by
  induction h with
  | begin => exact .begin
  | step _ hs ih => exact ih.step hf hs

lemma last_turn {bs : List Beat} {c : Connection} (hf : first.IsOpening)
    (h : Connection.Run site (.fresh expected first) bs c) (hp : c.phase = .shutdown) :
    ∃ as b, bs = as ++ [b] ∧ Connection.Run site (.fresh expected first) as b.conn ∧
      b.conn.Takes b.input ∧ b.conn.phase ≠ .shutdown ∧ (b.turn site).conn.phase = .shutdown := by
  induction h with
  | nil => exact absurd hp (by simp [Connection.fresh])
  | ring _ _ ih => exact ih hp
  | @turn as b h ht => exact ⟨as, b, rfl, h, ht, h.phase_ne_shutdown hf ht, hp⟩

/-- **Shutting down is complete, and whoever closes waits for it.** -/
theorem Reached.tornDown (h : Reached site (fresh expected first) w) (hf : first.IsOpening) :
    w.TornDown site := by
  have hk := h.kept hf
  have hb := fun hp => hk.run.isBare hf hp
  have ha := hk.run.accounts hf
  exact
    { seen := by rw [hk.seen hf]
      bare := hb
      closed := by
        intro hp link
        have hl := ha.links link
        rwa [(hb hp).links, List.count_nil, Nat.add_zero] at hl
      undialed := by
        intro hp
        have hd := ha.dial
        rwa [(hb hp).dialing, Bool.toNat_false, Nat.add_zero] at hd
      drained := by
        intro hp
        obtain ⟨bs, b, he, hr, ht, hq, hu⟩ := last_turn hf hk.run hp
        have hd := Beat.drains ht hq hu
        refine ⟨bs, b, he, hd, b.nodup_stake hr.settles.2, fun d hm => ?_⟩
        obtain ⟨_, _, _, _, _, _, _, hq⟩ := hr.undelivered (hd ▸ hm)
        exact hq.result
      settled := hk.run.settles.1
      patient := hk.patient
      placed := hk.placed
      finished := by
        intro hn
        obtain ⟨hq, hp⟩ := hk.finished hn
        have hpl := hk.placed
        rwa [hq, (hb hp).stoppers, List.append_nil, List.append_nil] at hpl }

/-! ### Three who close a connection -/

/-- The connection takes an input. -/
def give (site : Site) (w : Lobby) (i : Input) : Lobby := w.after site ⟨w.conn, ⟨0, 0, {}⟩, i⟩

/-- Somebody closes the connection. -/
def close (w : Lobby) : Lobby :=
  { w with callers := w.callers + 1, queued := w.queued ++ [w.callers] }

lemma Reached.give {w₀ : Lobby} (h : Reached site w₀ w) {i : Input} (ht : w.conn.mayTake i)
    (hs : i.stopper?.all (· ∈ w.queued)) : Reached site w₀ (w.give site i) := by
  refine h.step (.turn (b := ⟨w.conn, ⟨0, 0, {}⟩, i⟩) rfl (Connection.takes_of_mayTake ht) ?_)
  intro j hj
  have hj : i.stopper? = some j := hj
  rw [hj] at hs
  simpa using hs

/-- A connection has been opened and a request is pending. -/
def asked (site : Site) (cer request : Message) : Lobby :=
  let begun := (fresh none (.acceptedCer 0 cer)).give site (.event (.acceptedCer 0 cer))
  ((begun.give site (.written none)).give site (.event (.send 0 request))).give site (.written none)

/-- One of three callers is handled, and the connection parts; so is the second, and then the
stream is lost. -/
def lost (site : Site) (w : Lobby) : Lobby :=
  let parting := (w.close.close.close.give site (.event (.stop 0 .rebooting))).give site
    (.written none)
  (parting.give site (.event (.stop 1 .rebooting))).give site (.event (.disconnected 1 .closed))

/-- All three are let go after the shutdown, and the request is answered. -/
theorem tornDown_lost :
    let site : Site := ⟨Node.plain "a", {}⟩
    let cer := ((Node.plain "b").cer {}).1
    let request : Message := ⟨Header.request 272 4, []⟩
    let v := lost site (asked site cer request)
    let w : Lobby := { v with
      finished := true, queued := []
      released := v.released ++ v.queued.map fun j => (j, v.sight.phase) }
    Reached site (fresh none (.acceptedCer 0 cer)) w ∧ w.conn.phase = .shutdown ∧
      w.released = [(0, .shutdown), (1, .shutdown), (2, .shutdown)] ∧
      w.beats.flatMap (Beat.completions site) =
        [⟨0, site.node.answer request .unableToDeliver⟩] ∧
      w.TornDown site := by
  intro site cer request v w
  let w₀ : Lobby := fresh none (.acceptedCer 0 cer)
  let w₁ := w₀.give site (.event (.acceptedCer 0 cer))
  let w₂ := w₁.give site (.written none)
  let w₃ := w₂.give site (.event (.send 0 request))
  let w₄ := w₃.give site (.written none)
  let w₅ := w₄.close.close.close
  let w₆ := w₅.give site (.event (.stop 0 .rebooting))
  let w₇ := w₆.give site (.written none)
  let w₈ := w₇.give site (.event (.stop 1 .rebooting))
  have h₁ : Reached site w₀ w₁ :=
    Reached.begin.step (.turn (b := ⟨w₀.conn, ⟨0, 0, {}⟩, _⟩) rfl
      (.internal ⟨by decide, rfl⟩ rfl) (by simp [Input.stopper?]))
  have h₂ : Reached site w₀ w₂ := h₁.give (by decide +kernel) rfl
  have h₃ : Reached site w₀ w₃ := h₂.give (by decide +kernel) rfl
  have h₄ : Reached site w₀ w₄ := h₃.give (by decide +kernel) rfl
  have h₅ : Reached site w₀ w₅ :=
    ((h₄.step (.call (by decide +kernel))).step (.call (by decide +kernel))).step
      (.call (by decide +kernel))
  have h₆ : Reached site w₀ w₆ := h₅.give (by decide +kernel) (by decide +kernel)
  have h₇ : Reached site w₀ w₇ := h₆.give (by decide +kernel) rfl
  have h₈ : Reached site w₀ w₈ := h₇.give (by decide +kernel) (by decide +kernel)
  have h₉ : Reached site w₀ v := h₈.give (by decide +kernel) rfl
  have h : Reached site w₀ w := h₉.step (.finish (by decide +kernel))
  exact ⟨h, by decide +kernel, by decide +kernel, by decide +kernel, h.tornDown trivial⟩

end Lobby

end Diameter
