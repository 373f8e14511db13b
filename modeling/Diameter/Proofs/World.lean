import Mathlib.Algebra.Group.Nat.Defs
import Diameter.Sending
import Diameter.Proofs.Settlement

/-!
A connection among those who use it: senders, and others who draw identifiers at its node.

The waiter of an attempt to send a request is the place of the attempt among all attempts. Attempts
draw their hop-by-hop identifiers from a counter that wraps. Two attempts that are outstanding at
the same time have different ones, provided that not too many are drawn meanwhile
(`World.Timely`, `World.Numbered.hopByHop_ne`).
-/

namespace Diameter

lemma UInt32.add_ofNat_ne (seed : UInt32) {i j : Nat} (hij : i < j) (h : j < i + 2 ^ 32) :
    seed + UInt32.ofNat i ≠ seed + UInt32.ofNat j := by
  intro he
  rw [UInt32.add_right_inj] at he
  have hm := congrArg UInt32.toNat he
  rw [UInt32.toNat_ofNat', UInt32.toNat_ofNat'] at hm
  omega

/-- An attempt to send a request, and how many identifiers had been drawn with its own. -/
structure Attempt where
  message : Message
  drawn : Nat

structure World where
  conn : Connection
  ids : Identifiers
  /-- Hop-by-hop identifiers drawn at the node so far. -/
  drawn : Nat := 0
  attempts : List Attempt := []
  /-- Attempts that wait to be handled. -/
  queued : List Nat := []
  beats : List Beat := []

namespace World

variable (site : Site) (w : World)

/-- A connection as it is begun. -/
def fresh (expected : Option String) (first : Event) (ids : Identifiers) : World :=
  { conn := .fresh expected first, ids }

/-- The world after one more turn. -/
def after (b : Beat) : World :=
  { w with
    conn := (b.turn site).conn, ids := (b.turn site).ids
    drawn := w.drawn + ((b.turn site).ids.hopByHop - w.ids.hopByHop).toNat
    queued := w.queued.filter fun j => b.input.waiter? ≠ some j
    beats := w.beats ++ [b] }

/-- The world after one more turn, in which the connection takes an input. -/
def give (i : Input) : World := w.after site ⟨w.conn, ⟨0, 0, w.ids⟩, i⟩

/-- Everything that may happen. -/
inductive Step : World → Prop
  /-- Others draw identifiers, `k` of them for hops. -/
  | draw (ids : Identifiers) (k : Nat)
    (h : ids.hopByHop = w.ids.hopByHop + UInt32.ofNat k) :
    Step { w with ids, drawn := w.drawn + k }
  /-- A sender makes an attempt, and finds room in the queue of the connection or not. -/
  | attempt (s : Sending) (room : Bool) :
    Step { w with
      ids := (s.attempt w.ids).2, drawn := w.drawn + 1
      attempts := w.attempts ++ [⟨(s.attempt w.ids).1, w.drawn + 1⟩]
      queued := if room then w.queued ++ [w.attempts.length] else w.queued }
  /-- Alarms that are due ring. -/
  | ring (time : Nat) :
    Step { w with conn := { w.conn with alarms := (w.conn.alarms.ringAll time).2 } }
  /-- What is queued at a connection that is shut down is dropped. -/
  | discard (j : Nat) (h : w.conn.phase = .shutdown) :
    Step { w with queued := w.queued.filter (· ≠ j) }
  /-- The connection takes what it is given; a request has been queued before. -/
  | turn {b : Beat} (hc : b.conn = w.conn) (hi : b.moment.ids = w.ids) (ht : b.conn.Takes b.input)
    (hs : ∀ j m, b.input = .event (.send j m) →
      j ∈ w.queued ∧ ∃ a, w.attempts[j]? = some a ∧ a.message = m) :
    Step (w.after site b)

/-- Attempts that are queued, or pending. -/
def outstanding : List Nat := w.queued ++ w.conn.pending.waiters

/-- Fewer than 2^32 identifiers were drawn since that of an attempt that is outstanding. -/
def Timely : Prop :=
  ∀ j ∈ w.outstanding, ∀ a, w.attempts[j]? = some a → w.drawn < a.drawn + 2 ^ 32

/-- A world that another may become, while identifiers are not used up. -/
inductive Reached (w₀ : World) : World → Prop
  | begin : Reached w₀ w₀
  | step {w w' : World} (h : Reached w₀ w) (hs : w.Step site w') (ht : w'.Timely) : Reached w₀ w'

variable {site w} in
lemma timely_of_drawn (h : w.drawn < 2 ^ 32) : w.Timely := by
  intro j _ a _
  omega

variable {site w} in
lemma Reached.give {w₀ : World} {i : Input} (h : Reached site w₀ w) (ht : w.conn.Takes i)
    (hs : ∀ j m, i = .event (.send j m) →
      j ∈ w.queued ∧ ∃ a, w.attempts[j]? = some a ∧ a.message = m)
    (hd : (w.give site i).drawn < 2 ^ 32) : Reached site w₀ (w.give site i) :=
  h.step (.turn rfl rfl ht hs) (timely_of_drawn hd)

/-- Identifiers are counted from a seed. -/
structure Numbered (seed : UInt32) : Prop where
  ids : w.ids.hopByHop = seed + UInt32.ofNat w.drawn
  attempts : ∀ a ∈ w.attempts,
    a.message.header.hopByHop = seed + UInt32.ofNat a.drawn ∧ a.drawn ≤ w.drawn
  apart : (w.attempts.map Attempt.drawn).Nodup

variable {site : Site} {w w' : World} {seed : UInt32}

lemma Numbered.step (h : w.Numbered seed) (hs : w.Step site w') : w'.Numbered seed := by
  have more : ∀ {k : Nat}, ∀ a ∈ w.attempts,
      a.message.header.hopByHop = seed + UInt32.ofNat a.drawn ∧ a.drawn ≤ w.drawn + k := by
    intro k a ha
    obtain ⟨hk, hd⟩ := h.attempts a ha
    exact ⟨hk, by omega⟩
  have count : ∀ k : Nat, w.ids.hopByHop + UInt32.ofNat k = seed + UInt32.ofNat (w.drawn + k) := by
    intro k
    rw [h.ids, UInt32.ofNat_add, UInt32.add_assoc]
  cases hs with
  -- others draw identifiers
  | draw ids k hk => exact ⟨hk.trans (count k), more, h.apart⟩
  | attempt s room =>
    -- the attempt draws the next one
    refine ⟨count 1, ?_, ?_⟩
    · intro a ha
      rcases List.mem_append.mp ha with ha | ha
      · exact more a ha
      · obtain rfl := List.mem_singleton.mp ha
        exact ⟨count 1, Nat.le_refl _⟩
    · -- its number is beyond all earlier ones
      rw [List.map_append, List.nodup_append]
      refine ⟨h.apart, by simp, ?_⟩
      intro d hd e he
      obtain ⟨a, ha, rfl⟩ := List.mem_map.mp hd
      obtain rfl : e = w.drawn + 1 := by simpa using he
      have := (h.attempts a ha).2
      omega
  | ring time => exact ⟨h.ids, h.attempts, h.apart⟩
  | discard j hp => exact ⟨h.ids, h.attempts, h.apart⟩
  | @turn b hc hi ht hs =>
    -- whatever the turn draws is counted
    refine ⟨?_, more, h.apart⟩
    have hk := count ((b.turn site).ids.hopByHop - w.ids.hopByHop).toNat
    rw [UInt32.ofNat_toNat] at hk
    show (b.turn site).ids.hopByHop = _
    rw [after, ← hk, UInt32.add_comm, UInt32.sub_add_cancel]

/-- Attempts that are outstanding at the same time have different identifiers. -/
lemma Numbered.hopByHop_ne (h : w.Numbered seed) (ht : w.Timely) {i j : Nat} {a b : Attempt}
    (hi : i ∈ w.outstanding) (hj : j ∈ w.outstanding) (ha : w.attempts[i]? = some a)
    (hb : w.attempts[j]? = some b) (hij : i ≠ j) :
    a.message.header.hopByHop ≠ b.message.header.hopByHop := by
  obtain ⟨hak, had⟩ := h.attempts a (List.mem_of_getElem? ha)
  obtain ⟨hbk, hbd⟩ := h.attempts b (List.mem_of_getElem? hb)
  have hta := ht i hi a ha
  have htb := ht j hj b hb
  have hne : a.drawn ≠ b.drawn := by
    intro he
    have hl : i < (w.attempts.map Attempt.drawn).length := by
      rw [List.length_map]
      exact (List.getElem?_eq_some_iff.mp ha).1
    refine hij ((List.getElem?_inj hl h.apart).mp ?_)
    rw [List.getElem?_map, List.getElem?_map, ha, hb, Option.map_some, Option.map_some, he]
  rw [hak, hbk]
  rcases Nat.lt_or_gt_of_ne hne with hlt | hlt
  · exact UInt32.add_ofNat_ne seed hlt (by omega)
  · exact (UInt32.add_ofNat_ne seed hlt (by omega)).symm

end World

end Diameter
