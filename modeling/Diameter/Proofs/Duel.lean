import Mathlib.Data.Option.Basic
import Mathlib.Logic.Function.Basic
import Diameter.Proofs.Introduction
import Diameter.Proofs.Negotiation
import Diameter.Proofs.Run

/-!
Two ends that dial each other, and the two streams between them.

Each end works with one connection, which expects the other end and begins by dialing it. A stream
goes by the end that dials it. What is written on a stream is read in order, and a stream ends only
when an end drops it. In what order dials succeed, streams are handed over, messages are delivered
and ends of streams are noticed is left open (`Duel.Step`).
-/

namespace Diameter

/-- One of two ends. -/
inductive Party where
  | one
  | two
  deriving DecidableEq

namespace Party

def other : Party → Party
  | one => two
  | two => one

@[simp] lemma other_other (p : Party) : p.other.other = p := by cases p <;> rfl

@[simp] lemma other_ne (p : Party) : p.other ≠ p := by cases p <;> decide

@[simp] lemma ne_other (p : Party) : p ≠ p.other := by cases p <;> decide

lemma eq_or_eq_other (p q : Party) : q = p ∨ q = p.other := by cases p <;> cases q <;> decide

lemma forall_iff (p : Party) {P : Party → Prop} : (∀ q, P q) ↔ P p ∧ P p.other := by
  refine ⟨fun h => ⟨h p, h p.other⟩, fun h q => ?_⟩
  rcases eq_or_eq_other p q with rfl | rfl
  · exact h.1
  · exact h.2

end Party

/-! ### What a turn does to a stream -/

/-- The effect closes the stream. -/
def Effect.closes (stream : Nat) : Effect → Bool
  | .hangUp link => link.stream = stream
  | .refuse k => k = stream
  | _ => false

/-- News of a stream, by its attachment. -/
def Event.isNewsOf (link : Nat) : Event → Bool
  | .received l _ | .receivedInvalid l _ _ | .disconnected l _ => l = link
  | _ => false

namespace Turn

def closes (stream : Nat) (t : Turn) : Bool := t.effects.any (Effect.closes stream)

/-- The message that the turn begins to write on the stream. -/
def writes? (stream : Nat) (t : Turn) : Option Message :=
  (t.conn.writing.filter (·.link.stream = stream)).map (·.message)

lemma closes_eq (stream : Nat) (t : Turn) :
    t.closes stream = t.outline.any (Effect.closes stream) := by
  have hs : ∀ e : Effect, e.closes stream = (e.isStructural && e.closes stream) := by
    intro e
    cases e <;> simp [Effect.closes, Effect.isStructural]
  rw [outline, List.any_filter, closes]
  exact congrArg t.effects.any (funext hs)

end Turn

/-- A stream, with what each end has to do with it. -/
structure Wire where
  /-- What was written toward an end and not read so far. -/
  toward : Party → List Message := fun _ => []
  /-- Its CER was handed over at the end that did not dial it. -/
  handed : Bool := false
  /-- An end has dropped it. -/
  left : Party → Bool := fun _ => false

namespace Wire

variable (w : Wire) (p : Party)

def put (m : Message) : Wire :=
  { w with toward := Function.update w.toward p (w.toward p ++ [m]) }

/-- The first message toward an end is read. -/
def take : Wire := { w with toward := Function.update w.toward p (w.toward p).tail }

def hand : Wire := { w.take p with handed := true }

def leave : Wire := { w with left := Function.update w.left p true }

/-- What a turn of an end makes of a stream. -/
def after (stream : Nat) (t : Turn) : Wire :=
  let w := match t.writes? stream with
    | some m => w.put p.other m
    | none => w
  if t.closes stream then w.leave p else w

end Wire

/-- The connection takes an event from outside. -/
def Connection.isFree (c : Connection) : Bool :=
  c.phase ≠ .shutdown && c.writing.isNone && c.internal.isEmpty

/-! ### The duel -/

/-- Two ends that dial each other: what each works with, and the stream its dial gives. -/
structure Duel where
  site : Party → Site
  stream : Party → Nat

namespace Duel

structure State where
  conn : Party → Connection
  wire : Party → Wire

variable (d : Duel)

def node (p : Party) : Node := (d.site p).node

def host (p : Party) : String := (d.node p).host

/-- Both ends are about to dial. -/
def start : State where
  conn p := .fresh (some (d.host p.other)) .start
  wire _ := {}

/-- What there is for an end to take, and what is left on the streams once it has taken it. Only
what a connection tells itself, what its dial gives and what the other end does is there: no write
fails, no alarm rings, and nobody closes the connection. -/
inductive Offers (s : State) (p : Party) : Input → (Party → Wire) → Prop
  | internal {e} (h : e ∈ (s.conn p).internal) : Offers s p (.event e) s.wire
  | written (h : (s.conn p).writing.isSome) : Offers s p (.written none) s.wire
  | dialed (h : (s.conn p).dialing) : Offers s p (.event (.dialed (d.stream p))) s.wire
  /-- The stream of the other end comes with its CER. -/
  | handed {cer rest} (hn : (s.wire p.other).handed = false)
      (hm : (s.wire p.other).toward p = cer :: rest) :
    Offers s p (.event (.acceptedCer (d.stream p.other) cer))
      (Function.update s.wire p.other ((s.wire p.other).hand p))
  | received {side link q m rest} (hl : (s.conn p).link? side = some link)
      (hs : link.stream = d.stream q) (hm : (s.wire q).toward p = m :: rest) :
    Offers s p (.event (.received link.id m)) (Function.update s.wire q ((s.wire q).take p))
  /-- The other end has dropped a stream, and all that came before was read. -/
  | ended {side link q} (hl : (s.conn p).link? side = some link) (hs : link.stream = d.stream q)
      (hm : (s.wire q).toward p = []) (hg : (s.wire q).left p.other) (e : Failure) :
    Offers s p (.event (.disconnected link.id e)) s.wire

/-- The turn of an end on an input. -/
def turn (s : State) (p : Party) (m : Moment) (i : Input) : Turn :=
  (⟨s.conn p, m, i⟩ : Beat).turn (d.site p)

/-- The state after a turn of an end, given what the turn found on the streams. -/
def after (s : State) (p : Party) (wire : Party → Wire) (t : Turn) : State where
  conn := Function.update s.conn p t.conn
  wire q := (wire q).after p (d.stream q) t

/-- An end takes what there is. -/
inductive Take (s : State) : State → Prop
  | take {p i wire} (ho : d.Offers s p i wire) (ht : (s.conn p).Takes i) (m : Moment) :
    Take s (d.after s p wire (d.turn s p m i))

/-- An end takes what there is, or late news of a stream that it has dropped. -/
inductive Step (s : State) : State → Prop
  | take {s'} (h : d.Take s s') : Step s s'
  | stray {p e link} (he : e.isNewsOf link) (hl : (s.conn p).sideOf? link = none)
      (ht : (s.conn p).Takes (.event e)) (m : Moment) :
    Step s (d.after s p s.wire (d.turn s p m (.event e)))

/-- The states that the duel may come to. -/
inductive Reached : State → Prop
  | start : Reached d.start
  | step {s s'} (h : Reached s) (hs : d.Step s s') : Reached s'

/-- Nothing is left for anyone to take. -/
def Quiet (s : State) : Prop :=
  ∀ p i wire, d.Offers s p i wire → ¬(s.conn p).Takes i

/-! ### Playing a duel -/

/-- What an end may take next. -/
inductive Choice where
  | internal
  | written
  | dialed
  | handed
  | received (side : Side) (q : Party)
  | ended (side : Side) (q : Party)

/-- What an end takes by a choice, if it can, and what is left on the streams. -/
def pick (s : State) (p : Party) : Choice → Option (Input × (Party → Wire))
  | .internal => do
    let e ← (s.conn p).internal.head?
    guard ((s.conn p).phase ≠ .shutdown ∧ (s.conn p).writing.isNone)
    return (.event e, s.wire)
  | .written => do
    guard (s.conn p).writing.isSome
    return (.written none, s.wire)
  | .dialed => do
    guard ((s.conn p).isFree ∧ (s.conn p).dialing)
    return (.event (.dialed (d.stream p)), s.wire)
  | .handed => do
    let cer ← ((s.wire p.other).toward p).head?
    guard ((s.conn p).isFree ∧ (s.wire p.other).handed = false)
    return (.event (.acceptedCer (d.stream p.other) cer),
      Function.update s.wire p.other ((s.wire p.other).hand p))
  | .received side q => do
    let link ← (s.conn p).link? side
    let m ← ((s.wire q).toward p).head?
    guard ((s.conn p).isFree ∧ link.stream = d.stream q)
    return (.event (.received link.id m), Function.update s.wire q ((s.wire q).take p))
  | .ended side q => do
    let link ← (s.conn p).link? side
    guard ((s.conn p).isFree ∧ link.stream = d.stream q ∧ (s.wire q).toward p = [] ∧
      (s.wire q).left p.other)
    return (.event (.disconnected link.id .closed), s.wire)

/-- The state after the ends have taken what they chose, one after the other. -/
def play : State → List (Party × Choice) → Option State
  | s, [] => s
  | s, (p, k) :: ks => do
    let (i, wire) ← d.pick s p k
    play (d.after s p wire (d.turn s p ⟨0, 0, {}⟩ i)) ks

/-- Two nodes, set up as nodes are, that agree on applications and whose hosts differ. What they
write to introduce themselves fits into a message. -/
structure Fair : Prop where
  valid : ∀ p, (d.node p).Valid
  hosts : Identity.same (d.host .one) (d.host .two) = false
  negotiates : ∃ common,
    negotiate (d.node .one).applications (d.node .two).applications = .ok common
  streams : d.stream .one ≠ d.stream .two
  cer : ∀ p ids, ((d.node p).cer ids).1.checkLength = .ok ()
  cea : ∀ p cer, ((d.node p).cea cer .success).checkLength = .ok ()

/-- The end keeps the stream that it was dialed on. -/
def wins (p : Party) : Bool := wonElection (d.host p) (d.host p.other)

variable {d} {p : Party} {s s' : State}

@[simp] lemma conn_after (s : State) (wire : Party → Wire) (t : Turn) :
    (d.after s p wire t).conn p = t.conn := Function.update_self ..

@[simp] lemma conn_after_other (s : State) (wire : Party → Wire) (t : Turn) :
    (d.after s p wire t).conn p.other = s.conn p.other :=
  Function.update_of_ne (Party.other_ne p) ..

lemma pick_spec {k : Choice} {i : Input} {wire : Party → Wire}
    (h : d.pick s p k = some (i, wire)) : d.Offers s p i wire ∧ (s.conn p).Takes i := by
  have free : ∀ {e}, (s.conn p).isFree → (s.conn p).Takes (.event e) := by
    intro e hf
    simp only [Connection.isFree, Bool.and_eq_true, decide_eq_true_eq, Option.isNone_iff_eq_none,
      List.isEmpty_iff] at hf
    exact .queued hf.1 hf.2
  cases k with
  | internal =>
    obtain ⟨e, he, hr, rfl, rfl⟩ := by
      simpa [pick, Option.bind_eq_some_iff, Option.guard_eq_some'] using h
    obtain ⟨rest, hi⟩ := List.head?_eq_some_iff.mp he
    exact ⟨.internal (hi ▸ List.mem_cons_self), .internal hr hi⟩
  | written =>
    obtain ⟨hw, rfl, rfl⟩ := by
      simpa [pick, Option.bind_eq_some_iff, Option.guard_eq_some'] using h
    exact ⟨.written hw, .written (Option.some_get hw).symm none⟩
  | dialed =>
    obtain ⟨⟨hf, hs⟩, rfl, rfl⟩ := by
      simpa [pick, Option.bind_eq_some_iff, Option.guard_eq_some'] using h
    exact ⟨.dialed hs, free hf⟩
  | handed =>
    obtain ⟨cer, hm, ⟨hf, hn⟩, rfl, rfl⟩ := by
      simpa [pick, Option.bind_eq_some_iff, Option.guard_eq_some'] using h
    obtain ⟨rest, hm⟩ := List.head?_eq_some_iff.mp hm
    exact ⟨.handed hn hm, free hf⟩
  | received side q =>
    obtain ⟨link, hl, m, hm, ⟨hf, hs⟩, rfl, rfl⟩ := by
      simpa [pick, Option.bind_eq_some_iff, Option.guard_eq_some'] using h
    obtain ⟨rest, hm⟩ := List.head?_eq_some_iff.mp hm
    exact ⟨.received hl hs hm, free hf⟩
  | ended side q =>
    obtain ⟨link, hl, ⟨hf, hs, hm, hg⟩, rfl, rfl⟩ := by
      simpa [pick, Option.bind_eq_some_iff, Option.guard_eq_some'] using h
    exact ⟨.ended hl hs hm hg .closed, free hf⟩

lemma Reached.play {ks : List (Party × Choice)} (h : d.Reached s) (hs : d.play s ks = some s') :
    d.Reached s' := by
  induction ks generalizing s with
  | nil =>
    obtain rfl : s = s' := Option.some.inj hs
    exact h
  | cons pk ks ih =>
    obtain ⟨⟨i, wire⟩, hp, hs⟩ := Option.bind_eq_some_iff.mp hs
    obtain ⟨ho, ht⟩ := pick_spec hp
    exact ih (h.step (.take (.take ho ht _))) hs

lemma Reached.run (h : d.Reached s) (p : Party) :
    ∃ bs, Connection.Run (d.site p) (.fresh (some (d.host p.other)) .start) bs (s.conn p) := by
  have next : ∀ {s q i wire m}, (∃ bs, Connection.Run (d.site p)
      (.fresh (some (d.host p.other)) .start) bs (s.conn p)) → (s.conn q).Takes i →
      ∃ bs, Connection.Run (d.site p) (.fresh (some (d.host p.other)) .start) bs
        ((d.after s q wire (d.turn s q m i)).conn p) := by
    rintro s q i wire m ⟨bs, hr⟩ ht
    rcases Party.eq_or_eq_other q p with rfl | rfl
    · refine ⟨bs ++ [⟨s.conn p, m, i⟩], ?_⟩
      rw [conn_after]
      exact hr.turn ht
    · exact ⟨bs, by rwa [conn_after_other]⟩
  induction h with
  | start => exact ⟨[], .nil⟩
  | step _ hs ih =>
    cases hs with
    | take hs =>
      cases hs with
      | take _ ht => exact next ih ht
    | stray _ _ ht => exact next ih ht

lemma quiet_of_pick (h : ∀ p k, d.pick s p k = none) : d.Quiet s := by
  intro p i wire ho ht
  cases ht with
  | written hw result => simpa [pick, hw] using h p .written
  | internal ha hi => simpa [pick, hi, ha.1, ha.2] using h p .internal
  | queued ha hi =>
    have hf : (s.conn p).isFree := by simp [Connection.isFree, ha.1, ha.2, hi]
    cases ho with
    | internal he => simp [hi] at he
    | dialed hs => simpa [pick, hf, hs] using h p .dialed
    | handed hn hm => simpa [pick, hf, hn, hm] using h p .handed
    | @received side link q m rest hl hs hm =>
      simpa [pick, hf, hl, hs, hm] using h p (.received side q)
    | @ended side link q hl hs hm hg e =>
      simpa [pick, hf, hl, hs, hm, hg] using h p (.ended side q)

namespace Fair

lemma wins_other (h : d.Fair) (p : Party) : d.wins p.other = !d.wins p := by
  have hh : ∀ q : Party, Identity.same (d.host q.other) (d.host q) = false := by
    intro q
    cases q with
    | one => rw [Identity.same, Bool.beq_comm]; exact h.hosts
    | two => exact h.hosts
  rw [wins, Party.other_other]
  exact wonElection_eq_not (hh p)

lemma stream_ne (h : d.Fair) (p : Party) : d.stream p.other ≠ d.stream p := by
  cases p with
  | one => exact h.streams.symm
  | two => exact h.streams

lemma negotiates_other (h : d.Fair) (p : Party) :
    ∃ common, negotiate (d.node p).applications (d.node p.other).applications = .ok common := by
  obtain ⟨common, hc⟩ := h.negotiates
  cases p with
  | one => exact ⟨common, hc⟩
  | two => exact negotiate_symm hc

lemma identify_cer (h : d.Fair) (p : Party) (ids : Identifiers) :
    ∃ peer, (d.node p).identify ((d.node p.other).cer ids).1 = .ok peer ∧
      peer.host = d.host p.other := by
  obtain ⟨common, hc⟩ := h.negotiates_other p
  refine ⟨⟨d.host p.other, (d.node p.other).realm, common⟩, ?_, rfl⟩
  rw [Node.identify_cer _ (h.valid p.other), hc]
  rfl

lemma acceptCea_cea (h : d.Fair) (p : Party) (cer : Message) :
    ∃ peer, (d.node p).acceptCea ((d.node p.other).cea cer .success) = .ok peer ∧
      peer.host = d.host p.other := by
  obtain ⟨common, hc⟩ := h.negotiates_other p
  refine ⟨⟨d.host p.other, (d.node p.other).realm, common⟩, ?_, rfl⟩
  rw [Node.acceptCea_cea _ (h.valid p.other), hc]
  rfl

end Fair

end Duel

end Diameter
