import Diameter.Proofs.Bypass
import Diameter.Proofs.Stage.Step

/-!
Runs of a connection: whatever it is given, in whatever order.

A run keeps, for each of its turns, the connection before the turn and what it was given. Between
turns alarms may ring; what they bring is given to the connection like any other event, in time
or late. `Run.course` follows a run from stage to stage.
-/

namespace Diameter

lemma getElem?_append_of_some {α : Type} {as : List α} {j : Nat} {a : α} (h : as[j]? = some a)
    (ds : List α) : (as ++ ds)[j]? = some a := by
  rw [List.getElem?_append_left (List.getElem?_eq_some_iff.mp h).1, h]

lemma split_concat {α : Type} {as bs cs : List α} {a b : α} (h : as ++ [a] = bs ++ b :: cs) :
    (bs = as ∧ b = a ∧ cs = []) ∨ ∃ ds, cs = ds ++ [a] ∧ as = bs ++ b :: ds := by
  rcases List.eq_nil_or_concat cs with rfl | ⟨ds, d, rfl⟩
  · obtain ⟨rfl, hd⟩ := List.append_inj' h rfl
    exact .inl ⟨rfl, (List.head_eq_of_cons_eq hd).symm, rfl⟩
  · rw [List.concat_eq_append, ← List.cons_append, ← List.append_assoc] at h
    obtain ⟨rfl, hd⟩ := List.append_inj' h rfl
    obtain rfl := List.head_eq_of_cons_eq hd
    exact .inr ⟨ds, List.concat_eq_append, rfl⟩

/-- When a turn is taken, and the identifiers it draws from. -/
structure Moment where
  now : Nat
  serial : Nat
  ids : Identifiers

/-- A turn of a run: the connection before it, and what it was given. -/
structure Beat where
  conn : Connection
  moment : Moment
  input : Input

namespace Beat

variable (site : Site) (b : Beat)

/-- The turn that was taken. -/
def turn : Turn :=
  (b.conn.without b.input).step site b.moment.now b.moment.serial b.moment.ids b.input

/-- The turn as it begins. -/
def begun : Turn where
  now := b.moment.now
  serial := b.moment.serial
  ids := b.moment.ids
  conn := b.conn.without b.input

lemma duty_begun : b.begun.conn.duty = b.conn.duty := by
  unfold begun
  cases b.input <;> rfl

lemma peerHost?_begun : b.begun.conn.peerHost? = b.conn.peerHost? := by
  unfold begun
  cases b.input <;> rfl

lemma writing_begun : b.begun.conn.writing = b.conn.writing :=
  congrArg Shape.writing (b.conn.shape_without b.input)

variable {site b}

lemma conn_begun {e : Event} (h : b.input = .event e) :
    b.begun.conn = { b.conn with internal := b.conn.internal.tail } := by
  simp only [begun, h]
  rfl

lemma sideOf?_begun {e : Event} (h : b.input = .event e) (link : Nat) :
    b.begun.conn.sideOf? link = b.conn.sideOf? link := by
  rw [conn_begun h]
  rfl

lemma activeSide?_begun {e : Event} (h : b.input = .event e) :
    b.begun.conn.activeSide? = b.conn.activeSide? := by
  rw [conn_begun h]
  rfl

lemma writing_begun_of_event (ht : b.conn.Takes b.input) {e : Event} (h : b.input = .event e) :
    b.begun.conn.writing = none := by
  rw [h] at ht
  cases ht with
  | internal ha _ | queued ha _ => exact b.writing_begun.trans ha.2

lemma turn_event {e : Event} (h : b.input = .event e) : b.turn site = b.begun.handle site e := by
  simp only [turn, begun, h]
  rfl

lemma turn_written {result : Option Failure} (h : b.input = .written result) {w : Writing}
    (hw : b.conn.writing = some w) :
    b.turn site = { b.begun with conn.writing := none }.settle site w.goal w.message result := by
  rw [turn, begun, h]
  exact step_written hw _ _ _ _

variable (site b)

/-- All effects of the turns of a run, in order. -/
def effectsOf (bs : List Beat) : List Effect := bs.flatMap fun b => (b.turn site).effects

@[simp] lemma effectsOf_nil : effectsOf site [] = [] := rfl

@[simp] lemma effectsOf_append (bs ds : List Beat) :
    effectsOf site (bs ++ ds) = effectsOf site bs ++ effectsOf site ds :=
  List.flatMap_append

@[simp] lemma effectsOf_singleton : effectsOf site [b] = (b.turn site).effects :=
  List.append_nil _

end Beat

/-- A node that authorizes for one application. -/
def Node.plain (host : String) : Node where
  host := host
  realm := "realm"
  addresses := [.v4 0x0A000001]
  vendor := 0
  product := "diameter-peer"
  firmware := none
  applications := [.auth 4]
  peer := {}
  stateId := 1

namespace Connection

/-- A connection as it is begun: with its first event. -/
def fresh (expected : Option String) (first : Event) : Connection :=
  { expectedHost := expected, internal := [first] }

/-- A connection has come from the first to the last by the turns. -/
inductive Run (site : Site) (c₀ : Connection) : List Beat → Connection → Prop
  | nil : Run site c₀ [] c₀
  /-- Alarms that are due have rung. -/
  | ring {bs c} (h : Run site c₀ bs c) (time : Nat) :
    Run site c₀ bs { c with alarms := (c.alarms.ringAll time).2 }
  | turn {bs b} (h : Run site c₀ bs b.conn) (ht : b.conn.Takes b.input) :
    Run site c₀ (bs ++ [b]) (b.turn site).conn

end Connection

/-- The stages that the turns of a run lead to. -/
inductive Course (site : Site) (expected : Option String) (first : Event) :
    List Beat → Nat → Stage → Prop
  | nil : Course site expected first [] 0 (.closed first)
  | turn {bs n s b n' s'} (h : Course site expected first bs n s)
      (hc : b.conn.shape = s.shape expected n) (ht : b.conn.Takes b.input)
      (hn : Next site expected n s b.input (b.turn site).outline n' s')
      (hs : (b.turn site).conn.shape = s'.shape expected n') :
    Course site expected first (bs ++ [b]) n' s'

variable {site : Site} {expected : Option String} {first : Event} {bs : List Beat}
  {c c₀ : Connection} {n : Nat} {s : Stage}

lemma Course.sound (h : Course site expected first bs n s) (hf : first.IsOpening) : s.Sound := by
  induction h with
  | nil => exact hf
  | turn _ _ _ hn _ ih => exact hn.sound ih

namespace Connection.Run

/-- **From stage to stage along a run.** A run that begins as connections do goes through
stages, and leaves the connection in the shape of the last. -/
theorem course (h : Run site (fresh expected first) bs c) (hf : first.IsOpening) :
    ∃ n s, Course site expected first bs n s ∧ c.shape = s.shape expected n := by
  induction h with
  | nil => exact ⟨0, .closed first, .nil, rfl⟩
  | ring _ _ ih => exact ih
  | turn h ht ih =>
    obtain ⟨n, s, hs, hc⟩ := ih
    obtain ⟨out, n', s', hn, hc', rfl⟩ := ht.follows hc (hs.sound hf) _ _ _
    exact ⟨n', s', hs.turn hc ht hn hc', hc'⟩

lemma next {b : Beat} (h : Run site (fresh expected first) bs b.conn) (hf : first.IsOpening)
    (ht : b.conn.Takes b.input) : ∃ n s n' s', b.conn.shape = s.shape expected n ∧ s.Sound ∧
      Next site expected n s b.input (b.turn site).outline n' s' ∧
      (b.turn site).conn.shape = s'.shape expected n' := by
  obtain ⟨n, s, hs, hc⟩ := h.course hf
  obtain ⟨out, n', s', hn, hc', rfl⟩ := ht.follows hc (hs.sound hf) b.moment.now b.moment.serial
    b.moment.ids
  exact ⟨n, s, n', s', hc, hs.sound hf, hn, hc'⟩

lemma shape_of_shutdown (h : Run site (fresh expected first) bs c) (hf : first.IsOpening)
    (hp : c.phase = .shutdown) :
    ∃ n peer cached, c.shape = (Stage.shut peer cached).shape expected n := by
  obtain ⟨n, s, hs, hc⟩ := h.course hf
  obtain ⟨peer, cached, rfl⟩ :=
    Stage.eq_shut (hs.sound hf) ((Stage.phase_of_shape hc).symm.trans hp)
  exact ⟨n, peer, cached, hc⟩

lemma shape_nil (h : Run site c₀ [] c) : c.shape = c₀.shape := by
  generalize hl : [] = ts at h
  induction h with
  | nil => rfl
  | ring _ _ ih => exact ih hl
  | turn => simp at hl

lemma split {b : Beat} {ds : List Beat} (h : Run site c₀ (bs ++ b :: ds) c) :
    Run site c₀ bs b.conn ∧ b.conn.Takes b.input ∧ Run site (b.turn site).conn ds c := by
  generalize hl : bs ++ b :: ds = ts at h
  induction h generalizing ds with
  | nil => simp at hl
  | ring _ time ih =>
    obtain ⟨hb, ht, hd⟩ := ih hl
    exact ⟨hb, ht, hd.ring time⟩
  | turn h ht ih =>
    rcases split_concat hl.symm with ⟨rfl, rfl, rfl⟩ | ⟨es, rfl, rfl⟩
    · exact ⟨h, ht, .nil⟩
    · obtain ⟨hb, hbt, hr⟩ := ih rfl
      exact ⟨hb, hbt, hr.turn ht⟩

end Connection.Run

/-! ### Playing a run through -/

namespace Connection

/-- The connection takes the input next, and it is no event of its own. -/
def mayTake (c : Connection) : Input → Bool
  | .event _ => c.phase ≠ .shutdown && c.writing.isNone && c.internal.isEmpty
  | .written _ => c.writing.isSome

lemma takes_of_mayTake {c : Connection} {i : Input} (h : c.mayTake i) : c.Takes i := by
  cases i with
  | event e =>
    simp only [mayTake, Bool.and_eq_true, decide_eq_true_eq, Option.isNone_iff_eq_none,
      List.isEmpty_iff] at h
    exact .queued h.1 h.2
  | written result => exact .written (Option.some_get h).symm result

/-- The turn on an input. -/
def beat (c : Connection) (i : Input) : Beat := ⟨c, ⟨0, 0, {}⟩, i⟩

/-- Turn after turn, and the connection after the last. -/
def play (site : Site) (c : Connection) : List Input → List Beat × Connection
  | [] => ([], c)
  | i :: is =>
    let (bs, d) := ((c.beat i).turn site).conn.play site is
    (c.beat i :: bs, d)

/-- Each input is taken when it comes. -/
def plays (site : Site) (c : Connection) : List Input → Bool
  | [] => true
  | i :: is => c.mayTake i && ((c.beat i).turn site).conn.plays site is

lemma Run.beat {i : Input} (h : Run site c₀ bs c) (hi : c.mayTake i) :
    Run site c₀ (bs ++ [c.beat i]) ((c.beat i).turn site).conn :=
  .turn (b := c.beat i) h (takes_of_mayTake hi)

lemma Run.play {is : List Input} (h : Run site c₀ bs c) (hp : c.plays site is) :
    Run site c₀ (bs ++ (c.play site is).1) (c.play site is).2 := by
  induction is generalizing bs c with
  | nil => simpa [Connection.play] using h
  | cons i is ih =>
    simp only [plays, Bool.and_eq_true] at hp
    simpa [Connection.play] using ih (h.beat hp.1) hp.2

lemma mem_play {is : List Input} {b : Beat} (h : b ∈ (c.play site is).1) : b.input ∈ is := by
  induction is generalizing c with
  | nil => simp [play] at h
  | cons i is ih =>
    simp only [play, List.mem_cons] at h
    rcases h with rfl | h
    · exact List.mem_cons_self
    · exact List.mem_cons_of_mem _ (ih h)

/-- The first turn of a connection. -/
def opening (first : Event) : Beat := (fresh none first).beat (.event first)

lemma run_opening (site : Site) (first : Event) :
    Run site (fresh none first) [opening first] ((opening first).turn site).conn :=
  .turn (b := opening first) .nil (.internal ⟨by simp [opening, beat, fresh], rfl⟩ rfl)

end Connection

lemma Course.split {b : Beat} {ds : List Beat}
    (h : Course site expected first (bs ++ b :: ds) n s) :
    ∃ n₁ s₁ n₂ s₂, Course site expected first bs n₁ s₁ ∧
      b.conn.shape = s₁.shape expected n₁ ∧
      Next site expected n₁ s₁ b.input (b.turn site).outline n₂ s₂ ∧
      (b.turn site).conn.shape = s₂.shape expected n₂ := by
  generalize hl : bs ++ b :: ds = ts at h
  induction h generalizing ds with
  | nil => simp at hl
  | @turn ts n₁ s₁ d n₂ s₂ h hc _ hn hs ih =>
    rcases split_concat hl.symm with ⟨rfl, rfl, rfl⟩ | ⟨es, rfl, rfl⟩
    · exact ⟨n₁, s₁, n₂, s₂, h, hc, hn, hs⟩
    · exact ih rfl

end Diameter
