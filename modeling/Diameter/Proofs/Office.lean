import Diameter.Proofs.Replies
import Diameter.Proofs.Tidy

/-!
A connection and the handlers that work for it.

Requests go from the connection to handlers, who work on them for as long as they like and come back
in any order; what they have made is handled like any other event. Every answer that is written
answers a request of its own, which came on the same stream before; and a request on the stream that
carries traffic is not lost on the way. Main statement: `Office.Reached.answersOnce`.
-/

namespace Diameter

/-- A request in the hands of a handler: the turn and the stream it came with. -/
structure Job where
  turn : Nat
  link : Nat
  request : Message
  deriving DecidableEq

/-- What a handler has made of a request, on its way back. -/
structure Reply where
  turn : Nat
  link : Nat
  answer : Message

structure Office where
  conn : Connection
  jobs : List Job := []
  ready : List Reply := []
  beats : List Beat := []

/-- What a handler has made, and the stream it is for. -/
def Input.handled? : Input → Option (Nat × Message)
  | .event (.handled link answer) => some (link, answer)
  | _ => none

namespace Office

variable (site : Site) (w : Office)

def fresh (expected : Option String) (first : Event) : Office := { conn := .fresh expected first }

/-- After one more turn: what goes to the registry is in the hands of handlers, and this is what is
on its way back. -/
def after (b : Beat) (ready : List Reply) : Office where
  conn := (b.turn site).conn
  jobs := w.jobs ++ (b.turn site).dispatched.map fun x => ⟨w.beats.length, x.1, x.2⟩
  ready := ready
  beats := w.beats ++ [b]

/-- Everything that may happen. -/
inductive Step : Office → Prop
  /-- Alarms that are due ring. -/
  | ring (time : Nat) :
    Step { w with conn := { w.conn with alarms := (w.conn.alarms.ringAll time).2 } }
  /-- The connection takes what it is given. What a handler has made is on its way back until it is
  taken. -/
  | turn {b : Beat} {o : Option Reply} {ready : List Reply} (hc : b.conn = w.conn)
    (ht : b.conn.Takes b.input) (hr : w.ready.Perm (o.toList ++ ready))
    (ho : b.input.handled? = o.map fun r => (r.link, r.answer)) : Step (w.after site b ready)
  /-- A handler is done, whichever there was in the registry and whatever has become of it. -/
  | finish {as ds : List Job} {j : Job} (hj : w.jobs = as ++ j :: ds) (r : Registry) :
    Step { w with
      jobs := as ++ ds
      ready := w.ready ++ [⟨j.turn, j.link, r.dispatch site.node j.request⟩] }

/-- What may become of a beginning. -/
inductive Reached (w₀ : Office) : Office → Prop
  | begin : Reached w₀ w₀
  | step {w w' : Office} (h : Reached w₀ w) (hs : w.Step site w') : Reached w₀ w'

end Office

section Owed

variable (site : Site) (bs : List Beat)

/-- The message answers a request that came on the stream, with the turn of this number. -/
def Owed (j : Nat) (link : Link) (m : Message) : Prop :=
  ∃ a h, bs[j]? = some a ∧ a.Asks site link h ∧ m.header.Replies h

/-- With the one turn an answer has been written, and with the other, before, its request came on
the same stream. -/
def Settles (i j : Nat) : Prop :=
  j < i ∧ ∃ b v, bs[i]? = some b ∧ b.wrote = some v ∧ Owed site bs j v.link v.message

/-- Where there is an answer, it is known which request it answers. -/
inductive Traced : Option (Link × Message) → Option Nat → Prop
  | idle : Traced none none
  | owed {link : Link} {m : Message} {j : Nat} (h : Owed site bs j link m) :
    Traced (some (link, m)) (some j)

/-- **How requests are served.** The ledger has an entry for each answer that has been written, with
the turn in which it was and the turn that its request came with; `current` is the turn that the
request came with whose answer is being written. -/
structure Office.AnswersOnce (w : Office) (ledger : List (Nat × Nat)) (current : Option Nat) :
    Prop where
  /-- Every answer that was written is in the ledger; a message that is no request is one, unless a
  sender has handed it over. -/
  entered : ∀ (i : Nat) b v, w.beats[i]? = some b → b.wrote = some v →
    v.message.header.isRequest = false → v.goal ≠ .request → i ∈ ledger.map Prod.fst
  /-- It has the command, the application and the identifiers of a request that came before on the
  same stream. -/
  settles : ∀ x ∈ ledger, Settles site w.beats x.1 x.2
  /-- That is one request for each answer. -/
  once : (ledger.map Prod.fst).Nodup
  /-- No request is answered twice. -/
  injective : (ledger.map Prod.snd).Nodup
  /-- So it is with the answer that is being written. -/
  underway : Traced site w.beats w.conn.shape.reply? current
  /-- A handler works on the request that it was given. -/
  jobs : ∀ j ∈ w.jobs, ∃ b, w.beats[j.turn]? = some b ∧
    b.input = .event (.received j.link j.request)
  /-- While its stream is attached, a request that may not be passed over has been answered, or is
  being answered, or is in the hands of one handler, or what one has made of it is on its way back:
  one of these, and once. -/
  served : ∀ (j : Nat) b link h, w.beats[j]? = some b → b.Presents link h →
    (∃ side, w.conn.link? side = some link) →
    (ledger.map Prod.snd).count j + current.toList.count j + (w.jobs.map (·.turn)).count j +
      (w.ready.map (·.turn)).count j = 1

end Owed

variable {site : Site} {expected : Option String} {first : Event} {bs : List Beat} {a b : Beat}
  {w w' : Office} {link : Link} {m : Message} {h : Header} {i j : Nat}

/-! ### One more turn -/

lemma getElem?_concat (ha : (bs ++ [b])[j]? = some a) :
    bs[j]? = some a ∨ j = bs.length ∧ b = a := by
  rcases Nat.lt_trichotomy j bs.length with hj | rfl | hj
  · exact .inl (by rwa [List.getElem?_append_left hj] at ha)
  · exact .inr ⟨rfl, by simpa using ha⟩
  · exact absurd (List.getElem?_eq_some_iff.mp ha).1 (by simp; omega)

lemma Owed.concat (ho : Owed site bs j link m) (b : Beat) : Owed site (bs ++ [b]) j link m := by
  obtain ⟨a, k, ha, hk, hm⟩ := ho
  exact ⟨a, k, getElem?_append_of_some ha _, hk, hm⟩

lemma Owed.of_asks (ha : b.Asks site link h) (hm : m.header.Replies h) :
    Owed site (bs ++ [b]) bs.length link m :=
  ⟨b, h, by simp, ha, hm⟩

lemma Owed.lt (ho : Owed site bs j link m) : j < bs.length := by
  obtain ⟨a, k, ha, -⟩ := ho
  exact (List.getElem?_eq_some_iff.mp ha).1

lemma Settles.concat (hs : Settles site bs i j) (b : Beat) : Settles site (bs ++ [b]) i j := by
  obtain ⟨hj, a, v, ha, hv, ho⟩ := hs
  exact ⟨hj, a, v, getElem?_append_of_some ha _, hv, ho.concat b⟩

lemma Settles.lt (hs : Settles site bs i j) : i < bs.length := by
  obtain ⟨-, a, v, ha, -⟩ := hs
  exact (List.getElem?_eq_some_iff.mp ha).1

lemma Input.eq_of_handled? {i : Input} {l : Nat} (hi : i.handled? = some (l, m)) :
    i = .event (.handled l m) := by
  unfold handled? at hi
  split at hi
  · obtain ⟨rfl, rfl⟩ := Prod.mk.inj (Option.some.inj hi)
    rfl
  · exact absurd hi (by simp)

lemma Beat.Asks.handled? (ha : b.Asks site link h) : b.input.handled? = none := by
  cases ha with
  | along hi | whole hi | header hi => rw [hi]; rfl

lemma Beat.Presents.activeLink? (hp : b.Presents link h) : b.conn.activeLink? = some link := by
  cases hp with
  | whole _ ha | header _ ha => exact ha

lemma Beat.Presents.asks (site : Site) (hp : b.Presents link h) : b.Asks site link h := by
  obtain ⟨side, -, hl⟩ := Option.bind_eq_some_iff.mp hp.activeLink?
  cases hp with
  | whole hi _ hr => exact .whole hi hl hr
  | header hi _ hr => exact .header hi hl hr

namespace Traced

variable {o : Option (Link × Message)} {k : Option Nat}

lemma concat (ht : Traced site bs o k) (b : Beat) : Traced site (bs ++ [b]) o k := by
  cases ht with
  | idle => exact .idle
  | owed ho => exact .owed (ho.concat b)

lemma of_eq_none (ho : o = none) : Traced site bs o none := ho ▸ .idle

lemma of_eq_some (ho : o = some (link, m)) (hj : Owed site bs j link m) :
    Traced site bs o (some j) := ho ▸ .owed hj

lemma eq_none (ht : Traced site bs none k) : k = none := by cases ht; rfl

lemma exists_some (ht : Traced site bs (some (link, m)) k) :
    ∃ j, k = some j ∧ Owed site bs j link m := by
  cases ht with
  | owed ho => exact ⟨_, rfl, ho⟩

lemma forget {o' : Option (Link × Message)} (ht : Traced site bs o k) (b : Beat)
    (ho : o' = o ∨ o' = none) :
    ∃ k', Traced site (bs ++ [b]) o' k' ∧ ∀ j, k'.toList.count j ≤ k.toList.count j := by
  rcases ho with rfl | rfl
  · exact ⟨k, ht.concat b, fun _ => le_rfl⟩
  · exact ⟨none, .idle, by simp⟩

lemma of_wrote (ht : Traced site bs b.conn.shape.reply? k) {v : Writing}
    (hv : b.wrote = some v) (hg : v.goal.isReply) : k.isSome := by
  have hw : b.conn.shape.writing = some v := (b.writing_of_wrote hv).2
  have hs : b.conn.shape.reply? = some (v.link, v.message) := by
    simp [Shape.reply?, hw, Option.filter, hg]
  rw [hs] at ht
  obtain ⟨j, rfl, -⟩ := ht.exists_some
  rfl

lemma settles (ht : Traced site bs b.conn.shape.reply? (some j)) (hi : b.input = .written none) :
    Settles site (bs ++ [b]) bs.length j := by
  generalize hs : b.conn.shape.reply? = o at ht
  cases ht with
  | owed ho =>
    obtain ⟨v, hv, -, rfl, rfl⟩ := Shape.reply?_eq_some hs
    exact ⟨ho.lt, b, v, by simp, (b.wrote_written hi).trans hv, ho.concat b⟩

end Traced

/-- A connection carries traffic on the stream, or is shut down. -/
def Connection.Attends (c : Connection) (link : Link) : Prop :=
  c.phase = .shutdown ∨ c.activeLink? = some link

/-- What is known of the answers: those that have been written, the one that is being written, and
the one that is kept for the election. -/
structure Books where
  ledger : List (Nat × Nat) := []
  current : Option Nat := none
  kept : Option Nat := none

namespace Books

/-- Turns that a request has come with which this end is to answer without more work. -/
def due (k : Books) (ready : List Reply) : List Nat :=
  k.current.toList ++ k.kept.toList ++ ready.map (·.turn)

/-- Turns that a request has come with which has been answered or will be. -/
def turns (k : Books) (w : Office) : List Nat :=
  k.ledger.map Prod.snd ++ w.jobs.map (·.turn) ++ k.due w.ready

lemma count_due (k : Books) (ready : List Reply) (j : Nat) : (k.due ready).count j =
    k.current.toList.count j + k.kept.toList.count j + (ready.map (·.turn)).count j := by
  simp only [due, List.count_append]

lemma count_turns (k : Books) (w : Office) (j : Nat) : (k.turns w).count j =
    (k.ledger.map Prod.snd).count j + (w.jobs.map (·.turn)).count j + (k.due w.ready).count j := by
  simp only [turns, List.count_append]

/-- The books before and after a turn, in which an entry may be made. -/
structure Follows (site : Site) (w : Office) (b : Beat) (ready : List Reply) (entry : Option Nat)
    (k k' : Books) : Prop where
  back : ∀ r ∈ ready, r ∈ w.ready
  ledger : k'.ledger = k.ledger ++ entry.toList.map fun j => (w.beats.length, j)
  entered : ∀ v, b.wrote = some v → v.goal.isReply → entry.isSome
  settles : ∀ j, entry = some j → Settles site (w.beats ++ [b]) w.beats.length j
  current : Traced site (w.beats ++ [b]) (b.turn site).conn.shape.reply? k'.current
  kept : Traced site (w.beats ++ [b]) (b.turn site).conn.shape.kept? k'.kept
  /-- What is to be answered is in one place afterwards if it was in one before, and nothing is new
  but the request that has just come. -/
  count : ∀ j, entry.toList.count j +
      ((b.turn site).dispatched.map fun _ => w.beats.length).count j + (k'.due ready).count j ≤
    (k.due w.ready).count j + [w.beats.length].count j
  /-- Where traffic is carried nothing is forgotten. -/
  keep : (b.turn site).conn.phase ≠ .shutdown → b.conn.activeLink?.isSome →
    ∀ j ∈ k.due w.ready, j ∈ entry.toList ++ k'.due ready
  /-- Nor is the request that has just come. -/
  new : (b.turn site).conn.phase ≠ .shutdown → ∀ link h, b.Presents link h →
    (b.turn site).dispatched ≠ [] ∨ w.beats.length ∈ k'.due ready

end Books

namespace Office

lemma turns_after (site : Site) (w : Office) (b : Beat) (ready : List Reply) :
    (w.after site b ready).jobs.map (·.turn) =
      w.jobs.map (·.turn) ++ (b.turn site).dispatched.map fun _ => w.beats.length := by
  simp [after, Function.comp_def]

end Office

namespace Books.Follows

variable {k k' : Books} {ready : List Reply} {entry : Option Nat}

lemma map_ledger (hk : k.Follows site w b ready entry k') :
    k'.ledger.map Prod.snd = k.ledger.map Prod.snd ++ entry.toList := by
  rw [hk.ledger]
  simp [Function.comp_def]

lemma count_le (hk : k.Follows site w b ready entry k') (j : Nat) :
    (k'.turns (w.after site b ready)).count j ≤
      (k.turns w).count j + [w.beats.length].count j := by
  have hc := hk.count j
  rw [count_turns, count_turns, hk.map_ledger, Office.turns_after, List.count_append,
    List.count_append, show (w.after site b ready).ready = ready from rfl]
  omega

lemma mem_turns (hk : k.Follows site w b ready entry k') :
    j ∈ k'.turns (w.after site b ready) ↔
      ((j ∈ k.ledger.map Prod.snd ∨ j ∈ entry.toList) ∨ j ∈ w.jobs.map (·.turn) ∨
        j ∈ (b.turn site).dispatched.map fun _ => w.beats.length) ∨ j ∈ k'.due ready := by
  simp only [turns, hk.map_ledger, Office.turns_after, List.mem_append]
  rfl

lemma mem_of_mem (hk : k.Follows site w b ready entry k')
    (hp : (b.turn site).conn.phase ≠ .shutdown) (ha : b.conn.activeLink?.isSome)
    (hj : j ∈ k.turns w) : j ∈ k'.turns (w.after site b ready) := by
  rw [hk.mem_turns]
  rcases List.mem_append.mp hj with hj | hj
  · rcases List.mem_append.mp hj with hj | hj
    · exact .inl (.inl (.inl hj))
    · exact .inl (.inr (.inl hj))
  · rcases List.mem_append.mp (hk.keep hp ha j hj) with hj | hj
    · exact .inl (.inl (.inr hj))
    · exact .inr hj

lemma mem_new (hk : k.Follows site w b ready entry k')
    (hp : (b.turn site).conn.phase ≠ .shutdown) (hx : b.Presents link h) :
    w.beats.length ∈ k'.turns (w.after site b ready) := by
  rw [hk.mem_turns]
  rcases hk.new hp link h hx with hd | hm
  · refine .inl (.inr (.inr (List.mem_map.mpr ?_)))
    obtain ⟨x, hx⟩ := List.exists_mem_of_ne_nil _ hd
    exact ⟨x, hx, rfl⟩
  · exact .inr hm

end Books.Follows

namespace Office

/-- What is known of an office at any time. -/
structure Tracked (site : Site) (expected : Option String) (first : Event) (w : Office)
    (k : Books) : Prop where
  run : Connection.Run site (.fresh expected first) w.beats w.conn
  entered : ∀ (i : Nat) b v, w.beats[i]? = some b → b.wrote = some v → v.goal.isReply →
    i ∈ k.ledger.map Prod.fst
  settles : ∀ x ∈ k.ledger, Settles site w.beats x.1 x.2
  once : (k.ledger.map Prod.fst).Nodup
  current : Traced site w.beats w.conn.shape.reply? k.current
  kept : Traced site w.beats w.conn.shape.kept? k.kept
  jobs : ∀ j ∈ w.jobs, ∃ b link, w.beats[j.turn]? = some b ∧ link.id = j.link ∧
    b.input = .event (.received j.link j.request) ∧ b.Asks site link j.request.header ∧
    w.conn.Attends link
  ready : ∀ r ∈ w.ready, ∃ link, link.id = r.link ∧ Owed site w.beats r.turn link r.answer ∧
    w.conn.Attends link
  distinct : (k.turns w).Nodup
  past : ∀ j ∈ k.turns w, j < w.beats.length
  presented : ∀ (j : Nat) b link h, w.beats[j]? = some b → b.Presents link h →
    w.conn.phase = .shutdown ∨ w.conn.activeLink? = some link ∧ j ∈ k.turns w

namespace Tracked

variable {k k' : Books} {o : Option Reply} {ready : List Reply} {entry : Option Nat}

lemma begin : (fresh expected first).Tracked site expected first {} where
  run := .nil
  entered := by simp [fresh]
  settles := by simp
  once := by simp
  current := .idle
  kept := .idle
  jobs := by simp [fresh]
  ready := by simp [fresh]
  distinct := by simp [Books.turns, Books.due, fresh]
  past := by simp [Books.turns, Books.due, fresh]
  presented := by simp [fresh]

lemma staged (h : w.Tracked site expected first k) (hf : first.IsOpening) (hc : b.conn = w.conn)
    (ht : b.conn.Takes b.input) : b.Staged site expected :=
  Connection.Run.staged (hc ▸ h.run) hf ht

lemma phase_ne_shutdown (h : w.Tracked site expected first k) (hf : first.IsOpening)
    (hc : b.conn = w.conn) (ht : b.conn.Takes b.input) : w.conn.phase ≠ .shutdown :=
  hc ▸ Connection.Run.phase_ne_shutdown (hc ▸ h.run) hf ht

lemma attends (h : w.Tracked site expected first k) (hf : first.IsOpening) (hc : b.conn = w.conn)
    (ht : b.conn.Takes b.input) (ha : w.conn.Attends link) : (b.turn site).conn.Attends link := by
  rcases ha with hp | ha
  · exact absurd hp (h.phase_ne_shutdown hf hc ht)
  · exact ((h.staged hf hc ht).active (hc ▸ ha)).imp_right (·.1)

lemma jobs_after (h : w.Tracked site expected first k) (hf : first.IsOpening) (hc : b.conn = w.conn)
    (ht : b.conn.Takes b.input) {x : Job} (hx : x ∈ (w.after site b ready).jobs) :
    ∃ a link, (w.beats ++ [b])[x.turn]? = some a ∧ link.id = x.link ∧
      a.input = .event (.received x.link x.request) ∧ a.Asks site link x.request.header ∧
      (b.turn site).conn.Attends link := by
  rcases List.mem_append.mp hx with hx | hx
  · obtain ⟨a, link, ha, hl, hi, hk, hat⟩ := h.jobs x hx
    exact ⟨a, link, getElem?_append_of_some ha _, hl, hi, hk, h.attends hf hc ht hat⟩
  · rcases b.hands site ht with hd | ⟨link, m, hi, ha, hm, hd, -⟩
    · rw [hd] at hx
      exact absurd hx (by simp)
    · rw [hd] at hx
      obtain rfl := List.mem_singleton.mp hx
      obtain ⟨side, -, hs⟩ := Option.bind_eq_some_iff.mp ha
      exact ⟨b, link, by simp, rfl, hi, .whole hi hs hm, h.attends hf hc ht (.inr (hc ▸ ha))⟩

lemma once_after (h : w.Tracked site expected first k) (hk : k.Follows site w b ready entry k') :
    (k'.ledger.map Prod.fst).Nodup := by
  rw [hk.ledger, List.map_append, List.nodup_append]
  refine ⟨h.once, by cases entry <;> simp, ?_⟩
  intro i hi i' hi'
  obtain ⟨x, hx, rfl⟩ := List.mem_map.mp hi
  have hlt := (h.settles x hx).lt
  have hn : i' = w.beats.length := by
    cases entry <;> simp at hi'
    exact hi'
  omega

/-- A turn that a request has come with is in one place at most, and it is one of the past. -/
lemma distinct_after (h : w.Tracked site expected first k)
    (hk : k.Follows site w b ready entry k') :
    (k'.turns (w.after site b ready)).Nodup ∧
      ∀ j ∈ k'.turns (w.after site b ready), j < w.beats.length + 1 := by
  have fresh : (k.turns w).count w.beats.length = 0 :=
    List.count_eq_zero.mpr fun hm => absurd (h.past _ hm) (Nat.lt_irrefl _)
  have old : ∀ {j}, j ≠ w.beats.length → [w.beats.length].count j = 0 := fun hj =>
    List.count_eq_zero.mpr (by simpa using hj)
  constructor
  · -- each turn is owed an answer in one place at most
    rw [List.nodup_iff_count_le_one]
    intro j
    have hle := hk.count_le j
    have hone := List.nodup_iff_count_le_one.mp h.distinct j
    by_cases hj : j = w.beats.length
    · subst hj
      rwa [fresh, List.count_singleton_self] at hle
    · rw [old hj] at hle
      omega
  · -- each turn that is owed one is past
    intro j hm
    have hle := hk.count_le j
    have hpos := List.count_pos_iff.mpr hm
    by_cases hj : j = w.beats.length
    · omega
    · rw [old hj] at hle
      have := h.past j (List.count_pos_iff.mp (by omega))
      omega

lemma presented_after (h : w.Tracked site expected first k) (hf : first.IsOpening)
    (hc : b.conn = w.conn) (ht : b.conn.Takes b.input) (hk : k.Follows site w b ready entry k')
    {a : Beat} {x : Header} (ha : (w.beats ++ [b])[j]? = some a) (hx : a.Presents link x) :
    (b.turn site).conn.phase = .shutdown ∨
      (b.turn site).conn.activeLink? = some link ∧ j ∈ k'.turns (w.after site b ready) := by
  by_cases hp : (b.turn site).conn.phase = .shutdown
  · exact .inl hp
  refine .inr ?_
  rcases getElem?_concat ha with ha | ⟨rfl, rfl⟩
  · obtain ⟨hact, hm⟩ := (h.presented j a link x ha hx).resolve_left (h.phase_ne_shutdown hf hc ht)
    exact ⟨(h.attends hf hc ht (.inr hact)).resolve_left hp,
      hk.mem_of_mem hp (by simp [hc, hact]) hm⟩
  · exact ⟨(h.attends hf hc ht (.inr (hc ▸ hx.activeLink?))).resolve_left hp, hk.mem_new hp hx⟩

/-- **Books are kept from turn to turn.** -/
theorem after (h : w.Tracked site expected first k) (hf : first.IsOpening) (hc : b.conn = w.conn)
    (ht : b.conn.Takes b.input) (hk : k.Follows site w b ready entry k') :
    (w.after site b ready).Tracked site expected first k' where
  run := Connection.Run.turn (hc ▸ h.run) ht
  entered := by
    intro i a v ha hv hg
    rw [hk.ledger, List.map_append, List.mem_append]
    rcases getElem?_concat ha with ha | ⟨rfl, rfl⟩
    · exact .inl (h.entered i a v ha hv hg)
    · obtain ⟨j, rfl⟩ := Option.isSome_iff_exists.mp (hk.entered v hv hg)
      exact .inr (by simp)
  settles := by
    intro x hx
    rw [hk.ledger] at hx
    rcases List.mem_append.mp hx with hx | hx
    · exact (h.settles x hx).concat b
    · obtain ⟨j, hj, rfl⟩ := List.mem_map.mp hx
      exact hk.settles j (Option.mem_toList.mp hj)
  once := h.once_after hk
  current := hk.current
  kept := hk.kept
  jobs _ hx := h.jobs_after hf hc ht hx
  ready := by
    intro r hm
    obtain ⟨link, hl, ho, hat⟩ := h.ready r (hk.back r hm)
    exact ⟨link, hl, ho.concat b, h.attends hf hc ht hat⟩
  distinct := (h.distinct_after hk).1
  past := by
    intro j hm
    have hlt := (h.distinct_after hk).2 j hm
    simpa [Office.after] using hlt
  presented _ _ _ _ ha hx := h.presented_after hf hc ht hk ha hx

lemma kept_eq_none (h : w.Tracked site expected first k) (hf : first.IsOpening)
    (ha : w.conn.activeLink? = some link) : k.kept = none := by
  have hk := h.kept
  rw [h.run.kept?_eq_none hf ha] at hk
  exact hk.eq_none

/-- The end of a write is entered. -/
lemma written (h : w.Tracked site expected first k) (hf : first.IsOpening) (hc : b.conn = w.conn)
    (ht : b.conn.Takes b.input) (hr : w.ready.Perm ready) {result : Option Failure}
    (hi : b.input = .written result) :
    ∃ k', (w.after site b ready).Tracked site expected first k' := by
  have hb := h.staged hf hc ht
  obtain ⟨hn, hk, hd⟩ := hb.settled hi
  have hcur : Traced site w.beats b.conn.shape.reply? k.current := hc ▸ h.current
  -- The answer that has been written, if it has been, and the one that is kept, if it still is.
  let entry : Option Nat := if result = none then k.current else none
  obtain ⟨kept, hkept, hle⟩ := h.kept.forget b (hc ▸ hk)
  have hbook : k.Follows site w b ready entry
      ⟨k.ledger ++ entry.toList.map fun j => (w.beats.length, j), none, kept⟩ := by
    refine ⟨fun _ => hr.mem_iff.mpr, rfl, ?_, ?_, .of_eq_none hn, hkept, ?_, ?_, ?_⟩
    · -- an answer that was written is entered
      intro v hv hg
      obtain rfl := Input.written.inj (hi.symm.trans (b.writing_of_wrote hv).1)
      exact hcur.of_wrote hv hg
    · -- what is entered is what was being written
      intro j hj
      simp only [entry] at hj
      split at hj
      · rename_i hw
        exact (hj ▸ hcur).settles (hw ▸ hi)
      · exact absurd hj (by simp)
    · -- an answer moves from being written to the ledger, or is lost
      intro j
      have h₁ := hle j
      have h₂ : entry.toList.count j ≤ k.current.toList.count j := by
        simp only [entry]
        split <;> simp
      have h₃ := (hr.map (·.turn)).count_eq j
      simp only [hd, List.map_nil, List.count_nil, Books.count_due, Option.toList_none]
      omega
    · -- nothing is lost while traffic is carried: a write that fails ends the connection
      intro hp ha j hj
      obtain ⟨link, ha⟩ := Option.isSome_iff_exists.mp ha
      have hw : result = none := by
        cases result with
        | none => rfl
        | some f => exact absurd hi (((hb.active ha).resolve_left hp).2 f)
      simp only [Books.due, h.kept_eq_none hf (hc ▸ ha), Option.toList_none, List.append_nil,
        List.mem_append, (hr.map Reply.turn).mem_iff] at hj
      simp only [entry, hw, if_true, Books.due, List.mem_append]
      exact hj.imp_right .inr
    · -- a write brings no request
      intro _ link x hx
      cases hx with
      | whole hi' | header hi' => exact absurd (hi.symm.trans hi') (by simp)
  exact ⟨_, h.after hf hc ht hbook⟩

lemma taken (h : w.Tracked site expected first k) (hf : first.IsOpening) (hc : b.conn = w.conn)
    (ht : b.conn.Takes b.input) {r : Reply} (hr : r ∈ w.ready) : ∃ link, link.id = r.link ∧
      b.conn.activeLink? = some link ∧ Owed site w.beats r.turn link r.answer := by
  obtain ⟨link, hl, ho, hat⟩ := h.ready r hr
  exact ⟨link, hl, hc ▸ hat.resolve_left (h.phase_ne_shutdown hf hc ht), ho⟩

/-- With an event no entry is made; it remains to say which answers are being written and kept. -/
lemma after_event (h : w.Tracked site expected first k) (hf : first.IsOpening)
    (hc : b.conn = w.conn) (ht : b.conn.Takes b.input) (hr : w.ready.Perm (o.toList ++ ready))
    {e : Event} (hi : b.input = .event e) {current kept : Option Nat}
    (hcur : Traced site (w.beats ++ [b]) (b.turn site).conn.shape.reply? current)
    (hkept : Traced site (w.beats ++ [b]) (b.turn site).conn.shape.kept? kept)
    (hcount : ∀ j, ((b.turn site).dispatched.map fun _ => w.beats.length).count j +
        current.toList.count j + kept.toList.count j ≤
      k.kept.toList.count j + (o.toList.map (·.turn)).count j + [w.beats.length].count j)
    (hkeep : ∀ r, o = some r → (b.turn site).conn.phase = .shutdown ∨ current = some r.turn)
    (hnew : ∀ link h, b.Presents link h → (b.turn site).conn.phase = .shutdown ∨
      (b.turn site).dispatched ≠ [] ∨ current = some w.beats.length) :
    ∃ k', (w.after site b ready).Tracked site expected first k' := by
  have hnone : k.current = none := by
    have hw : b.conn.shape.writing = none :=
      b.writing_begun.symm.trans (Beat.writing_begun_of_event ht hi)
    have ht := h.current
    rw [← hc, Shape.reply?_of_writing hw] at ht
    exact ht.eq_none
  have hbook : k.Follows site w b ready none ⟨k.ledger, current, kept⟩ := by
    refine ⟨fun r hm => hr.mem_iff.mpr (List.mem_append_right _ hm), by simp, ?_, by simp, hcur,
      hkept, ?_, ?_, ?_⟩
    · -- an event writes nothing to its end
      simp [b.wrote_event hi]
    · -- turn by turn, with what the handler made taken off the line
      intro j
      have h₁ := hcount j
      have h₂ : (w.ready.map (·.turn)).count j =
          (o.toList.map (·.turn)).count j + (ready.map (·.turn)).count j := by
        rw [(hr.map _).count_eq, List.map_append, List.count_append]
      simp only [Books.count_due, Option.toList_none, List.count_nil, hnone]
      omega
    · -- of what was ready, only the answer taken up is gone, and it is being written now
      intro hp ha j hj
      obtain ⟨link, ha⟩ := Option.isSome_iff_exists.mp ha
      simp only [Books.due, hnone, h.kept_eq_none hf (hc ▸ ha), Option.toList_none, List.nil_append,
        (hr.map Reply.turn).mem_iff, List.map_append, List.mem_append] at hj
      simp only [Option.toList_none, List.nil_append, Books.due, List.mem_append]
      rcases hj with hj | hj
      · obtain ⟨r, hm, rfl⟩ := List.mem_map.mp hj
        have hcr := (hkeep r (Option.mem_toList.mp hm)).resolve_left hp
        exact .inl (.inl (by simp [hcr]))
      · exact .inr hj
    · intro hp link x hx
      refine ((hnew link x hx).resolve_left hp).imp_right fun hm => ?_
      simp [Books.due, hm]
  exact ⟨_, h.after hf hc ht hbook⟩

lemma relayed (h : w.Tracked site expected first k) (hf : first.IsOpening) (hc : b.conn = w.conn)
    (ht : b.conn.Takes b.input) (hr : w.ready.Perm (o.toList ++ ready))
    (ho : b.input.handled? = o.map fun r => (r.link, r.answer)) {r : Reply} (hs : o = some r) :
    b.conn.activeLink? ≠ none ∧
      ((b.turn site).conn.phase = .shutdown ∨ (b.turn site).conn.shape.reply? ≠ none) := by
  subst hs
  obtain ⟨link, hl, ha, -⟩ := h.taken hf hc ht (r := r) (hr.mem_iff.mpr (by simp))
  have hi : b.input = .event (.handled link.id r.answer) := hl ▸ Input.eq_of_handled? ho
  exact ⟨by simp [ha], ((h.staged hf hc ht).relayed ha hi).imp_right fun hs => by simp [hs]⟩

/-- An event is dealt with. -/
lemma event (h : w.Tracked site expected first k) (hf : first.IsOpening) (hc : b.conn = w.conn)
    (ht : b.conn.Takes b.input) (hr : w.ready.Perm (o.toList ++ ready))
    (ho : b.input.handled? = o.map fun r => (r.link, r.answer)) {e : Event}
    (hi : b.input = .event e) :
    ∃ k', (w.after site b ready).Tracked site expected first k' := by
  have hb := h.staged hf hc ht
  have hkept : Traced site w.beats b.conn.shape.kept? k.kept := hc ▸ h.kept
  -- A request that has come is not what a handler has made.
  have asked : ∀ {link x}, b.Asks site link x → o = none := fun hx =>
    Option.map_eq_none_iff.mp (ho.symm.trans hx.handled?)
  -- Where nothing begins to be written, nothing that a handler has made was taken.
  have unrelayed : (b.turn site).conn.shape.reply? = none → ∀ r, o = some r →
      (b.turn site).conn.phase = .shutdown ∨ none = some r.turn := fun hn _ hs =>
    .inl ((h.relayed hf hc ht hr ho hs).2.resolve_right fun hs => hs hn)
  cases hb.serves hi with
  | idle hn hk hd =>
    obtain ⟨kept, hkept, hle⟩ := hkept.forget b hk
    refine h.after_event hf hc ht hr hi (.of_eq_none hn) hkept ?_ (unrelayed hn)
      fun _ _ hx => (hx.handed hb hn).imp_right .inl
    -- an answer that was kept may be forgotten
    intro j
    have hj := hle j
    simp only [hd, List.map_nil, List.count_nil, Option.toList_none]
    omega
  | replies ha hm hs hk hd =>
    obtain rfl := asked ha
    exact h.after_event hf hc ht hr hi (.of_eq_some hs (.of_asks ha hm)) (.of_eq_none hk)
      (by simp [hd]) (by simp) fun _ _ _ => .inr (.inr rfl)
  | keeps ha hm hn hk hd =>
    exact h.after_event hf hc ht hr hi (.of_eq_none hn) (.of_eq_some hk (.of_asks ha hm))
      (by simp [hd]) (unrelayed hn) fun _ _ hx => (hx.handed hb hn).imp_right .inl
  | recalls hold ha hs hk hd =>
    rw [hold] at hkept
    obtain ⟨j, hj, howed⟩ := hkept.exists_some
    refine h.after_event hf hc ht hr hi (.of_eq_some hs (howed.concat b)) (.of_eq_none hk) ?_ ?_ ?_
    · -- the kept answer is the one being written
      intro i
      simp only [hd, hj, List.map_nil, List.count_nil, Option.toList_none]
      omega
    · -- there is no active stream yet, so no handler has made anything
      exact fun r hs => absurd ha (h.relayed hf hc ht hr ho hs).1
    · exact fun link x hx => absurd (ha.symm.trans hx.activeLink?) (by simp)
  | @relays link m hin ha hs hk hd =>
    have hh : b.input.handled? = some (link.id, m) := by rw [hin]; rfl
    obtain ⟨r, rfl, hr'⟩ := Option.map_eq_some_iff.mp (ho.symm.trans hh)
    obtain ⟨link', -, ha', howed⟩ := h.taken hf hc ht (r := r) (hr.mem_iff.mpr (by simp))
    obtain rfl := Option.some.inj (ha.symm.trans ha')
    obtain rfl : r.answer = m := congrArg Prod.snd hr'
    refine h.after_event hf hc ht hr hi (.of_eq_some hs (howed.concat b)) (.of_eq_none hk) ?_ ?_ ?_
    · -- the handler's answer leaves the line and is being written
      intro j
      simp only [hd, List.map_nil, List.map_cons, List.count_nil, Option.toList_some,
        Option.toList_none]
      omega
    · rintro _ ⟨⟩
      exact .inr rfl
    · -- the turn brought no request
      exact fun link x hx => absurd (asked (hx.asks site)) (by simp)
  | hands hin ha hm hn hk hd =>
    exact h.after_event hf hc ht hr hi (.of_eq_none hn) (.of_eq_none hk) (by simp [hd])
      (unrelayed hn) fun _ _ hx => (hx.handed hb hn).imp_right .inl

lemma finish (h : w.Tracked site expected first k) {as ds : List Job} {x : Job}
    (hj : w.jobs = as ++ x :: ds) (r : Registry) :
    ({ w with
        jobs := as ++ ds
        ready := w.ready ++ [⟨x.turn, x.link, r.dispatch site.node x.request⟩] } : Office).Tracked
      site expected first k := by
  have hp : (k.turns { w with
      jobs := as ++ ds
      ready := w.ready ++ [⟨x.turn, x.link, r.dispatch site.node x.request⟩] }).Perm
      (k.turns w) := by
    -- the turn of the job becomes that of the answer
    rw [List.perm_iff_count]
    intro i
    simp only [Books.count_turns, Books.count_due, hj, List.map_append, List.map_cons, List.map_nil,
      List.count_append, List.count_cons, List.count_nil]
    omega
  refine
    { h with
      jobs := ?_
      ready := ?_
      distinct := hp.nodup_iff.mpr h.distinct
      past := fun j hm => h.past j (hp.mem_iff.mp hm)
      presented := ?_ }
  · -- the other jobs are what they were
    intro y hy
    refine h.jobs y ?_
    rw [hj]
    rcases List.mem_append.mp hy with hy | hy
    · exact List.mem_append_left _ hy
    · exact List.mem_append_right _ (List.mem_cons_of_mem x hy)
  · -- the answer is the registry's, on the link of the request
    intro y hy
    rcases List.mem_append.mp hy with hy | hy
    · exact h.ready y hy
    · obtain rfl := List.mem_singleton.mp hy
      obtain ⟨a, link, ha, hl, -, hk, hat⟩ := h.jobs x (by simp [hj])
      exact ⟨link, hl, ⟨a, _, ha, hk, r.dispatch_replies site.node x.request⟩, hat⟩
  · -- what was owed still is
    intro j a link y ha hy
    exact (h.presented j a link y ha hy).imp_right fun hm => ⟨hm.1, hp.mem_iff.mpr hm.2⟩

lemma step (h : w.Tracked site expected first k) (hf : first.IsOpening) (hs : w.Step site w') :
    ∃ k', w'.Tracked site expected first k' := by
  cases hs with
  | ring time =>
    exact ⟨k, { h with run := h.run.ring time }⟩
  | @turn b o ready hc ht hr ho =>
    cases hi : b.input with
    | event e => exact h.event hf hc ht hr ho hi
    | written result =>
      rw [hi] at ho
      obtain rfl := Option.map_eq_none_iff.mp ho.symm
      exact h.written hf hc ht hr hi
  | finish hj r => exact ⟨k, h.finish hj r⟩

lemma answers (h : w.Tracked site expected first k) (hf : first.IsOpening) :
    w.AnswersOnce site k.ledger k.current where
  entered := by
    intro i b v hb hv hm hg
    refine h.entered i b v hb hv ?_
    obtain ⟨as, ds, hl⟩ := List.append_of_mem (List.mem_of_getElem? hb)
    have hrun := h.run
    rw [hl] at hrun
    obtain ⟨_, _, _, -, -, hu, -⟩ := hrun.split.1.uttered (b.writing_of_wrote hv).2
    by_contra hn
    exact absurd (hu.isRequest (by simpa using hn) hg) (by simp [hm])
  settles := h.settles
  once := h.once
  injective := (List.nodup_append.mp (List.nodup_append.mp h.distinct).1).1
  underway := h.current
  jobs := by
    intro x hx
    obtain ⟨b, link, hb, -, hi, -⟩ := h.jobs x hx
    exact ⟨b, hb, hi⟩
  served := by
    rintro j b link x hb hx ⟨side, hl⟩
    obtain ⟨ha, hm⟩ := (h.presented j b link x hb hx).resolve_left (h.run.phase_of_link? hf hl)
    have hone := List.count_eq_one_of_mem h.distinct hm
    simp only [Books.count_turns, Books.count_due, h.kept_eq_none hf ha, Option.toList_none,
      List.count_nil] at hone
    omega

end Tracked

lemma Reached.tracked (h : Reached site (fresh expected first) w) (hf : first.IsOpening) :
    ∃ k, w.Tracked site expected first k := by
  induction h with
  | begin => exact ⟨_, .begin⟩
  | step _ hs ih =>
    obtain ⟨k, hk⟩ := ih
    exact hk.step hf hs

/-- **Every answer has a request of its own, and no request is lost.** -/
theorem Reached.answersOnce (h : Reached site (fresh expected first) w) (hf : first.IsOpening) :
    ∃ ledger current, w.AnswersOnce site ledger current := by
  obtain ⟨k, hk⟩ := h.tracked hf
  exact ⟨_, _, hk.answers hf⟩

/-! ### A handler that breaks down -/

/-- The connection takes an input that no handler has made. -/
def give (site : Site) (w : Office) (i : Input) : Office :=
  w.after site ⟨w.conn, ⟨0, 0, {}⟩, i⟩ w.ready

lemma Reached.give {w₀ : Office} (h : Reached site w₀ w) {i : Input} (ht : w.conn.mayTake i)
    (hn : i.handled? = none) : Reached site w₀ (w.give site i) :=
  h.step (.turn (b := ⟨w.conn, ⟨0, 0, {}⟩, i⟩) (o := none) rfl (Connection.takes_of_mayTake ht)
    (.refl _) hn)

/-- A connection is opened, a watchdog request is answered, and two more requests come. -/
def asked (site : Site) (cer dwr m₁ m₂ : Message) : Office :=
  let begun := (fresh none (.acceptedCer 0 cer)).give site (.event (.acceptedCer 0 cer))
  let opened := begun.give site (.written none)
  let reassured := (opened.give site (.event (.received 1 dwr))).give site (.written none)
  (reassured.give site (.event (.received 1 m₁))).give site (.event (.received 1 m₂))

/-- The handler of the second request breaks down, and what becomes of it is written. -/
def crashed (site : Site) (r : Registry) (w : Office) (m₁ m₂ : Message) : Office :=
  let a := r.dispatch site.node m₂
  let done : Office := { w with jobs := [⟨4, 1, m₁⟩], ready := [⟨5, 1, a⟩] }
  (done.after site ⟨done.conn, ⟨0, 0, {}⟩, .event (.handled 1 a)⟩ []).give site (.written none)

/-- Three requests have been answered, and the one that came third is in the hands of its
handler. -/
theorem answersOnce_crashed :
    let site : Site := ⟨Node.plain "a", {}⟩
    let cer := ((Node.plain "b").cer {}).1
    let dwr := ((Node.plain "b").dwr {}).1
    let m₁ : Message := ⟨Header.request 272 4, []⟩
    let m₂ : Message := ⟨{ Header.request 272 4 with hopByHop := 1 }, []⟩
    let r : Registry := ({} : Registry).register 4 272 fun _ => .crashed
    let w := crashed site r (asked site cer dwr m₁ m₂) m₁ m₂
    Reached site (fresh none (.acceptedCer 0 cer)) w ∧
      (w.beats.filterMap (·.wrote)).map (·.message) =
        [site.node.cea cer .success, site.node.dwa dwr,
          site.node.localAnswer m₂.header none .unableToComply] ∧
      w.jobs.map (·.request) = [m₁] ∧ w.ready.map (·.answer) = [] ∧
      ∃ ledger current, w.AnswersOnce site ledger current := by
  intro site cer dwr m₁ m₂ r w
  let w₀ : Office := fresh none (.acceptedCer 0 cer)
  let w₁ := w₀.give site (.event (.acceptedCer 0 cer))
  let w₂ := w₁.give site (.written none)
  let w₃ := w₂.give site (.event (.received 1 dwr))
  let w₄ := w₃.give site (.written none)
  let w₅ := w₄.give site (.event (.received 1 m₁))
  let w₆ := w₅.give site (.event (.received 1 m₂))
  let a := r.dispatch site.node m₂
  let w₇ : Office := { w₆ with jobs := [⟨4, 1, m₁⟩], ready := [⟨5, 1, a⟩] }
  let w₈ := w₇.after site ⟨w₇.conn, ⟨0, 0, {}⟩, .event (.handled 1 a)⟩ []
  have h₁ : Reached site w₀ w₁ :=
    Reached.begin.step (.turn (b := ⟨w₀.conn, ⟨0, 0, {}⟩, _⟩) (o := none) rfl
      (.internal ⟨by decide, rfl⟩ rfl) (.refl _) rfl)
  have h₂ : Reached site w₀ w₂ := h₁.give (by decide +kernel) rfl
  have h₃ : Reached site w₀ w₃ := h₂.give (by decide +kernel) rfl
  have h₄ : Reached site w₀ w₄ := h₃.give (by decide +kernel) rfl
  have h₅ : Reached site w₀ w₅ := h₄.give (by decide +kernel) rfl
  have h₆ : Reached site w₀ w₆ := h₅.give (by decide +kernel) rfl
  have hj : w₆.jobs = [⟨4, 1, m₁⟩] ++ ⟨5, 1, m₂⟩ :: [] := by decide +kernel
  have h₇ : Reached site w₀ w₇ := h₆.step (.finish hj r)
  have h₈ : Reached site w₀ w₈ :=
    h₇.step (.turn (b := ⟨w₇.conn, ⟨0, 0, {}⟩, _⟩) (o := some ⟨5, 1, a⟩) rfl
      (Connection.takes_of_mayTake (by decide +kernel)) (.refl _) rfl)
  have h : Reached site w₀ w := h₈.give (by decide +kernel) rfl
  exact ⟨h, by decide +kernel, by decide +kernel, by decide +kernel, h.answersOnce trivial⟩

end Office

end Diameter
