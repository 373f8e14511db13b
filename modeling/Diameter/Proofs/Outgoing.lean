import Diameter.Proofs.StreamHandover

/-!
What is written on the streams of a network, octet by octet.

A network goes on in steps (`Network.Step`), each with the deeds that it does to streams. Far ends
may do anything to a stream but put octets where the near end does: they read or stall, make room or
not, and go away. Octets are put piece by piece, and a write ends well once all are put, or fails at
any time, for any reason. What is put is all that comes to wait for far ends (`Step.outbound`), and
it is whole messages (`Reached.writesWhole`).
-/

namespace Diameter

namespace Network

/-- What is done to a stream at its near end. -/
inductive Deed where
  /-- Octets of a message are put on it. -/
  | put (stream : Nat) (m : Message) (b : Octets)
  /-- A write on it has failed or was the last. -/
  | quit (stream : Nat)

namespace Deed

def stream : Deed → Nat
  | put s _ _ | quit s => s

/-- The octets that a deed adds to a stream. -/
def octetsOn (s : Nat) : Deed → Octets
  | put t _ b => if t = s then b else []
  | quit _ => []

/-- A deed may come before another: nothing is put on a stream that was quit. -/
def Precedes (d d' : Deed) : Prop := ∀ s m b, d = quit s → d' ≠ put s m b

end Deed

/-- All octets that were put on a stream. -/
def octetsOn (s : Nat) (log : List Deed) : Octets := log.flatMap (Deed.octetsOn s)

/-- Whole messages, none of them too long. -/
def IsWhole (b : Octets) : Prop :=
  ∃ ms : List Message, (∀ m ∈ ms, m.checkLength = .ok ()) ∧ b = ms.flatMap Message.encode

/-- Whole messages, and at most a part of one more, which is not too long either. -/
def IsSpoken (b : Octets) : Prop :=
  ∃ whole part, IsWhole whole ∧ b = whole ++ part ∧
    (part = [] ∨ ∃ m : Message, m.checkLength = .ok () ∧ part <+: m.encode ∧ part ≠ m.encode)

/-- The turn of a connection that is given an input now. -/
def beat (w : Network) (m : Member) (i : Input) : Beat := ⟨m.conn, ⟨w.now, w.serial, w.ids⟩, i⟩

/-- The network after a turn of a connection, but for what the turn does to the world. -/
def turned (w : Network) (i : Nat) (m : Member) (input : Input) : Network :=
  w.modifyMember i (.after ((w.beat m input).turn w.site))

/-- Puts the next octets of the message that a connection writes. -/
def putNext (i s n : Nat) (b : Octets) (w : Network) : Network :=
  (w.modifyStream s fun st => { st with outbound := st.outbound ++ b.take n }).modifyMember i
    fun m => { m with unwritten := b.drop n }

/-- Turns a stream away with as much of an answer as there is time for. -/
def dismiss (a : Acceptor) (e : Failure) (b : Octets) (w : Network) : Network :=
  ((w.modifyStream a.stream fun st => { st with outbound := st.outbound ++ b }).closeNear
    a.stream).conclude a.id (.error e)

/-- Everything that may happen, and what it does to streams. -/
inductive Step (w : Network) : List Deed → Network → Prop
  /-- Nothing is written, and no connection takes a turn. -/
  | pass {w' : Network} (h : Passes [] [] w w') : Step w [] w'
  /-- Whatever far ends do, and whatever becomes of a pipe: octets are taken out of it, or lost. -/
  | far (s : Nat) {f : Stream → Stream} (hf : ∀ st, (f st).outbound <:+ st.outbound) :
    Step w [] (w.modifyStream s f)
  /-- There is a new stream, and at most one that has it. -/
  | begin {st : Stream} {w' : Network} (ho : st.outbound = [])
    (h : Passes [w.streams.size] [] { w with streams := w.streams.push st } w') : Step w [] w'
  /-- A connection takes an event of its own. A message that it would write may be too long. -/
  | own {i : Nat} {m : Member} {e : Event} {rest : List Event} {l : List Nat}
    (hm : w.members[i]? = some m) (ha : m.conn.Accepts (.event e))
    (hi : m.conn.internal = e :: rest)
    (hs : ∀ s ∈ l, (w.beat m (.event e)).Overruns w.site s) :
    Step w (l.map .quit) (w.turn i { m with conn := { m.conn with internal := rest } } (.event e))
  /-- It takes an event that has waited. -/
  | queued {w' : Network} {i : Nat} {m : Member} {e : Event} {l : List Nat}
    (hm : w.members[i]? = some m) (ha : m.conn.Accepts (.event e)) (hi : m.conn.internal = [])
    (hp : Passes [] e.stream?.toList w w')
    (hs : ∀ s ∈ l, (w'.beat m (.event e)).Overruns w'.site s) :
    Step w (l.map .quit) (w'.turn i m (.event e))
  /-- Some octets of a message are put, as many as there is room for, or fewer. -/
  | put {i : Nat} {m : Member} {x : Writing} (n : Nat) (hm : w.members[i]? = some m)
    (hx : m.conn.writing = some x) :
    Step w [.put x.link.stream x.message (m.unwritten.take n)]
      (w.putNext i x.link.stream n m.unwritten)
  /-- All octets of a message are put. -/
  | written {i : Nat} {m : Member} {x : Writing} (hm : w.members[i]? = some m)
    (hx : m.conn.writing = some x) (hu : m.unwritten = []) :
    Step w [] (w.turn i m (.written none))
  /-- A write fails, or there is no more time for it. -/
  | failed {i : Nat} {m : Member} {x : Writing} (e : Failure) (hm : w.members[i]? = some m)
    (hx : m.conn.writing = some x) :
    Step w [.quit x.link.stream] (w.turn i m (.written (some e)))
  /-- An acceptor turns its stream away, with an answer that gets through or not. -/
  | dismiss {a : Acceptor} {e : Failure} {m : Message} (n : Nat) (ha : a ∈ w.acceptors)
    (hh : a.handingTo = none) (hm : m.checkLength = .ok ()) :
    Step w [.put a.stream m (m.encode.take n), .quit a.stream] (w.dismiss a e (m.encode.take n))

/-- A network that another may become, and the deeds done on the way. -/
inductive Reached (w₀ : Network) : List Deed → Network → Prop
  | begin : Reached w₀ [] w₀
  | step {log ds : List Deed} {w w' : Network} (h : Reached w₀ log w) (hs : w.Step ds w') :
    Reached w₀ (log ++ ds) w'

/-- What was put on streams is whole messages. -/
structure WritesWhole (log : List Deed) : Prop where
  /-- On every stream there are whole messages, and at most a part of one more. -/
  spoken : ∀ s, IsSpoken (octetsOn s log)
  /-- Nothing is put on a stream after a write on it has failed. -/
  final : log.Pairwise Deed.Precedes
  /-- Nothing is put of a message that is too long. -/
  fit : ∀ s m b, .put s m b ∈ log → m.checkLength = .ok ()

/-! ### Octets -/

section Octets

variable {s t : Nat} {log : List Deed} {m : Message} {b c p : Octets}

lemma octetsOn_append (s : Nat) (log ds : List Deed) :
    octetsOn s (log ++ ds) = octetsOn s log ++ octetsOn s ds := List.flatMap_append

@[simp] lemma octetsOn_quits (s : Nat) (ss : List Nat) : octetsOn s (ss.map .quit) = [] := by
  induction ss with
  | nil => rfl
  | cons t ss ih => exact ih

lemma octetsOn_put (s : Nat) (m : Message) (b : Octets) : octetsOn s [.put s m b] = b := by
  simp [octetsOn, Deed.octetsOn]

lemma octetsOn_eq_nil (h : ∀ d ∈ log, d.stream ≠ s) : octetsOn s log = [] := by
  refine List.flatMap_eq_nil_iff.mpr fun d hd => ?_
  cases d with
  | put t m b => exact if_neg (h _ hd)
  | quit => rfl

lemma octetsOn_append_of_ne {ds : List Deed} (h : ∀ d ∈ ds, d.stream ≠ s) :
    octetsOn s (log ++ ds) = octetsOn s log := by
  rw [octetsOn_append, octetsOn_eq_nil h, List.append_nil]

lemma IsWhole.nil : IsWhole [] := ⟨[], by simp, rfl⟩

lemma IsWhole.append (h : IsWhole b) (hm : m.checkLength = .ok ()) : IsWhole (b ++ m.encode) := by
  obtain ⟨ms, hms, rfl⟩ := h
  refine ⟨ms ++ [m], fun m' hm' => ?_, by simp⟩
  rcases List.mem_append.mp hm' with hm' | hm'
  · exact hms m' hm'
  · exact List.mem_singleton.mp hm' ▸ hm

lemma IsWhole.spoken (h : IsWhole b) : IsSpoken b := ⟨b, [], h, (List.append_nil b).symm, .inl rfl⟩

lemma IsWhole.spoken_append (h : IsWhole b) (hm : m.checkLength = .ok ()) (hp : p <+: m.encode) :
    IsSpoken (b ++ p) := by
  by_cases he : p = m.encode
  · exact (he ▸ h.append hm).spoken
  · exact ⟨b, p, h, rfl, .inr ⟨m, hm, hp, he⟩⟩

end Octets

lemma WritesWhole.quit {log : List Deed} (h : WritesWhole log) (ss : List Nat) :
    WritesWhole (log ++ ss.map .quit) where
  spoken s := by
    rw [octetsOn_append, octetsOn_quits, List.append_nil]
    exact h.spoken s
  final := by
    have hq : ∀ d, ∀ d' ∈ ss.map Deed.quit, Deed.Precedes d d' := by
      intro d d' hd' s m b _ he
      obtain ⟨t, -, rfl⟩ := List.mem_map.mp hd'
      cases he
    exact List.pairwise_append.mpr ⟨h.final,
      List.pairwise_of_forall_mem_list fun d _ d' => hq d d', fun d _ => hq d⟩
  fit s m b hd := by
    rcases List.mem_append.mp hd with hd | hd
    · exact h.fit s m b hd
    · obtain ⟨t, -, ht⟩ := List.mem_map.mp hd
      cases ht

lemma WritesWhole.put {log : List Deed} {s : Nat} {m : Message} {b : Octets}
    (h : WritesWhole log) (hq : .quit s ∉ log) (hm : m.checkLength = .ok ())
    (hb : IsSpoken (octetsOn s log ++ b)) : WritesWhole (log ++ [.put s m b]) where
  spoken t := by
    by_cases ht : t = s
    · rwa [ht, octetsOn_append, octetsOn_put]
    · rw [octetsOn_append_of_ne (by simpa [Deed.stream] using Ne.symm ht)]
      exact h.spoken t
  final := by
    refine List.pairwise_append.mpr ⟨h.final, List.pairwise_singleton _ _, ?_⟩
    intro d hd d' hd' t m' b' hdq he
    rw [List.mem_singleton.mp hd'] at he
    cases he
    exact hq (hdq ▸ hd)
  fit t m' b' hd := by
    rcases List.mem_append.mp hd with hd | hd
    · exact h.fit t m' b' hd
    · cases List.mem_singleton.mp hd
      exact hm

/-! ### What is known between two steps -/

/-- A connection writes a message. -/
structure Writes (w : Network) (i : Nat) (m : Member) (x : Writing) : Prop where
  member : w.members[i]? = some m
  writing : m.conn.writing = some x

/-- Nobody writes on a stream. -/
def IsIdle (w : Network) (s : Nat) : Prop :=
  ∀ (i : Nat) (m : Member) (x : Writing), w.Writes i m x → x.link.stream ≠ s

/-- Streams and what is on them, between two steps. -/
structure Sound (log : List Deed) (w : Network) : Prop where
  stage : ∀ (i : Nat) (m : Member), w.members[i]? = some m → m.conn.InStage ∧ m.conn.duty.Tidy
  /-- Nobody shares a stream. -/
  once : ∀ s, w.held.count s ≤ 1
  known : ∀ s ∈ w.held, s < w.streams.size
  past : ∀ d ∈ log, d.stream < w.streams.size
  /-- Where somebody writes, there are whole messages, and what is not unwritten of one more. -/
  halfway : ∀ (i : Nat) (m : Member) (x : Writing), w.Writes i m x →
    x.message.checkLength = .ok () ∧ ∃ b p,
      IsWhole b ∧ octetsOn x.link.stream log = b ++ p ∧ x.message.encode = p ++ m.unwritten
  /-- Where nobody does there are whole messages, as long as somebody has the stream. -/
  clean : ∀ s ∈ w.held, w.IsIdle s → IsWhole (octetsOn s log)
  dead : ∀ s, .quit s ∈ log → s ∉ w.held
  writesWhole : WritesWhole log

section Counts

variable {w : Network} {i j : Nat} {m m' : Member}

lemma mem_toList (hm : w.members[i]? = some m) : m ∈ w.members.toList :=
  Array.mem_toList_iff.mpr (Array.mem_of_getElem? hm)

lemma count_le_held (hm : w.members[i]? = some m) (s : Nat) :
    m.streams.count s ≤ w.held.count s := by
  rw [held, List.count_append]
  exact Nat.le_trans (List.count_le_flatMap (mem_toList hm) Member.streams s)
    (Nat.le_add_right _ _)

lemma count_add_count_le_held (hm : w.members[i]? = some m) (hm' : w.members[j]? = some m')
    (hij : i ≠ j) (s : Nat) : m.streams.count s + m'.streams.count s ≤ w.held.count s := by
  have hl : w.members.toList[i]? = some m := by simpa using hm
  have hl' : w.members.toList[j]? = some m' := by simpa using hm'
  have := List.count_add_count_le_flatMap hl hl' hij Member.streams s
  rw [held, List.count_append]
  exact Nat.le_trans this (Nat.le_add_right _ _)

lemma count_add_acceptor_le_held {a : Acceptor} (hm : w.members[i]? = some m)
    (ha : a ∈ w.acceptors) (s : Nat) :
    m.streams.count s + a.streams.count s ≤ w.held.count s := by
  rw [held, List.count_append]
  exact Nat.add_le_add (List.count_le_flatMap (mem_toList hm) Member.streams s)
    (List.count_le_flatMap ha Acceptor.streams s)

lemma Member.count_pos {x : Writing} (hc : m.conn.InStage) (hx : m.conn.writing = some x) :
    0 < m.streams.count x.link.stream :=
  List.count_pos_iff.mpr (List.mem_append_left _
    (List.mem_append_left _ (List.mem_map_of_mem (hc.mem_links hx))))

end Counts

namespace Passes

variable {w w' : Network} {b l : List Nat} {i : Nat} {m' : Member} {x : Writing} {s : Nat}

lemma writes (hp : Passes b l w w') (hw : w'.Writes i m' x) :
    ∃ m, w.Writes i m x ∧ m'.unwritten = m.unwritten := by
  obtain ⟨m, hm | ⟨-, expected, first, -, hf⟩, hs⟩ := hp.members i m' hw.member
  · exact ⟨m, ⟨hm, hs.writing.symm.trans hw.writing⟩, hs.unwritten⟩
  · have hn : m.conn.writing = none := by rw [hf]; rfl
    exact absurd (hn.symm.trans (hs.writing.symm.trans hw.writing)) (by simp)

lemma isIdle (hp : Passes b l w w') (h : w'.IsIdle s) : w.IsIdle s := by
  intro i m x hw
  obtain ⟨m', hm', hs⟩ := hp.member hw.member
  exact h i m' x ⟨hm', hs.writing.trans hw.writing⟩

end Passes

lemma Writes.exists_modified {w : Network} {i j : Nat} {m : Member} {x : Writing}
    (hx : w.Writes j m x) (b : Octets) :
    ∃ m', (w.modifyMember i fun m => { m with unwritten := b }).Writes j m' x := by
  by_cases hij : i = j
  · exact ⟨{ m with unwritten := b }, by
      rw [members_modifyMember, if_pos hij, hx.member, Option.map_some], hx.writing⟩
  · exact ⟨m, by rw [members_modifyMember, if_neg hij, hx.member], hx.writing⟩

namespace Sound

variable {log ds : List Deed} {w w' : Network} {b l : List Nat} {i : Nat} {m : Member}
  {x : Writing} {s : Nat}

lemma count_pos (h : Sound log w) (hw : w.Writes i m x) : 0 < m.streams.count x.link.stream :=
  Member.count_pos (h.stage i m hw.member).1 hw.writing

lemma mem_held (h : Sound log w) (hw : w.Writes i m x) : x.link.stream ∈ w.held :=
  List.count_pos_iff.mp (Nat.lt_of_lt_of_le (h.count_pos hw) (count_le_held hw.member _))

lemma stream_ne (h : Sound log w) {j : Nat} {n : Member} {y : Writing} (hx : w.Writes i m x)
    (hy : w.Writes j n y) (hij : i ≠ j) : x.link.stream ≠ y.link.stream := by
  intro hs
  have hi := h.count_pos hx
  have hj := h.count_pos hy
  have := count_add_count_le_held hx.member hy.member hij x.link.stream
  have := h.once x.link.stream
  rw [← hs] at hj
  omega

lemma isIdle_of_acceptor (h : Sound log w) {a : Acceptor} (ha : a ∈ w.acceptors)
    (hh : a.handingTo = none) : a.stream ∈ w.held ∧ w.IsIdle a.stream := by
  have hc : a.streams.count a.stream = 1 := by simp [Acceptor.streams, hh]
  refine ⟨List.mem_append_right _ (List.mem_flatMap.mpr
    ⟨a, ha, List.count_pos_iff.mp (hc ▸ Nat.one_pos)⟩), fun i m x hx hs => ?_⟩
  have hi := h.count_pos hx
  have := count_add_acceptor_le_held hx.member ha x.link.stream
  have := h.once x.link.stream
  rw [hs] at *
  omega

lemma stage_of_passes (h : Sound log w) (hp : Passes b l w w') {m' : Member}
    (hm : w'.members[i]? = some m') : m'.conn.InStage ∧ m'.conn.duty.Tidy := by
  obtain ⟨m, ho, hs⟩ := hp.members i m' hm
  have hc : m.conn.InStage ∧ m.conn.duty.Tidy := by
    rcases ho with hm | ⟨-, expected, first, hf, hc⟩
    · exact h.stage i m hm
    · have hr : Connection.Run w.site (.fresh expected first) [] (.fresh expected first) := .nil
      rw [hc]
      exact ⟨⟨expected, 0, .closed first, hf, rfl⟩, hr.tidy hf⟩
  obtain ⟨alarms, he, ha⟩ := hs.conn
  rw [he]
  exact ⟨hc.1.congr rfl, hc.2.shrink ha⟩

lemma pass_of_fresh (h : Sound log w) (hp : Passes b l w w')
    (hc : ∀ s, w.held.count s + b.count s ≤ 1)
    (hb : ∀ s ∈ b, s < w.streams.size ∧ IsWhole (octetsOn s log) ∧ .quit s ∉ log) :
    Sound log w' := by
  have from_before : ∀ s ∈ w'.held, s ∈ w.held ∨ s ∈ b := by
    intro s hs
    have := hp.balance s
    have := List.count_pos_iff.mpr hs
    by_contra hn
    rw [not_or, ← List.count_eq_zero, ← List.count_eq_zero] at hn
    omega
  exact {
    stage := fun i m' hm => h.stage_of_passes hp hm
    once := fun s => by
      have := hp.balance s
      have := hc s
      omega
    known := fun s hs => hp.size ▸ (from_before s hs).elim (h.known s) fun hs => (hb s hs).1
    past := fun d hd => hp.size ▸ h.past d hd
    halfway := fun i m' x hw => by
      obtain ⟨m, hw, hu⟩ := hp.writes hw
      exact hu ▸ h.halfway i m x hw
    clean := fun s hs hi =>
      (from_before s hs).elim (fun hs => h.clean s hs (hp.isIdle hi)) fun hs => (hb s hs).2.1
    dead := fun s hq hs => (from_before s hs).elim (h.dead s hq) fun hs => (hb s hs).2.2 hq
    writesWhole := h.writesWhole }

lemma pass (h : Sound log w) (hp : Passes [] l w w') : Sound log w' :=
  h.pass_of_fresh hp (by simpa using h.once) (by simp)

lemma of_streams (h : Sound log w) (hm : w'.members = w.members)
    (ha : w'.acceptors = w.acceptors) (hs : w.streams.size ≤ w'.streams.size) : Sound log w' := by
  have hheld : w'.held = w.held := by rw [held, hm, ha, held]
  have hw : ∀ {i m x}, w'.Writes i m x ↔ w.Writes i m x :=
    ⟨fun hw => ⟨hm ▸ hw.member, hw.writing⟩, fun hw => ⟨hm ▸ hw.member, hw.writing⟩⟩
  exact {
    stage := fun i m hi => h.stage i m (hm ▸ hi)
    once := hheld ▸ h.once
    known := fun s hk => Nat.lt_of_lt_of_le (h.known s (hheld ▸ hk)) hs
    past := fun d hd => Nat.lt_of_lt_of_le (h.past d hd) hs
    halfway := fun i m x hx => h.halfway i m x (hw.mp hx)
    clean := fun s hk hi => h.clean s (hheld ▸ hk) fun i m x hx => hi i m x (hw.mpr hx)
    dead := hheld ▸ h.dead
    writesWhole := h.writesWhole }

lemma far (h : Sound log w) (s : Nat) (f : Stream → Stream) : Sound log (w.modifyStream s f) :=
  h.of_streams rfl rfl (Nat.le_of_eq Array.size_modify.symm)

lemma begin (h : Sound log w) {st : Stream}
    (hp : Passes [w.streams.size] [] { w with streams := w.streams.push st } w') :
    Sound log w' := by
  have hn : ∀ s ∈ w.held, s ≠ w.streams.size := fun s hs => Nat.ne_of_lt (h.known s hs)
  have hd : ∀ d ∈ log, d.stream ≠ w.streams.size := fun d hd => Nat.ne_of_lt (h.past d hd)
  have hw : Sound log { w with streams := w.streams.push st } := h.of_streams rfl rfl (by simp)
  refine hw.pass_of_fresh hp (fun s => ?_) fun s hs => ?_
  · by_cases hs : s = w.streams.size
    · subst hs
      have : w.held.count w.streams.size = 0 := List.count_eq_zero.mpr fun hm => hn _ hm rfl
      have hc : [w.streams.size].count w.streams.size = 1 := by simp
      exact Nat.le_of_eq (by rw [hc]; exact congrArg (· + 1) this)
    · have hc : [w.streams.size].count s = 0 := by simp [Ne.symm hs]
      rw [hc]
      exact h.once s
  · obtain rfl := List.mem_singleton.mp hs
    refine ⟨by simp, octetsOn_eq_nil hd ▸ .nil, fun hq => hd _ hq rfl⟩

/-! ### Turns -/

lemma lost_of_failed (h : Sound log w) (hm : w.members[i]? = some m)
    (hx : m.conn.writing = some x) (w' : Network) (e : Failure) :
    x.link.stream ∈ (m.conn.without (.written (some e))).streams ++
        (Input.written (some e)).stream?.toList ∧
      x.link.stream ∉ ((w'.beat m (.written (some e))).turn w'.site).conn.streams := by
  have hc := (h.stage i m hm).1
  have hone : m.conn.streams.count x.link.stream ≤ 1 := by
    have := count_le_held hm x.link.stream
    have := h.once x.link.stream
    rw [Member.streams, List.count_append] at *
    omega
  exact ⟨List.mem_append_left _ (List.mem_append_left _ (List.mem_map_of_mem (hc.mem_links hx))),
    Beat.loses (b := w'.beat m (.written (some e))) hc (.written hx _) rfl hx hone⟩

section Turn

variable {input : Input} (h : Sound log w) (hm : w.members[i]? = some m)
  (ht : m.conn.Takes input) (hp : Passes [] (m.conn.brought input) w w')

include hm ht hp in
lemma count_after (t : Turn) (k : Nat) : (w'.modifyMember i (.after t)).held.count k +
    ((m.conn.without input).streams.count k + input.stream?.toList.count k) ≤
      w.held.count k + t.conn.streams.count k := by
  obtain ⟨m', hm', hs⟩ := hp.member hm
  have hc : m'.conn.streams = m.conn.streams := Connection.streams_of_shape hs.shape
  have hh := held_modifyMember hm' (.after t) k
  have hb := hp.balance k
  have hk := m'.mailbox.count_keep (staysInLine t.conn) k
  have hw := Connection.count_without ht k
  simp only [Member.streams, Member.after, List.count_append, List.count_nil, hc] at hh hb
  omega

include h hm ht hp

lemma lost_of_overruns (hs : (w'.beat m input).Overruns w'.site s) :
    s ∈ (m.conn.without input).streams ++ input.stream?.toList ∧
      s ∉ ((w'.beat m input).turn w'.site).conn.streams := by
  refine ⟨hs.1, Beat.loses_overrun (b := w'.beat m input) (h.stage i m hm).1 ht hs ?_⟩
  obtain ⟨m', hm', hst⟩ := hp.member hm
  have hc : m'.conn.streams = m.conn.streams := Connection.streams_of_shape hst.shape
  have hk := count_le_held hm' s
  have hb := hp.balance s
  have hone := h.once s
  have hw : (m.conn.without input).streams.count s + input.stream?.toList.count s = _ :=
    Connection.count_without ht s
  rw [Member.streams, List.count_append, hc] at hk
  rw [List.count_nil] at hb
  show (m.conn.without input).streams.count s + input.stream?.toList.count s ≤ 1
  omega

lemma count_turn_le (k : Nat) :
    (w'.turned i m input).held.count k ≤ w.held.count k := by
  have hc : ((w'.beat m input).turn w'.site).conn.streams.count k ≤
      (m.conn.without input).streams.count k + input.stream?.toList.count k :=
    Beat.count_streams (b := w'.beat m input) (h.stage i m hm).1 ht k
  have hk : (w'.turned i m input).held.count k + _ ≤ _ := count_after hm ht hp _ k
  omega

lemma not_mem_turn (hs : s ∈ (m.conn.without input).streams ++ input.stream?.toList)
    (hn : s ∉ ((w'.beat m input).turn w'.site).conn.streams) :
    s ∈ w.held ∧ s ∉ (w'.turned i m input).held := by
  have hc : (w'.turned i m input).held.count s + _ ≤ _ := count_after hm ht hp _ s
  rw [← List.count_append, List.count_eq_zero.mpr hn] at hc
  have := List.count_pos_iff.mpr hs
  have := h.once s
  exact ⟨List.count_pos_iff.mp (by omega), List.count_eq_zero.mp (by omega)⟩

/-- A connection writes on a stream that nobody wrote on, when it begins to write. -/
lemma isIdle_of_begins {x : Writing} {e : Event} (he : input = .event e)
    (hx : ((w'.beat m input).turn w'.site).conn.writing = some x) :
    w.IsIdle x.link.stream := by
  intro j n y hy hs
  have hin : ((w'.beat m input).turn w'.site).conn.InStage :=
    Beat.inStage (b := w'.beat m input) (h.stage i m hm).1 ht
  by_cases hij : i = j
  · -- The connection itself takes an event, and so does not write.
    subst hij
    obtain rfl := Option.some.inj (hm.symm.trans hy.member)
    have hn : m.conn.writing = none := by
      rw [he] at ht
      cases ht with
      | internal ha _ | queued ha _ => exact ha.2
    exact absurd (hn.symm.trans hy.writing) (by simp)
  · -- Somebody else would share the stream.
    obtain ⟨m', hm', -⟩ := hp.member hm
    obtain ⟨n', hn', hst⟩ := hp.member hy.member
    have hvi : (w'.turned i m input).members[i]? =
        some (m'.after ((w'.beat m input).turn w'.site)) := by
      rw [turned, members_modifyMember, if_pos rfl, hm', Option.map_some]
    have hvj : (w'.turned i m input).members[j]? = some n' := by
      rw [turned, members_modifyMember, if_neg hij, hn']
    have hi : 0 < (m'.after ((w'.beat m input).turn w'.site)).streams.count x.link.stream :=
      Member.count_pos hin hx
    have hj : 0 < n'.streams.count y.link.stream :=
      (h.pass hp).count_pos ⟨hn', hst.writing.trans hy.writing⟩
    have := count_add_count_le_held hvi hvj hij x.link.stream
    have := count_turn_le h hm ht hp x.link.stream
    have := h.once x.link.stream
    rw [hs] at hj
    omega

lemma whole_of_begins {x : Writing} {e : Event} (he : input = .event e)
    (hx : ((w'.beat m input).turn w'.site).conn.writing = some x) :
    IsWhole (octetsOn x.link.stream log) := by
  have hin : ((w'.beat m input).turn w'.site).conn.InStage :=
    Beat.inStage (b := w'.beat m input) (h.stage i m hm).1 ht
  obtain ⟨m', hm', -⟩ := hp.member hm
  have hv : (w'.turned i m input).members[i]? =
      some (m'.after ((w'.beat m input).turn w'.site)) := by
    rw [turned, members_modifyMember, if_pos rfl, hm', Option.map_some]
  have hc := count_le_held hv x.link.stream
  have := count_turn_le h hm ht hp x.link.stream
  have : 0 < (m'.after ((w'.beat m input).turn w'.site)).streams.count x.link.stream :=
    Member.count_pos hin hx
  exact h.clean _ (List.count_pos_iff.mp (by omega)) (isIdle_of_begins h hm ht hp he hx)

lemma clean_turned (hu : input = .written none → m.unwritten = [])
    (hs : s ∈ (w'.turned i m input).held) (hi : (w'.turned i m input).IsIdle s) :
    IsWhole (octetsOn s log) := by
  have hh : s ∈ w.held := List.count_pos_iff.mp
    (Nat.lt_of_lt_of_le (List.count_pos_iff.mpr hs) (count_turn_le h hm ht hp s))
  -- a stream that was idle is as clean as it was
  by_cases hw : w.IsIdle s
  · exact h.clean s hh hw
  · simp only [IsIdle, not_forall, not_not] at hw
    obtain ⟨j, n, y, hy, rfl⟩ := hw
    by_cases hij : i = j
    · -- The write of the connection has ended: well, or the stream is lost.
      subst hij
      obtain rfl := Option.some.inj (hm.symm.trans hy.member)
      cases ht with
      -- an event is not taken while a write is under way
      | internal ha _ | queued ha _ => exact absurd (ha.2.symm.trans hy.writing) (by simp)
      | @written x hx result =>
        obtain rfl := Option.some.inj (hx.symm.trans hy.writing)
        cases result with
        -- all has been written, so the message is whole
        | none =>
          obtain ⟨hl, b, p, hb, ho, he⟩ := h.halfway i m x hy
          rw [hu rfl, List.append_nil] at he
          rw [ho, ← he]
          exact hb.append hl
        -- the stream was lost with the write
        | some e =>
          obtain ⟨hin, hn⟩ := h.lost_of_failed hm hx w' e
          exact absurd hs (not_mem_turn h hm (.written hx _) hp hin hn).2
    · -- another connection was writing, and still is
      obtain ⟨n', hn', hst⟩ := hp.member hy.member
      refine absurd rfl (hi j n' y ⟨?_, hst.writing.trans hy.writing⟩)
      rw [turned, members_modifyMember, if_neg hij, hn']

/-- **A turn keeps what is known.** The streams that it has lost may be quit. -/
lemma turn (hu : input = .written none → m.unwritten = []) {ss : List Nat}
    (hs : ∀ s ∈ ss, s ∈ (m.conn.without input).streams ++ input.stream?.toList ∧
      s ∉ ((w'.beat m input).turn w'.site).conn.streams) :
    Sound (log ++ ss.map .quit)
      (w'.turn i { m with conn := m.conn.without input } input) := by
  have h' : Sound log w' := h.pass hp
  have hsize : (w'.turned i m input).streams.size = w.streams.size := hp.size
  have ho : ∀ s, octetsOn s (log ++ ss.map .quit) = octetsOn s log := fun s => by
    rw [octetsOn_append, octetsOn_quits, List.append_nil]
  have hheld : ∀ s ∈ (w'.turned i m input).held, s ∈ w.held := fun s hs =>
    List.count_pos_iff.mp (Nat.lt_of_lt_of_le (List.count_pos_iff.mpr hs)
      (count_turn_le h hm ht hp s))
  have hpast : ∀ d ∈ log ++ ss.map .quit, d.stream < w.streams.size := by
    intro d hd
    rcases List.mem_append.mp hd with hd | hd
    · exact h.past d hd
    · obtain ⟨s, hq, rfl⟩ := List.mem_map.mp hd
      exact h.known s (not_mem_turn h hm ht hp (hs s hq).1 (hs s hq).2).1
  have hc := h.stage i m hm
  obtain ⟨m', hm', -⟩ := hp.member hm
  have hv : Sound (log ++ ss.map .quit) (w'.turned i m input) := {
    stage := fun j n hn => by
      -- the member that took the turn, or another
      rcases members_modifyMember_cases hm' hn with ⟨rfl, rfl⟩ | ⟨-, hn⟩
      · exact ⟨Beat.inStage (b := w'.beat m input) hc.1 ht,
          Beat.tidy (b := w'.beat m input) ht (hc.1.phase_ne ht) hc.2⟩
      · exact h'.stage j n hn
    once := fun s => Nat.le_trans (count_turn_le h hm ht hp s) (h.once s)
    known := fun s hs => hsize ▸ h.known s (hheld s hs)
    past := fun d hd => hsize ▸ hpast d hd
    halfway := fun j n x hx => by
      rw [ho]
      -- this turn began to write, or another connection was at it
      rcases members_modifyMember_cases hm' hx.member with ⟨rfl, rfl⟩ | ⟨-, hn⟩
      · have hw : ((w'.beat m input).turn w'.site).conn.writing = some x := hx.writing
        obtain ⟨hl, e, he⟩ := Beat.begins_writing (b := w'.beat m input) hc.1 ht hw
        refine ⟨hl, octetsOn x.link.stream log, [], whole_of_begins h hm ht hp he hw,
          (List.append_nil _).symm, ?_⟩
        simp [Member.after, hw]
      · exact h'.halfway j n x ⟨hn, hx.writing⟩
    clean := fun s hs hi => ho s ▸ clean_turned h hm ht hp hu hs hi
    dead := fun s hq hin => by
      -- the stream was quit before, or is quit now
      rcases List.mem_append.mp hq with hq | hq
      · exact h.dead s hq (hheld s hin)
      · obtain ⟨t, ht', he⟩ := List.mem_map.mp hq
        obtain rfl := Deed.quit.inj he
        exact (not_mem_turn h hm ht hp (hs t ht').1 (hs t ht').2).2 hin
    writesWhole := h.writesWhole.quit ss }
  exact hv.pass (passes_turn i { m with conn := m.conn.without input } input w')

end Turn

/-! ### Octets that are put -/

/-- More of a message is put. -/
lemma put (h : Sound log w) (hx : w.Writes i m x) (n : Nat) :
    Sound (log ++ [.put x.link.stream x.message (m.unwritten.take n)])
      (w.modifyMember i fun m' => { m' with unwritten := m.unwritten.drop n }) := by
  obtain ⟨hl, b, p, hb, ho, he⟩ := h.halfway i m x hx
  have hheld : ∀ s ∈ (w.modifyMember i fun m' =>
      { m' with unwritten := m.unwritten.drop n }).held, s ∈ w.held := by
    intro s hs
    have hc : _ + m.streams.count s = w.held.count s + m.streams.count s :=
      held_modifyMember hx.member (fun m' => { m' with unwritten := m.unwritten.drop n }) s
    have := List.count_pos_iff.mpr hs
    exact List.count_pos_iff.mp (by omega)
  have hon : octetsOn x.link.stream
      (log ++ [.put x.link.stream x.message (m.unwritten.take n)]) =
        b ++ (p ++ m.unwritten.take n) := by
    rw [octetsOn_append, ho, octetsOn_put, List.append_assoc]
  have other : ∀ s, s ≠ x.link.stream → octetsOn s
      (log ++ [.put x.link.stream x.message (m.unwritten.take n)]) = octetsOn s log :=
    fun s hs => octetsOn_append_of_ne (by simpa [Deed.stream] using Ne.symm hs)
  have hpart : p ++ m.unwritten.take n <+: x.message.encode := by
    rw [he]
    exact (List.prefix_append_right_inj p).mpr (List.take_prefix n _)
  refine
    { stage := fun j m' hm' => ?_
      once := fun s => ?_
      known := fun s hs => h.known s (hheld s hs)
      past := fun d hd => ?_
      halfway := fun j m' y hy => ?_
      clean := fun s hs hi => ?_
      dead := fun s hq hs => ?_
      writesWhole := h.writesWhole.put (fun hq => h.dead _ hq (h.mem_held hx)) hl ?_ }
  · -- the connections stand as they did
    rcases members_modifyMember_cases hx.member hm' with ⟨rfl, rfl⟩ | ⟨-, hm'⟩
    · exact h.stage j m hx.member
    · exact h.stage j m' hm'
  · -- each stream is held once
    have hc : _ + m.streams.count s = w.held.count s + m.streams.count s :=
      held_modifyMember hx.member (fun m' => { m' with unwritten := m.unwritten.drop n }) s
    have := h.once s
    omega
  · -- the deed is on a stream there is
    rcases List.mem_append.mp hd with hd | hd
    · exact h.past d hd
    · rw [List.mem_singleton.mp hd]
      exact h.known _ (h.mem_held hx)
  · -- what was put is off what is left, and other writes are on other streams
    rcases members_modifyMember_cases hx.member hy.member with ⟨rfl, rfl⟩ | ⟨hij, hm'⟩
    · obtain rfl : x = y := Option.some.inj (hx.writing.symm.trans hy.writing)
      refine ⟨hl, b, p ++ m.unwritten.take n, hb, hon, ?_⟩
      rw [List.append_assoc, List.take_append_drop]
      exact he
    · have hy' : w.Writes j m' y := ⟨hm', hy.writing⟩
      rw [other _ (h.stream_ne hy' hx hij)]
      exact h.halfway j m' y hy'
  · -- an idle stream is not the one written on
    have hidle : w.IsIdle s := fun j n' y hy => by
      obtain ⟨m', hy'⟩ := hy.exists_modified (m.unwritten.drop n)
      exact hi j m' y hy'
    rw [other s fun he => hidle i m x hx he.symm]
    exact h.clean s (hheld s hs) hidle
  · -- putting quits no stream
    rcases List.mem_append.mp hq with hq | hq
    · exact h.dead s hq (hheld s hs)
    · cases List.mem_singleton.mp hq
  · -- what is on the stream is whole messages and the beginning of this one
    rw [ho, List.append_assoc]
    exact hb.spoken_append hl hpart

/-- An acceptor has answered as much as it could, and is gone. -/
lemma dismiss (h : Sound log w) {a : Acceptor} (ha : a ∈ w.acceptors) (hh : a.handingTo = none)
    (e : Failure) {m : Message} (hm : m.checkLength = .ok ()) (n : Nat) :
    Sound (log ++ [.put a.stream m (m.encode.take n), .quit a.stream])
      (w.dismiss a e (m.encode.take n)) := by
  obtain ⟨hheld, hidle⟩ := h.isIdle_of_acceptor ha hh
  have hp : Passes [] [a.stream] (w.modifyStream a.stream fun st =>
      { st with outbound := st.outbound ++ m.encode.take n }) (w.dismiss a e (m.encode.take n)) :=
    passes_closeNear_conclude (w := w.modifyStream a.stream _) ha hh (.error e)
  have h₁ := h.far a.stream fun st => { st with outbound := st.outbound ++ m.encode.take n }
  have h' := h₁.pass hp
  have hn : a.stream ∉ (w.dismiss a e (m.encode.take n)).held := by
    have hb := hp.balance a.stream
    have := h₁.once a.stream
    have hc : [a.stream].count a.stream = 1 := by simp
    rw [hc, List.count_nil] at hb
    exact List.count_eq_zero.mp (by omega)
  have other : ∀ s ∈ (w.dismiss a e (m.encode.take n)).held, octetsOn s
      (log ++ [.put a.stream m (m.encode.take n), .quit a.stream]) = octetsOn s log := by
    intro s hs
    have hne : a.stream ≠ s := fun he => hn (he ▸ hs)
    exact octetsOn_append_of_ne (by simpa [Deed.stream] using hne)
  have hw : WritesWhole (log ++ [.put a.stream m (m.encode.take n)]) :=
    h.writesWhole.put (fun hq => h.dead _ hq hheld) hm
      ((h.clean _ hheld hidle).spoken_append hm (List.take_prefix n _))
  exact {
    stage := h'.stage
    once := h'.once
    known := h'.known
    past := fun d hd => by
      -- both deeds are on the acceptor's stream
      rcases List.mem_append.mp hd with hd | hd
      · exact h'.past d hd
      · have hs : d.stream = a.stream := by
          rcases List.mem_pair.mp hd with rfl | rfl <;> rfl
        rw [hs, hp.size]
        exact h₁.known _ hheld
    halfway := fun j m' y hy => by
      rw [other _ (h'.mem_held hy)]
      exact h'.halfway j m' y hy
    clean := fun s hs hi => other s hs ▸ h'.clean s hs hi
    dead := fun s hq hs => by
      -- the acceptor's stream is quit now and held by nobody
      rcases List.mem_append.mp hq with hq | hq
      · exact h'.dead s hq hs
      · simp only [List.mem_cons, reduceCtorEq, false_or, Deed.quit.injEq, List.not_mem_nil,
          or_false] at hq
        exact hn (hq ▸ hs)
    writesWhole := by
      have := hw.quit [a.stream]
      rwa [List.append_assoc] at this }

/-- **A step keeps what is known.** -/
lemma step (h : Sound log w) (hs : w.Step ds w') : Sound (log ++ ds) w' := by
  cases hs with
  | pass hp => exact (List.append_nil log).symm ▸ h.pass hp
  | far s _ => exact (List.append_nil log).symm ▸ h.far s _
  | begin _ hp => exact (List.append_nil log).symm ▸ h.begin hp
  | @own i m e rest ss hm ha hi hs =>
    have ht : m.conn.Takes (.event e) := .internal ha hi
    have hp : Passes [] (m.conn.brought (.event e)) w w := by
      rw [Connection.brought, if_neg (by simp [hi])]
      exact .refl w
    have hc : m.conn.without (.event e) = { m.conn with internal := rest } :=
      Connection.without_of_internal (by rw [hi]; rfl) e
    exact hc ▸ h.turn hm ht hp (by simp) fun s hs' => lost_of_overruns h hm ht hp (hs s hs')
  | @queued w' i m e ss hm ha hi hp hs =>
    have ht : m.conn.Takes (.event e) := .queued ha hi
    have hp : Passes [] (m.conn.brought (.event e)) w w' := by
      rwa [Connection.brought, if_pos hi]
    have hc : m.conn.without (.event e) = m.conn :=
      Connection.without_of_internal (by rw [hi]; rfl) e
    have := h.turn hm ht hp (by simp) fun s hs' => lost_of_overruns h hm ht hp (hs s hs')
    rwa [hc] at this
  | put n hm hx =>
    exact (h.far _ _).put ⟨hm, hx⟩ n
  | @written i m x hm hx hu =>
    have hp : Passes [] (m.conn.brought (.written none)) w w := by
      simpa [Connection.brought, Input.stream?] using .refl w
    have := h.turn hm (.written hx _) hp (fun _ => hu) (List.forall_mem_nil _)
    exact this
  | @failed i m x e hm hx =>
    have hp : Passes [] (m.conn.brought (.written (some e))) w w := by
      simpa [Connection.brought, Input.stream?] using .refl w
    exact h.turn hm (.written hx _) hp (by simp)
      (List.forall_mem_singleton.mpr (h.lost_of_failed hm hx w e))
  | dismiss n ha hh hm => exact h.dismiss ha hh _ hm n

end Sound

/-! ### Runs -/

variable {site : Site} {registry : Registry} {ids : Identifiers} {dialing : Dialing}
  {log ds : List Deed} {w₀ w w' : Network}

lemma sound_create : Sound [] (create site registry ids dialing) where
  stage i m hm := by simp [create] at hm
  once s := by simp [create, held]
  known s hs := by simp [create, held] at hs
  past d hd := by cases hd
  halfway i m x hw := by simpa [create] using hw.member
  clean s _ _ := .nil
  dead s hq := by cases hq
  writesWhole := ⟨fun _ => IsWhole.nil.spoken, .nil, fun _ _ _ hd => by cases hd⟩

lemma Reached.sound (h : Reached w₀ ds w) (h₀ : Sound log w₀) : Sound (log ++ ds) w := by
  induction h with
  | begin => simpa using h₀
  | step _ hs ih => simpa using ih.step hs

lemma outboundOf_put {s : Nat} (hs : s < w.streams.size) (m : Message) (b : Octets) (t : Nat) :
    (w.modifyStream s fun st => { st with outbound := st.outbound ++ b }).outboundOf t =
      w.outboundOf t ++ octetsOn t [.put s m b] := by
  by_cases ht : t = s
  · subst ht
    simp [outboundOf, modifyStream, octetsOn_put, Array.getElem_modify, hs]
  · rw [octetsOn_eq_nil (by simpa [Deed.stream] using Ne.symm ht), List.append_nil]
    simp [outboundOf, modifyStream, Array.getElem?_modify, Ne.symm ht]

lemma outboundOf_far (t : Nat) {f : Stream → Stream} (hf : ∀ st, (f st).outbound <:+ st.outbound)
    (s : Nat) : (w.modifyStream t f).outboundOf s <:+ w.outboundOf s := by
  simp only [outboundOf, modifyStream, Array.getElem?_modify]
  split
  · cases w.streams[s]? with
    | none => exact List.suffix_refl _
    | some st => exact hf st
  · exact List.suffix_refl _

lemma outboundOf_push {st : Stream} (h : st.outbound = []) (s : Nat) :
    ({ w with streams := w.streams.push st } : Network).outboundOf s = w.outboundOf s := by
  simp only [outboundOf, Array.getElem?_push]
  split
  · rename_i hs
    simp [hs, h]
  · rfl

/-- **The deeds tell the truth.** What waits on a stream for its far end, after a step, is the rest
of what waited there before, and then what was put. -/
theorem Step.outbound (hs : w.Step ds w') (h : Sound log w) (s : Nat) :
    ∃ rest, rest <:+ w.outboundOf s ∧ w'.outboundOf s = rest ++ octetsOn s ds := by
  have idle : w'.outboundOf s = w.outboundOf s → octetsOn s ds = [] →
      ∃ rest, rest <:+ w.outboundOf s ∧ w'.outboundOf s = rest ++ octetsOn s ds := fun ho hd =>
    ⟨_, List.suffix_refl _, by rw [ho, hd, List.append_nil]⟩
  cases hs with
  | pass hp => exact idle (hp.outbound s) rfl
  | far t hf => exact ⟨_, outboundOf_far t hf s, (List.append_nil _).symm⟩
  | begin ho hp => exact idle ((hp.outbound s).trans (outboundOf_push ho s)) rfl
  | own | written | failed =>
    exact idle ((passes_turn _ _ _ _).outbound s) (by simp [octetsOn, Deed.octetsOn])
  | queued hm ha hi hp hs =>
    exact idle (((passes_turn _ _ _ _).outbound s).trans (hp.outbound s)) (octetsOn_quits s _)
  | put n hm hx =>
    exact ⟨_, List.suffix_refl _, outboundOf_put (h.known _ (h.mem_held ⟨hm, hx⟩)) _ _ s⟩
  | @dismiss a e m n ha hh hm =>
    have hs := outboundOf_put (h.known _ (h.isIdle_of_acceptor ha hh).1) m (m.encode.take n) s
    exact ⟨_, List.suffix_refl _, ((passes_closeNear _ _).outbound s).trans hs⟩

/-- What has been put on streams is whole messages. -/
lemma Reached.writesWhole (h : Reached (create site registry ids dialing) log w) :
    WritesWhole log :=
  (h.sound sound_create).writesWhole

end Network

end Diameter
