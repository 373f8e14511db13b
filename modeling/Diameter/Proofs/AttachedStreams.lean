import Diameter.Proofs.Holdings
import Diameter.Proofs.Run

/-!
The streams of a connection, and what it writes on them.

A connection has the streams that are attached, and one that waits for its first turn. A turn adds
the stream that its event brings, or none; the others it keeps or lets go (`Beat.count_streams`).
Only a message that is not too long begins to be written, and only on a stream that is attached
(`Beat.begins_writing`). A write that has failed leaves nothing to write on (`Beat.loses`).
-/

namespace Diameter

/-- The stream that a turn may take over. -/
def Input.stream? : Input → Option Nat
  | .event e => e.stream?
  | .written _ => none

namespace Stage

/-- Every stream that is attached. -/
def links : Stage → List Link
  | closed _ | shut _ _ => []
  | dialing rival => (rival.map (·.link)).toList
  | introducing i rival _ _ => i :: (rival.map (·.link)).toList
  | introduced i => [i]
  | turningAway i link _ _ _ => i.toList ++ [link]
  | electing i x _ => [i, x.link]
  | awaitingCer r => [r]
  | accepting _ x _ => [x.link]
  | rejecting _ r _ _ _ => [r]
  | running _ _ link _ _ => [link]

/-- The stream of the first event. -/
def first? : Stage → Option Nat
  | closed first => first.stream?
  | _ => none

end Stage

namespace Connection

/-- Every stream that the connection has. -/
def streams (c : Connection) : List Nat :=
  c.links.map (·.stream) ++ c.internal.filterMap Event.stream?

/-- The connection is in a stage. -/
def InStage (c : Connection) : Prop :=
  ∃ expected n s, Stage.Sound s ∧ c.shape = s.shape expected n

variable {c d : Connection} {expected : Option String} {n : Nat} {s : Stage} {x : Writing}

lemma links_of_shape (h : c.shape = d.shape) : c.links = d.links := by
  have hi : c.initiator = d.initiator := congrArg Shape.initiator h
  have hr : c.responder = d.responder := congrArg Shape.responder h
  have hw : c.writing = d.writing := congrArg Shape.writing h
  rw [links, links, stray?, stray?, hi, hr, hw]

lemma streams_of_shape (h : c.shape = d.shape) : c.streams = d.streams := by
  have hi : c.internal = d.internal := congrArg Shape.internal h
  rw [streams, streams, links_of_shape h, hi]

lemma InStage.congr (h : c.InStage) (hs : d.shape = c.shape) : d.InStage := by
  obtain ⟨expected, n, s, hsound, hc⟩ := h
  exact ⟨expected, n, s, hsound, hs.trans hc⟩

/-- The stream that an input brings from outside. -/
def brought (c : Connection) (i : Input) : List Nat :=
  if c.internal = [] then i.stream?.toList else []

lemma streams_without (c : Connection) (i : Input) : (c.without i).streams =
    c.links.map (·.stream) ++ (c.without i).internal.filterMap Event.stream? := by
  cases i <;> rfl

lemma count_without {i : Input} (ht : c.Takes i) (k : Nat) :
    (c.without i).streams.count k + i.stream?.toList.count k =
      c.streams.count k + (c.brought i).count k := by
  rw [streams_without, streams]
  cases ht with
  | written => simp [brought, without, Input.stream?]
  | @internal e rest _ hi =>
    cases he : e.stream? with
    | none => simp [brought, without, Input.stream?, hi, he]
    | some stream =>
      simp only [brought, without, Input.stream?, hi, he, List.tail_cons, List.count_append,
        List.filterMap_cons_some he, List.count_cons, Option.toList, List.count_nil, reduceCtorEq,
        if_false]
      omega
  | queued _ hi => simp [brought, without, hi]

lemma stray?_of_isTraffic (closing : Bool)
    (h : ∀ x, c.writing = some x → x.goal.IsTraffic closing) : c.stray? = none := by
  unfold stray?
  split
  · rename_i hw
    exact (h _ hw).elim
  · rfl

lemma links_of_stage (h : c.shape = s.shape expected n) (hs : s.Sound) : c.links = s.links := by
  have hi : c.initiator = (s.shape expected n).initiator := congrArg Shape.initiator h
  have hr : c.responder = (s.shape expected n).responder := congrArg Shape.responder h
  have hw : c.writing = (s.shape expected n).writing := congrArg Shape.writing h
  cases s with
  | running closing side link peer w =>
    have hn : c.stray? = none := by
      refine stray?_of_isTraffic closing fun x hx => ?_
      obtain rfl : w = some x := by cases side <;> exact hw.symm.trans hx
      exact hs.2
    rw [links, hi, hr, hn]
    cases side <;> rfl
  | dialing rival | introducing _ rival =>
    rw [links, stray?, hi, hr, hw]
    cases rival <;> rfl
  | turningAway i =>
    rw [links, stray?, hi, hr, hw]
    cases i <;> rfl
  | _ =>
    rw [links, stray?, hi, hr, hw]
    rfl

lemma streams_of_stage (h : c.shape = s.shape expected n) (hs : s.Sound) :
    c.streams = s.links.map (·.stream) ++ s.first?.toList := by
  have hi : c.internal = (s.shape expected n).internal := congrArg Shape.internal h
  rw [streams, links_of_stage h hs, hi]
  cases s with
  | closed first => cases hf : first.stream? <;> simp [Stage.shape, Stage.first?, hf]
  | electing _ _ called => cases called <;> rfl
  | running _ side => cases side <;> rfl
  | _ => rfl

lemma InStage.mem_links (h : c.InStage) (hx : c.writing = some x) : x.link ∈ c.links := by
  obtain ⟨expected, n, s, hs, hc⟩ := h
  have hw : (s.shape expected n).writing = some x := (congrArg Shape.writing hc).symm.trans hx
  rw [links_of_stage hc hs]
  cases s with
  | running closing side link peer w =>
    obtain rfl : w = some x := by cases side <;> exact hw
    simp [Stage.links, hs.1]
  | introducing | turningAway | accepting | rejecting =>
    obtain rfl := Option.some.inj hw
    simp [Stage.links]
  | _ => cases hw

lemma InStage.phase_ne (h : c.InStage) {i : Input} (ht : c.Takes i) : c.phase ≠ .shutdown := by
  cases ht with
  | internal ha _ | queued ha _ => exact ha.1
  | written hw _ =>
    intro hp
    obtain ⟨expected, n, s, hs, hc⟩ := h
    obtain ⟨peer, cached, rfl⟩ := Stage.eq_shut hs ((Stage.phase_of_shape hc).symm.trans hp)
    have hn : c.writing = none := congrArg Shape.writing hc
    exact absurd (hn.symm.trans hw) (by simp)

end Connection

namespace Turn

/-- The turn ends with a message that is too long to be written on its stream. -/
def Overruns (site : Site) (stream : Nat) (u : Turn) : Prop :=
  ∃ (t : Turn) (link : Link) (m : Message) (g : Goal) (e : Failure),
    link.stream = stream ∧ m.checkLength = .error e ∧ u = t.writeOn site link m g ∧
      ((∃ f, g = .turnAway link f) ∨ (∀ l f, g ≠ .turnAway l f) ∧ t.conn.phase ≠ .shutdown)

lemma Overruns.shuts {site : Site} {stream : Nat} {u : Turn} (h : u.Overruns site stream) :
    u.conn.phase = .shutdown ∨ ∃ link : Link, link.stream = stream ∧ .hangUp link ∈ u.outline := by
  obtain ⟨t, link, m, g, e, hs, hm, rfl, hg⟩ := h
  have hw : t.writeOn site link m g = t.settle site g m (some e) := by rw [writeOn, hm]
  rw [hw]
  rcases hg with ⟨f, rfl⟩ | ⟨hg, hp⟩
  · refine .inr ⟨link, hs, ?_⟩
    rw [settle, outline_emit]
    exact List.mem_append_right _ List.mem_cons_self
  · exact .inl (congrArg Shape.phase (settle_failed site t hg m e hp).1)

end Turn

variable {site : Site} {expected : Option String} {n n' : Nat} {s s' : Stage} {i : Input}
  {out : List Effect}

/-- No stream is attached but those that were, and the one that the event brings. -/
lemma Next.count_streams (h : Next site expected n s i out n' s')
    (hi : ∀ e, i = .event e → ∀ e' ∈ (s.shape expected n).internal, e' = e) (k : Nat) :
    (s'.links.map (·.stream) ++ s'.first?.toList).count k ≤
      (s.links.map (·.stream)).count k + i.stream?.toList.count k := by
  have same : ∀ e, i = .event e → s.first?.toList.count k ≤ i.stream?.toList.count k := by
    rintro e rfl
    cases s with
    | closed first =>
      obtain rfl : first = e := hi e rfl first List.mem_cons_self
      exact Nat.le_refl _
    | _ => exact Nat.zero_le _
  cases h with
  | stay | refuse =>
    rw [List.count_append]
    exact Nat.add_le_add_left (same _ rfl) _
  | fall => exact Nat.zero_le _
  | turnAway | turnAwayUnanswered | turnedAway =>
    rename Option Link => i
    cases i <;> simp [Stage.alone, Stage.links, Stage.first?, Input.stream?, Event.stream?,
      List.count_cons] <;> omega
  | _ =>
    simp [Stage.links, Stage.first?, Input.stream?, Event.stream?, List.count_cons] <;> omega

/-- A message that begins to be written is not too long. -/
lemma Next.begins_writing (h : Next site expected n s i out n' s')
    (hw : ∀ e, i = .event e → (s.shape expected n).writing = none) {x : Writing}
    (hx : (s'.shape expected n').writing = some x) :
    x.message.checkLength = .ok () ∧ ∃ e, i = .event e := by
  cases h with
  | stay | refuse => exact absurd ((hw _ rfl).symm.trans hx) (by simp)
  | acceptFirst _ _ hl | rejectFirst hl | acceptAwaited _ _ _ hl | rejectAwaited hl | introduce hl
  | turnAway hl | undialed hl | win hl | ownLost hl =>
    obtain rfl := Option.some.inj hx
    exact ⟨hl, _, rfl⟩
  | write hl =>
    rename Side => side
    cases side <;> exact Option.some.inj hx ▸ ⟨hl, _, rfl⟩
  | turnAwayUnanswered | turnedAway =>
    rename Option Link => i
    cases i <;> cases hx
  | written | part =>
    rename Side => side
    cases side <;> cases hx
  | _ => cases hx

lemma Next.failed {e : Failure} (h : Next site expected n s (.written (some e)) out n' s') :
    (s'.links = [] ∧ s'.first? = none) ∨
      ∃ i link cea f d, s = .turningAway i link cea f d ∧ s' = .alone i := by
  cases h with
  | turnedAway => exact .inr ⟨_, _, _, _, _, rfl, rfl⟩
  | fall => exact .inl ⟨rfl, rfl⟩

lemma Next.hangsUp (h : Next site expected n s i out n' s') {link : Link}
    (hl : .hangUp link ∈ out)
    (hc : (s.links.map (·.stream)).count link.stream + i.stream?.toList.count link.stream ≤ 1) :
    link.stream ∉ s'.links.map (·.stream) ++ s'.first?.toList := by
  intro hm
  have hsome : (s'.links.map (·.stream) ++ s'.first?.toList).count link.stream ≠ 0 :=
    fun h => List.count_eq_zero.mp h hm
  cases h with
  | turnAwayUnanswered | turnedAway =>
    rename Option Link => i
    cases i <;> simp_all [Stage.alone, Stage.links, Stage.first?, Input.stream?, Event.stream?,
      List.count_cons]
  | _ => simp_all [Stage.links, Stage.first?, Input.stream?, Event.stream?, List.count_cons]

namespace Beat

variable {b : Beat}

/-- The turn has a message for a stream of the connection that is too long to be written. -/
def Overruns (site : Site) (b : Beat) (stream : Nat) : Prop :=
  stream ∈ (b.conn.without b.input).streams ++ b.input.stream?.toList ∧
    (b.turn site).Overruns site stream

lemma exists_next (site : Site) (hc : b.conn.InStage) (ht : b.conn.Takes b.input) :
    ∃ expected n s n' s', Stage.Sound s ∧ b.conn.shape = s.shape expected n ∧ Stage.Sound s' ∧
      (b.turn site).conn.shape = s'.shape expected n' ∧
      Next site expected n s b.input (b.turn site).outline n' s' := by
  obtain ⟨expected, n, s, hs, hc⟩ := hc
  obtain ⟨out, n', s', hn, hc', rfl⟩ := ht.follows hc hs b.moment.now b.moment.serial b.moment.ids
  exact ⟨expected, n, s, n', s', hs, hc, hn.sound hs, hc', hn⟩

lemma inStage (hc : b.conn.InStage) (ht : b.conn.Takes b.input) :
    (b.turn site).conn.InStage := by
  obtain ⟨expected, -, -, n', s', -, -, hs', hc', -⟩ := exists_next site hc ht
  exact ⟨expected, n', s', hs', hc'⟩

lemma count_links (hc : b.conn.shape = s.shape expected n) (hs : s.Sound) (k : Nat) :
    (s.links.map (·.stream)).count k ≤ (b.conn.without b.input).streams.count k := by
  rw [Connection.streams_without, Connection.links_of_stage hc hs, List.count_append]
  exact Nat.le_add_right _ _

/-- **No stream comes from nowhere.** What a connection has after a turn it had before, or the
event has brought it. -/
lemma count_streams (hc : b.conn.InStage) (ht : b.conn.Takes b.input) (k : Nat) :
    (b.turn site).conn.streams.count k ≤
      (b.conn.without b.input).streams.count k + b.input.stream?.toList.count k := by
  obtain ⟨expected, n, s, n', s', hs, hc, hs', hc', hn⟩ := exists_next site hc ht
  have hi : ∀ e, b.input = .event e → ∀ e' ∈ (s.shape expected n).internal, e' = e := by
    intro e he e' he'
    have hint : b.conn.internal = (s.shape expected n).internal := congrArg Shape.internal hc
    have htail := s.tail_internal expected n
    rw [he] at ht
    rw [← hint] at he' htail
    cases ht with
    | internal _ hcons =>
      rw [hcons, List.tail_cons] at htail
      rw [hcons, htail] at he'
      exact List.mem_singleton.mp he'
    | queued _ hnil => exact absurd (hnil ▸ he') (by simp)
  rw [Connection.streams_of_stage hc' hs']
  exact Nat.le_trans (hn.count_streams hi k) (Nat.add_le_add_right (count_links hc hs k) _)

/-- A message that begins to be written is not too long. -/
lemma begins_writing (hc : b.conn.InStage) (ht : b.conn.Takes b.input) {x : Writing}
    (hx : (b.turn site).conn.writing = some x) :
    x.message.checkLength = .ok () ∧ ∃ e, b.input = .event e := by
  obtain ⟨expected, n, s, n', s', -, hc, -, hc', hn⟩ := exists_next site hc ht
  refine hn.begins_writing (fun e he => ?_) ((congrArg Shape.writing hc').symm.trans hx)
  have hw : b.conn.writing = none := b.writing_begun.symm.trans (writing_begun_of_event ht he)
  exact (congrArg Shape.writing hc).symm.trans hw

/-- **A stream on which a write has failed is lost.** -/
lemma loses (hc : b.conn.InStage) (ht : b.conn.Takes b.input) {e : Failure} {x : Writing}
    (hi : b.input = .written (some e)) (hx : b.conn.writing = some x)
    (h : b.conn.streams.count x.link.stream ≤ 1) :
    x.link.stream ∉ (b.turn site).conn.streams := by
  obtain ⟨expected, n, s, n', s', hs, hc, hs', hc', hn⟩ := exists_next site hc ht
  rw [hi] at hn
  rw [Connection.streams_of_stage hc' hs']
  rcases hn.failed with ⟨hl, hf⟩ | ⟨i, link, cea, f, d, rfl, rfl⟩
  · simp [hl, hf]
  · obtain rfl := Option.some.inj ((congrArg Shape.writing hc).symm.trans hx)
    rw [Connection.streams_of_stage hc hs] at h
    cases i with
    | none => simp [Stage.alone, Stage.links, Stage.first?]
    | some i =>
      intro hm
      have heq : link.stream = i.stream := List.mem_singleton.mp hm
      have htwo : ([i.stream, link.stream] : List Nat).count link.stream ≤ 1 := h
      rw [heq] at htwo
      simp at htwo

lemma loses_overrun (hc : b.conn.InStage) (ht : b.conn.Takes b.input) {stream : Nat}
    (hu : b.Overruns site stream)
    (h : (b.conn.without b.input).streams.count stream + b.input.stream?.toList.count stream ≤ 1) :
    stream ∉ (b.turn site).conn.streams := by
  obtain ⟨expected, n, s, n', s', hs, hc, hs', hc', hn⟩ := exists_next site hc ht
  rw [Connection.streams_of_stage hc' hs']
  rcases hu.2.shuts with hp | ⟨link, rfl, hl⟩
  · obtain ⟨peer, cached, rfl⟩ := Stage.eq_shut hs' ((Stage.phase_of_shape hc').symm.trans hp)
    exact List.not_mem_nil
  · exact hn.hangsUp hl (Nat.le_trans (Nat.add_le_add_right (count_links hc hs _) _) h)

end Beat

end Diameter
