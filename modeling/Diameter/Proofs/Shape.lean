import Mathlib.Tactic.Common
import Diameter.Connection.Step

/-!
The shape of a connection: what of it the way to an open stream is about.

The shape leaves out requests, alarms and the watchdog. The outline of a turn is what it does
with streams, with the dial, and with what an onlooker sees of the connection. Each move of a
turn is described here by what it does to the two.
-/

namespace Diameter

/-- A connection without requests, alarms and watchdog. -/
structure Shape where
  expectedHost : Option String
  attached : Nat
  phase : Phase
  identity : Option PeerIdentity
  dialing : Bool
  initiator : Option Link
  responder : Option Link
  cachedCea : Option Message
  cachedPeer : Option PeerIdentity
  internal : List Event
  writing : Option Writing

namespace Connection

def shape (c : Connection) : Shape where
  expectedHost := c.expectedHost
  attached := c.attached
  phase := c.phase
  identity := c.identity
  dialing := c.dialing
  initiator := c.initiator
  responder := c.responder
  cachedCea := c.cachedCea
  cachedPeer := c.cachedPeer
  internal := c.internal
  writing := c.writing

lemma peerHost?_congr {c d : Connection} (h : c.shape = d.shape) : c.peerHost? = d.peerHost? := by
  have hi : c.identity = d.identity := congrArg Shape.identity h
  have hk : c.cachedPeer = d.cachedPeer := congrArg Shape.cachedPeer h
  have he : c.expectedHost = d.expectedHost := congrArg Shape.expectedHost h
  rw [peerHost?, peerHost?, hi, hk, he]

lemma link?_of_sideOf? {c : Connection} {l : Nat} {side : Side} (h : c.sideOf? l = some side) :
    ∃ k, c.link? side = some k ∧ k.id = l := by
  unfold Connection.sideOf? at h
  split at h
  · rename_i hi
    obtain rfl : .initiator = side := by simpa using h
    obtain ⟨k, hk, hl⟩ := (Option.any_eq_true _ _).mp hi
    exact ⟨k, hk, by simpa using hl⟩
  · split at h
    · rename_i hr
      obtain rfl : .responder = side := by simpa using h
      obtain ⟨k, hk, hl⟩ := (Option.any_eq_true _ _).mp hr
      exact ⟨k, hk, by simpa using hl⟩
    · exact absurd h (by simp)

end Connection

namespace Shape

/-- The shape of a connection that has been torn down. -/
def fallen (s : Shape) : Shape :=
  { s with
    phase := .shutdown, dialing := false, initiator := none, responder := none
    cachedCea := none }

/-- What becomes of streams and dial when a connection is torn down. -/
def releases (s : Shape) : List Effect :=
  (if s.dialing then [.abandonDial] else []) ++ s.initiator.toList.map .hangUp ++
    s.responder.toList.map .hangUp

/-- What tearing a connection down looks like. -/
def fall (s : Shape) : List Effect := .showPhase .shutdown :: s.releases

lemma mem_releases {s : Shape} {e : Effect} (h : e ∈ s.releases) :
    e = .abandonDial ∨ ∃ link, e = .hangUp link := by
  simp only [releases, List.mem_append, List.mem_map] at h
  rcases h with (h | ⟨link, -, rfl⟩) | ⟨link, -, rfl⟩
  · split at h
    · exact .inl (List.mem_singleton.mp h)
    · cases h
  · exact .inr ⟨link, rfl⟩
  · exact .inr ⟨link, rfl⟩

end Shape

/-- An effect on streams, on the dial or on what is shown of the connection. -/
def Effect.isStructural : Effect → Bool
  | .showPhase _ | .showPeer _ | .dial | .abandonDial | .listen _ | .hangUp _ | .refuse _ => true
  | _ => false

namespace Turn

variable (site : Site) (t : Turn)

/-- What a turn does with streams, the dial and what is shown of the connection. -/
def outline : List Effect := t.effects.filter Effect.isStructural

/-! ### Moves that keep the shape -/

@[simp] lemma conn_emit (e : Effect) : (t.emit e).conn = t.conn := rfl

@[simp] lemma conn_note (n : Note) : (t.note n).conn = t.conn := rfl

@[simp] lemma conn_report (e : Failure) : (t.report e).conn = t.conn := rfl

@[simp] lemma conn_notAcceptable (event : String) : (t.notAcceptable event).conn = t.conn := rfl

lemma outline_emit (e : Effect) :
    (t.emit e).outline = t.outline ++ if e.isStructural then [e] else [] := by
  simp only [outline, emit, List.filter_append, List.filter_cons, List.filter_nil]

@[simp] lemma outline_note (n : Note) : (t.note n).outline = t.outline := by
  simp [note, outline_emit, Effect.isStructural]

@[simp] lemma outline_report (e : Failure) : (t.report e).outline = t.outline := outline_note _ _

@[simp] lemma outline_notAcceptable (event : String) :
    (t.notAcceptable event).outline = t.outline := outline_report _ _

@[simp] lemma shape_arm (slot : AlarmSlot) (after : Nat) (event : Event) :
    (t.arm slot after event).conn.shape = t.conn.shape := rfl

@[simp] lemma outline_arm (slot : AlarmSlot) (after : Nat) (event : Event) :
    (t.arm slot after event).outline = t.outline := rfl

@[simp] lemma shape_disarm (slot : AlarmSlot) : (t.disarm slot).conn.shape = t.conn.shape := rfl

@[simp] lemma outline_disarm (slot : AlarmSlot) : (t.disarm slot).outline = t.outline := rfl

@[simp] lemma shape_complete (x : Exchange) (c : Completion) (p : Pending) :
    (t.complete x c p).conn.shape = t.conn.shape := rfl

@[simp] lemma outline_complete (x : Exchange) (c : Completion) (p : Pending) :
    (t.complete x c p).outline = t.outline := by
  simp only [complete, outline_emit, Effect.isStructural]
  exact List.append_nil _

@[simp] lemma shape_armIdle : (t.armIdle site).conn.shape = t.conn.shape := rfl

@[simp] lemma outline_armIdle : (t.armIdle site).outline = t.outline := rfl

lemma shape_foldl_disarm (xs : List Exchange) :
    (xs.foldl (fun t x => t.disarm (.exchange x.key)) t).conn.shape = t.conn.shape := by
  induction xs generalizing t with
  | nil => rfl
  | cons x xs ih => exact ih _

lemma effects_foldl_disarm (xs : List Exchange) :
    (xs.foldl (fun t x => t.disarm (.exchange x.key)) t).effects = t.effects := by
  induction xs generalizing t with
  | nil => rfl
  | cons x xs ih => exact ih _

lemma stoppers_foldl_disarm (xs : List Exchange) :
    (xs.foldl (fun t x => t.disarm (.exchange x.key)) t).conn.stoppers = t.conn.stoppers := by
  induction xs generalizing t with
  | nil => rfl
  | cons x xs ih => exact ih _

@[simp] lemma shape_drain : (t.drain site).conn.shape = t.conn.shape :=
  shape_foldl_disarm t _

@[simp] lemma shape_releaseStoppers : (t.releaseStoppers).conn.shape = t.conn.shape := rfl

@[simp] lemma outline_refuseToSend (waiter : Nat) (request : Message) :
    (t.refuseToSend site waiter request).outline = t.outline :=
  (outline_emit t _).trans (List.append_nil _)

/-! ### Streams -/

@[simp] lemma shape_hangUp_initiator :
    (t.hangUp .initiator).conn.shape = { t.conn.shape with initiator := none } := by
  cases h : t.conn.initiator <;> simp [hangUp, Connection.link?, h, Connection.shape]

@[simp] lemma shape_hangUp_responder :
    (t.hangUp .responder).conn.shape = { t.conn.shape with responder := none } := by
  cases h : t.conn.responder <;> simp [hangUp, Connection.link?, h, Connection.shape]

lemma effects_hangUp (side : Side) :
    (t.hangUp side).effects = t.effects ++ (t.conn.link? side).toList.map .hangUp := by
  cases h : t.conn.link? side <;> cases side <;> simp [hangUp, h, emit]

@[simp] lemma outline_hangUp (side : Side) :
    (t.hangUp side).outline = t.outline ++ (t.conn.link? side).toList.map .hangUp := by
  cases h : t.conn.link? side <;> simp [outline, effects_hangUp, h, Effect.isStructural]

@[simp] lemma now_hangUp (side : Side) : (t.hangUp side).now = t.now := by
  cases h : t.conn.link? side <;> cases side <;> simp [hangUp, h, emit]

@[simp] lemma serial_hangUp (side : Side) : (t.hangUp side).serial = t.serial := by
  cases h : t.conn.link? side <;> cases side <;> simp [hangUp, h, emit]

@[simp] lemma pending_hangUp (side : Side) : (t.hangUp side).conn.pending = t.conn.pending := by
  cases h : t.conn.link? side <;> cases side <;> simp [hangUp, h]

@[simp] lemma stoppers_hangUp (side : Side) : (t.hangUp side).conn.stoppers = t.conn.stoppers := by
  cases h : t.conn.link? side <;> cases side <;> simp [hangUp, h]

@[simp] lemma shape_dropCandidate :
    (t.dropCandidate).conn.shape =
      { t.conn.shape with responder := none, cachedCea := none, cachedPeer := none } := by
  have h := shape_hangUp_responder t
  simp only [Connection.shape, Shape.mk.injEq] at h
  simp [dropCandidate, Connection.shape, h]

@[simp] lemma outline_dropCandidate :
    (t.dropCandidate).outline = t.outline ++ t.conn.responder.toList.map .hangUp :=
  outline_hangUp t .responder

/-! ### Changing the phase -/

@[simp] lemma shape_stopDialing :
    (t.stopDialing).conn.shape = { t.conn.shape with dialing := false } := by
  cases h : t.conn.dialing <;> simp [stopDialing, h, Connection.shape]

lemma effects_stopDialing :
    (t.stopDialing).effects = t.effects ++ if t.conn.dialing then [.abandonDial] else [] := by
  cases h : t.conn.dialing <;> simp [stopDialing, h, emit]

@[simp] lemma pending_stopDialing : (t.stopDialing).conn.pending = t.conn.pending := by
  cases h : t.conn.dialing <;> simp [stopDialing, h]

@[simp] lemma stoppers_stopDialing : (t.stopDialing).conn.stoppers = t.conn.stoppers := by
  cases h : t.conn.dialing <;> simp [stopDialing, h]

@[simp] lemma shape_dropStreams :
    (t.dropStreams).conn.shape =
      { t.conn.shape with initiator := none, responder := none, cachedCea := none } := by
  have h := shape_hangUp_responder (t.hangUp .initiator)
  rw [shape_hangUp_initiator] at h
  simp only [Connection.shape, Shape.mk.injEq] at h
  simp [dropStreams, Connection.shape, h]

lemma effects_dropStreams :
    (t.dropStreams).effects = t.effects ++ t.conn.initiator.toList.map .hangUp ++
      t.conn.responder.toList.map .hangUp := by
  have hr : (t.hangUp .initiator).conn.responder = t.conn.responder :=
    congrArg Shape.responder (shape_hangUp_initiator t)
  calc _ = ((t.hangUp .initiator).hangUp .responder).effects := rfl
    _ = _ := by simp [effects_hangUp, Connection.link?, hr]

lemma shape_teardown :
    (t.teardown site).conn.shape = { t.conn.shape.fallen with phase := t.conn.phase } := by
  simp only [teardown, shape_releaseStoppers, shape_drain, shape_disarm, shape_dropStreams,
    shape_stopDialing]
  rfl

lemma effects_teardown :
    (t.teardown site).effects = t.effects ++ t.conn.shape.releases ++
      (t.conn.pending.drain site.node).map .complete ++ t.conn.stoppers.map .release := by
  let u : Turn := ((t.stopDialing.dropStreams.disarm .idle).disarm .reply).disarm .close
  have hs := shape_stopDialing t
  have hi : t.stopDialing.conn.initiator = t.conn.initiator := congrArg Shape.initiator hs
  have hr : t.stopDialing.conn.responder = t.conn.responder := congrArg Shape.responder hs
  have he : u.effects = t.effects ++ t.conn.shape.releases := by
    calc u.effects = t.stopDialing.dropStreams.effects := rfl
      _ = _ := by
        simp only [effects_dropStreams, effects_stopDialing, hi, hr, List.append_assoc,
          Shape.releases]
        rfl
  have hp : u.conn.pending = t.conn.pending := by simp [u, disarm, dropStreams]
  have hw : u.conn.stoppers = t.conn.stoppers := by simp [u, disarm, dropStreams]
  calc (t.teardown site).effects
      = u.effects ++ (u.conn.pending.drain site.node).map .complete ++
          u.conn.stoppers.map .release := by
        simp [teardown, releaseStoppers, drain, effects_foldl_disarm, stoppers_foldl_disarm, u]
    _ = _ := by rw [he, hp, hw]

@[simp] lemma pending_teardown : (t.teardown site).conn.pending = {} := rfl

lemma outline_teardown : (t.teardown site).outline = t.outline ++ t.conn.shape.releases := by
  have hr : t.conn.shape.releases.filter Effect.isStructural = t.conn.shape.releases := by
    refine List.filter_eq_self.mpr fun e he => ?_
    simp only [Shape.releases, List.mem_append, List.mem_map] at he
    rcases he with (he | ⟨l, -, rfl⟩) | ⟨l, -, rfl⟩
    · split at he
      · obtain rfl := List.mem_singleton.mp he
        rfl
      · cases he
    · rfl
    · rfl
  simp [outline, effects_teardown, hr, Effect.isStructural]

lemma transition_of_phase {p : Phase} (h : t.conn.phase = p) : t.transition site p = t := by
  simp [transition, h]

lemma shape_transition {p : Phase} (hp : p ≠ .shutdown) :
    (t.transition site p).conn.shape = { t.conn.shape with phase := p } := by
  by_cases h : t.conn.phase = p
  · rw [transition_of_phase site t h, ← h]; rfl
  · rw [transition, if_neg h]
    cases p <;> first | exact absurd rfl hp | rfl

/-- The news of a change of phase. -/
def shift (p : Phase) : List Effect :=
  [.note (.phase t.conn.peerHost? t.conn.phase p), .showPhase p]

lemma effects_transition {p : Phase} (hp : p ≠ .shutdown) (h : t.conn.phase ≠ p) :
    (t.transition site p).effects = t.effects ++ t.shift p := by
  rw [transition, if_neg h]
  cases p <;> first | exact absurd rfl hp | exact List.append_assoc _ _ _

lemma pending_transition {p : Phase} (hp : p ≠ .shutdown) :
    (t.transition site p).conn.pending = t.conn.pending := by
  by_cases h : t.conn.phase = p
  · rw [transition_of_phase site t h]
  · rw [transition, if_neg h]
    cases p <;> first | exact absurd rfl hp | rfl

lemma outline_transition {p : Phase} (hp : p ≠ .shutdown) (h : t.conn.phase ≠ p) :
    (t.transition site p).outline = t.outline ++ [.showPhase p] := by
  simp [outline, effects_transition site t hp h, shift, Effect.isStructural]

lemma shape_transition_shutdown (h : t.conn.phase ≠ .shutdown) :
    (t.transition site .shutdown).conn.shape = t.conn.shape.fallen := by
  rw [transition, if_neg h]
  simp only [shape_teardown]
  rfl

@[simp] lemma phase_transition_shutdown : (t.transition site .shutdown).conn.phase = .shutdown := by
  by_cases h : t.conn.phase = .shutdown
  · rw [transition_of_phase site t h, h]
  · exact congrArg Shape.phase (shape_transition_shutdown site t h)

lemma effects_transition_shutdown (h : t.conn.phase ≠ .shutdown) :
    (t.transition site .shutdown).effects = t.effects ++ t.shift .shutdown ++
      t.conn.shape.releases ++ (t.conn.pending.drain site.node).map .complete ++
      t.conn.stoppers.map .release := by
  have hs : ∀ c : Connection, ({ c with phase := .shutdown } : Connection).shape.releases =
      c.shape.releases := fun _ => rfl
  rw [transition, if_neg h]
  simp only [effects_teardown, emit, note, List.append_assoc, shift, hs]
  rfl

lemma exists_effects_transition (p : Phase) {P : Effect → Prop} (hs : ∀ e ∈ t.shift p, P e)
    (hd : P .abandonDial) (hh : ∀ link, P (.hangUp link))
    (hc : ∀ c ∈ t.conn.pending.drain site.node, P (.complete c)) (hr : ∀ w, P (.release w)) :
    ∃ es, (t.transition site p).effects = t.effects ++ es ∧ ∀ e ∈ es, P e := by
  by_cases hp : t.conn.phase = p
  · -- it stays where it is
    exact ⟨[], by simp [transition_of_phase site t hp]⟩
  by_cases hq : p = .shutdown
  · subst hq
    have he := effects_transition_shutdown site t hp
    simp only [List.append_assoc] at he
    refine ⟨_, he, fun e hm => ?_⟩
    simp only [List.mem_append, List.mem_map] at hm
    rcases hm with hm | hm | ⟨c, hm, rfl⟩ | ⟨w, -, rfl⟩
    · -- what is shown, let go of, completed and released, in this order
      exact hs e hm
    · rcases Shape.mem_releases hm with rfl | ⟨link, rfl⟩
      · exact hd
      · exact hh link
    · exact hc c hm
    · exact hr w
  · exact ⟨_, effects_transition site t hq hp, hs⟩

lemma pending_transition_shutdown (h : t.conn.phase ≠ .shutdown) :
    (t.transition site .shutdown).conn.pending = {} := by
  rw [transition, if_neg h]
  rfl

lemma outline_transition_shutdown (h : t.conn.phase ≠ .shutdown) :
    (t.transition site .shutdown).outline = t.outline ++ t.conn.shape.fall := by
  rw [transition, if_neg h]
  simp only [outline_teardown, outline_emit, outline_note, Effect.isStructural, if_true]
  rw [List.append_assoc]
  rfl

lemma writing_transition (p : Phase) :
    (t.transition site p).conn.writing = t.conn.writing := by
  by_cases h : t.conn.phase = p
  · rw [transition_of_phase site t h]
  · by_cases hp : p = .shutdown
    · subst hp
      exact congrArg Shape.writing (shape_transition_shutdown site t h)
    · exact congrArg Shape.writing (shape_transition site t hp)

@[simp] lemma phase_giveUp (e : Failure) : (t.giveUp site e).conn.phase = .shutdown :=
  phase_transition_shutdown site _

lemma shape_giveUp (e : Failure) (h : t.conn.phase ≠ .shutdown) :
    (t.giveUp site e).conn.shape = t.conn.shape.fallen :=
  shape_transition_shutdown site (t.report e) h

lemma effects_giveUp (e : Failure) (h : t.conn.phase ≠ .shutdown) :
    (t.giveUp site e).effects = t.effects ++ [.note (.failure t.conn.peerHost? e)] ++
      t.shift .shutdown ++ t.conn.shape.releases ++
      (t.conn.pending.drain site.node).map .complete ++ t.conn.stoppers.map .release :=
  effects_transition_shutdown site (t.report e) h

lemma outline_giveUp (e : Failure) (h : t.conn.phase ≠ .shutdown) :
    (t.giveUp site e).outline = t.outline ++ t.conn.shape.fall := by
  rw [giveUp, outline_transition_shutdown site (t.report e) h, outline_report]
  rfl

lemma shape_openAs (peer : PeerIdentity) {p : Phase} (hp : p ≠ .shutdown) :
    (t.openAs site peer p).conn.shape =
      { t.conn.shape with phase := p, identity := some peer } := by
  rw [openAs, shape_armIdle, shape_transition _ _ hp]
  rfl

lemma outline_openAs (peer : PeerIdentity) {p : Phase} (hp : p ≠ .shutdown)
    (h : t.conn.phase ≠ p) :
    (t.openAs site peer p).outline = t.outline ++ [.showPeer peer, .showPhase p] := by
  rw [openAs, outline_armIdle, outline_transition _ _ hp (by exact h)]
  calc _ = (Turn.emit (.showPeer peer) t).outline ++ [Effect.showPhase p] := rfl
    _ = _ := by simp [outline_emit, Effect.isStructural]

lemma elect_of_cachedPeer {peer : PeerIdentity} (h : t.conn.cachedPeer = some peer) :
    t.elect site = if wonElection site.node.host peer.host then
      { t with conn.internal := t.conn.internal ++ [.wonElection] } else t := by
  simp [elect, h]

/-! ### Writing -/

lemma settle_failed {g : Goal} (hg : ∀ l e, g ≠ .turnAway l e) (m : Message) (w : Failure)
    (h : t.conn.phase ≠ .shutdown) :
    (t.settle site g m (some w)).conn.shape = t.conn.shape.fallen ∧
      (t.settle site g m (some w)).outline = t.outline ++ t.conn.shape.fall := by
  have again : ∀ e, (t.giveUp site w).giveUp site e = ((t.giveUp site w).report e) := by
    intro e
    exact transition_of_phase site _ (phase_giveUp site t w)
  have hs := shape_giveUp site t w h
  have ho := outline_giveUp site t w h
  cases g with
  | turnAway l e => exact absurd rfl (hg l e)
  | reject e => simp only [settle, again, conn_report, outline_report]; exact ⟨hs, ho⟩
  | complain e => simp only [settle, conn_report, outline_report]; exact ⟨hs, ho⟩
  | _ => exact ⟨hs, ho⟩

/-- A write begins, or is over at once because the message is too long. -/
lemma writeOn_cases (link : Link) (m : Message) (g : Goal) :
    (m.checkLength = .ok () ∧ t.writeOn site link m g =
        { t with conn.writing := some ⟨link, m, g, t.now + site.settings.sendTimeout⟩ }) ∨
      ∃ e, m.checkLength = .error e ∧ t.writeOn site link m g = t.settle site g m (some e) := by
  cases h : m.checkLength with
  | ok _ => left; simp [writeOn, h]
  | error e => right; exact ⟨e, rfl, by simp [writeOn, h]⟩

lemma writeOn_of_checkLength (link : Link) {m : Message} (g : Goal) (h : m.checkLength = .ok ()) :
    t.writeOn site link m g =
      { t with conn.writing := some ⟨link, m, g, t.now + site.settings.sendTimeout⟩ } := by
  simp [writeOn, h]

lemma write_of_link {side : Side} {link : Link} (h : t.conn.link? side = some link)
    (m : Message) (g : Goal) : t.write site side m g = t.writeOn site link m g := by
  simp [write, h]

end Turn

end Diameter
