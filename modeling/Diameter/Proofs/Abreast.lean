import Mathlib.Data.List.Forall2
import Diameter.Proofs.Expected

/-!
Opening with the CER at hand, and opening after having waited for it.

A connection that is begun with a CER knows the name of the peer from it, and is closed until it has
answered. One that has waited for the CER expects nobody, and is in the phase of waiting. They make
the same moves then, and these differ in nothing but that: the notices of the one name the peer
before it is bound, and leave another phase (`Turn.Abreast`). Main statement:
`Turn.Abreast.answerFirstCer`.
-/

namespace Diameter

/-- The same connection, had it waited for its CER: it expects nobody, and as long as it has not
entered another phase it is in that of waiting. -/
def Connection.waited (c : Connection) : Connection :=
  { c with
    expectedHost := none
    phase := if c.phase = .closed then .waitCer else c.phase }

/-- Who is named: the same, or nobody where the one expected is named. -/
def SameName (name p q : Option String) : Prop := q = p ∨ p = name ∧ q = none

/-- An effect and what stands for it where the CER was waited for. -/
inductive Effect.Resembles (name : Option String) : Effect → Effect → Prop
  | same (e : Effect) : Resembles name e e
  | phase {p q : Option String} {a b : Phase} (hn : SameName name p q)
    (hp : b = a ∨ a = .closed ∧ b = .waitCer) (after : Phase) :
    Resembles name (.note (.phase p a after)) (.note (.phase q b after))
  | failure {p q : Option String} (hn : SameName name p q) (f : Failure) :
    Resembles name (.note (.failure p f)) (.note (.failure q f))

namespace Connection

variable {c : Connection}

lemma sameName_waited (c : Connection) :
    SameName c.expectedHost c.peerHost? c.waited.peerHost? := by
  unfold peerHost?
  rw [show c.waited.identity = c.identity from rfl, show c.waited.cachedPeer = c.cachedPeer from rfl]
  split
  · exact .inl rfl
  · exact .inr ⟨rfl, rfl⟩

lemma phase_waited (c : Connection) :
    c.waited.phase = c.phase ∨ c.phase = .closed ∧ c.waited.phase = .waitCer := by
  by_cases h : c.phase = .closed
  · exact .inr ⟨h, if_pos h⟩
  · exact .inl (if_neg h)

lemma phase_waited_eq_iff {p : Phase} (hc : p ≠ .closed) (hw : p ≠ .waitCer) :
    c.waited.phase = p ↔ c.phase = p := by
  rcases c.phase_waited with h | ⟨h, hq⟩
  · rw [h]
  · rw [h, hq]
    exact ⟨fun he => absurd he.symm hw, fun he => absurd he.symm hc⟩

/-- What is left of a connection that is torn down. -/
def torn (c : Connection) : Connection :=
  let alarms := ((c.alarms.cancel .idle).cancel .reply).cancel .close
  { c with
    dialing := false, initiator := none, responder := none, cachedCea := none
    alarms := c.pending.entries.foldl (fun as x => as.cancel (.exchange x.key)) alarms
    pending := {}, stoppers := [] }

end Connection

namespace Turn

variable (site : Site) (t : Turn)

/-! ### Tearing down, told at once -/

lemma stopDialing_eq : t.stopDialing = { t with
    conn.dialing := false
    effects := t.effects ++ if t.conn.dialing then [.abandonDial] else [] } := by
  obtain ⟨now, serial, ids, c, effects⟩ := t
  obtain ⟨_, _, _, _, dialing⟩ := c
  cases dialing <;> simp [stopDialing, emit]

lemma hangUp_initiator_eq : t.hangUp .initiator = { t with
    conn.initiator := none
    effects := t.effects ++ t.conn.initiator.toList.map .hangUp } := by
  obtain ⟨now, serial, ids, c, effects⟩ := t
  obtain ⟨_, _, _, _, _, initiator⟩ := c
  cases initiator <;> simp [hangUp, Connection.link?, emit]

lemma hangUp_responder_eq : t.hangUp .responder = { t with
    conn.responder := none
    effects := t.effects ++ t.conn.responder.toList.map .hangUp } := by
  obtain ⟨now, serial, ids, c, effects⟩ := t
  obtain ⟨_, _, _, _, _, _, responder⟩ := c
  cases responder <;> simp [hangUp, Connection.link?, emit]

lemma foldl_disarm_eq (xs : List Exchange) :
    xs.foldl (fun t x => t.disarm (.exchange x.key)) t = { t with
      conn.alarms := xs.foldl (fun as x => as.cancel (.exchange x.key)) t.conn.alarms } := by
  induction xs generalizing t with
  | nil => rfl
  | cons x xs ih => exact ih _

lemma drain_eq : t.drain site = { t with
    conn.alarms := t.conn.pending.entries.foldl (fun as x => as.cancel (.exchange x.key))
      t.conn.alarms
    conn.pending := {}
    effects := t.effects ++ (t.conn.pending.drain site.node).map .complete } := by
  simp only [drain, foldl_disarm_eq]

lemma teardown_eq : t.teardown site = { t with
    conn := t.conn.torn
    effects := t.effects ++ (t.conn.shape.releases ++
      (t.conn.pending.drain site.node).map .complete ++ t.conn.stoppers.map .release) } := by
  simp only [teardown, dropStreams, stopDialing_eq, hangUp_initiator_eq, hangUp_responder_eq,
    disarm, drain_eq, releaseStoppers, Shape.releases, List.append_assoc]
  rfl

/-- Two turns of the same moment, one of a connection that was handed its CER, the other of one that
has waited for it. What they have done since the effects `xs` and `ys` is alike. -/
structure Abreast (name : Option String) (xs ys : List Effect) (t u : Turn) : Prop where
  now : u.now = t.now
  serial : u.serial = t.serial
  ids : u.ids = t.ids
  conn : u.conn = t.conn.waited
  expected : t.conn.expectedHost = name
  effects : ∃ es ds, t.effects = xs ++ es ∧ u.effects = ys ++ ds ∧
    List.Forall₂ (Effect.Resembles name) es ds

variable {site} {t} {u t' u' : Turn} {name : Option String} {xs ys : List Effect}

namespace Abreast

lemma phase (h : Abreast name xs ys t u) :
    u.conn.phase = t.conn.phase ∨ t.conn.phase = .closed ∧ u.conn.phase = .waitCer :=
  h.conn ▸ t.conn.phase_waited

lemma sameName (h : Abreast name xs ys t u) :
    SameName name t.conn.peerHost? u.conn.peerHost? :=
  h.conn ▸ h.expected ▸ t.conn.sameName_waited

lemma adjust (h : Abreast name xs ys t u) {c d : Connection} (hd : d = c.waited)
    (he : c.expectedHost = t.conn.expectedHost) :
    Abreast name xs ys { t with conn := c } { u with conn := d } where
  now := h.now
  serial := h.serial
  ids := h.ids
  conn := hd
  expected := he.trans h.expected
  effects := h.effects

lemma append (h : Abreast name xs ys t u) {es ds : List Effect}
    (he : List.Forall₂ (Effect.Resembles name) es ds) :
    Abreast name xs ys { t with effects := t.effects ++ es }
      { u with effects := u.effects ++ ds } where
  now := h.now
  serial := h.serial
  ids := h.ids
  conn := h.conn
  expected := h.expected
  effects := by
    obtain ⟨as, bs, ha, hb, hr⟩ := h.effects
    refine ⟨as ++ es, bs ++ ds, ?_, ?_, List.rel_append hr he⟩
    · simp only [ha, List.append_assoc]
    · simp only [hb, List.append_assoc]

lemma emit (h : Abreast name xs ys t u) {e d : Effect} (he : e.Resembles name d) :
    Abreast name xs ys (t.emit e) (u.emit d) :=
  h.append (.cons he .nil)

lemma report (h : Abreast name xs ys t u) (f : Failure) :
    Abreast name xs ys (t.report f) (u.report f) :=
  h.emit (.failure h.sameName f)

lemma disarm (h : Abreast name xs ys t u) (slot : AlarmSlot) :
    Abreast name xs ys (t.disarm slot) (u.disarm slot) :=
  h.adjust (by rw [h.conn]; rfl) rfl

lemma teardown (h : Abreast name xs ys t u) :
    Abreast name xs ys (t.teardown site) (u.teardown site) := by
  have hs : u.conn.shape.releases = t.conn.shape.releases := by rw [h.conn]; rfl
  have hp : u.conn.pending = t.conn.pending := by rw [h.conn]; rfl
  have hw : u.conn.stoppers = t.conn.stoppers := by rw [h.conn]; rfl
  rw [teardown_eq, teardown_eq, hs, hp, hw]
  have ht : u.conn.torn = t.conn.torn.waited := by rw [h.conn]; rfl
  exact (h.adjust ht rfl).append (List.forall₂_same.mpr fun e _ => .same e)

lemma transition (h : Abreast name xs ys t u) {p : Phase} (hc : p ≠ .closed) (hw : p ≠ .waitCer) :
    Abreast name xs ys (t.transition site p) (u.transition site p) := by
  have hp : u.conn.phase = p ↔ t.conn.phase = p := h.conn ▸ Connection.phase_waited_eq_iff hc hw
  by_cases hq : t.conn.phase = p
  · rw [transition_of_phase site t hq, transition_of_phase site u (hp.mpr hq)]
    exact h
  · rw [Turn.transition, Turn.transition, if_neg hq, if_neg (mt hp.mp hq)]
    have hs : Abreast name xs ys { t with conn.phase := p } { u with conn.phase := p } :=
      h.adjust (by simp [h.conn, Connection.waited, hc]) rfl
    have hn := (hs.emit (.phase h.sameName h.phase p)).emit (.same (.showPhase p))
    cases p with
    | closing => exact (hn.disarm .idle).disarm .reply
    | shutdown => exact hn.teardown
    | _ => exact hn

lemma giveUp (h : Abreast name xs ys t u) (f : Failure) :
    Abreast name xs ys (t.giveUp site f) (u.giveUp site f) :=
  (h.report f).transition (by decide) (by decide)

lemma armIdle (h : Abreast name xs ys t u) :
    Abreast name xs ys (t.armIdle site) (u.armIdle site) :=
  h.adjust (by simp only [h.conn, h.now, h.serial]; rfl) rfl

lemma openAs (h : Abreast name xs ys t u) (peer : PeerIdentity) :
    Abreast name xs ys (t.openAs site peer .rOpen) (u.openAs site peer .rOpen) := by
  have hb : Abreast name xs ys
      { t with conn.identity := some peer, conn.failures := 0, conn.outstanding := none }
      { u with conn.identity := some peer, conn.failures := 0, conn.outstanding := none } :=
    h.adjust (by rw [h.conn]; rfl) rfl
  exact ((hb.emit (.same (.showPeer peer))).transition (by decide) (by decide)).armIdle

lemma settle (h : Abreast name xs ys t u) {g : Goal}
    (hg : (∃ peer, g = .accept peer) ∨ ∃ f, g = .reject f) (m : Message)
    (result : Option Failure) :
    Abreast name xs ys (t.settle site g m result) (u.settle site g m result) := by
  rcases hg with ⟨peer, rfl⟩ | ⟨f, rfl⟩
  · cases result with
    | some w => exact h.giveUp w
    | none => exact h.openAs peer
  · cases result with
    | some w => exact (h.giveUp w).giveUp f
    | none => exact h.giveUp f

lemma write (h : Abreast name xs ys t u) {g : Goal}
    (hg : (∃ peer, g = .accept peer) ∨ ∃ f, g = .reject f) (side : Side) (m : Message) :
    Abreast name xs ys (t.write site side m g) (u.write site side m g) := by
  have hl : u.conn.link? side = t.conn.link? side := by
    rw [h.conn]
    cases side <;> rfl
  unfold Turn.write
  rw [hl]
  split
  · exact h.settle hg m _
  · rename_i link _
    unfold writeOn
    split
    · exact h.settle hg m _
    · exact h.adjust (by rw [h.conn, h.now]; rfl) rfl

end Abreast

lemma judge_eq {cer : Message}
    (h : t.conn.expectedHost = none ∨ t.conn.expectedHost = cer.originHost?) :
    t.judge site cer = site.node.answerCer cer := by
  unfold judge
  split
  · rename_i ha
    exact ha.symm
  · rename_i peer cea ha
    have hx : t.conn.expects peer.host := by
      rw [Connection.expects]
      rcases h with h | h
      · rw [h]
        rfl
      · rw [h, Node.originHost?_of_answerCer ha]
        simp [Identity.same]
    rw [if_pos hx, ha]

/-- **A CER is answered alike** whether it was at hand or has been waited for. -/
theorem Abreast.answerFirstCer {cer : Message} (h : Abreast cer.originHost? xs ys t u) :
    Abreast cer.originHost? xs ys (t.answerFirstCer site cer) (u.answerFirstCer site cer) := by
  have hu : u.conn.expectedHost = none := by rw [h.conn]; rfl
  unfold Turn.answerFirstCer
  rw [judge_eq (.inr h.expected), judge_eq (.inl hu)]
  split
  · exact h.write (.inl ⟨_, rfl⟩) .responder _
  · exact h.write (.inr ⟨_, rfl⟩) .responder _

end Turn

end Diameter
