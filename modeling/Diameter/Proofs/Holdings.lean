import Diameter.Proofs.Links
import Diameter.Proofs.EventHandling

/-!
What a connection holds, and how it lets go of it.

A connection holds streams, a dial, and whoever waits for its shutdown. Handlers are made of moves
that take and let go of these only in view of the world (`Turn.Openly`), so that what is held
before and after a turn balances with the effects of the turn (`Turn.Balanced`). Main statement:
`Connection.Run.balanced`.
-/

namespace Diameter

/-- The stream that is being turned away. -/
def Connection.stray? (c : Connection) : Option Link :=
  match c.writing with
  | some ⟨_, _, .turnAway link _, _⟩ => some link
  | _ => none

/-- Every stream that is attached. -/
def Connection.links (c : Connection) : List Link :=
  c.initiator.toList ++ c.responder.toList ++ c.stray?.toList

/-- What a connection holds, and its phase. -/
structure Holdings where
  phase : Phase
  dialing : Bool
  initiator : Option Link
  responder : Option Link
  stray : Option Link
  stoppers : List Nat

def Connection.holdings (c : Connection) : Holdings where
  phase := c.phase
  dialing := c.dialing
  initiator := c.initiator
  responder := c.responder
  stray := c.stray?
  stoppers := c.stoppers

/-- What a connection holds once it is notified of an event: the dial is over whose outcome is
told, and one more waits for the shutdown who asks for it. -/
def Connection.notified (c : Connection) : Event → Connection
  | .dialed _ | .dialFailed _ => { c with dialing := false }
  | .stop waiter _ => { c with stoppers := c.stoppers ++ [waiter] }
  | _ => c

/-- There is room for the streams and the dial that an event may bring. -/
structure Connection.Vacant (c : Connection) : Prop where
  closed : c.phase = .closed → c.responder = none ∧ c.dialing = false
  initiator : c.phase = .waitConnAck ∨ c.phase = .waitConnAckElect → c.initiator = none
  responder : c.phase = .waitConnAck ∨ c.phase = .waitICea → c.responder = none

lemma Shape.Fits.vacant {c : Connection} (h : c.shape.Fits) : c.Vacant where
  closed hp := by
    have hl := h.links
    rw [show c.shape.phase = .closed from hp] at hl
    exact hl.2
  initiator hp := by
    have hl := h.links
    rcases hp with hp | hp <;> rw [show c.shape.phase = _ from hp] at hl <;> exact hl.1
  responder hp := by
    have hl := h.links
    rcases hp with hp | hp <;> rw [show c.shape.phase = _ from hp] at hl <;> exact hl.2.1

namespace Effect

/-- The effect has to do with what a connection holds. -/
def isHolding : Effect → Bool
  | .showPhase _ | .release _ | .dial | .abandonDial | .listen _ | .hangUp _ => true
  | _ => false

def listened? : Effect → Option Link
  | .listen link => some link
  | _ => none

def hungUp? : Effect → Option Link
  | .hangUp link => some link
  | _ => none

def released? : Effect → Option Nat
  | .release waiter => some waiter
  | _ => none

def isAbandonDial : Effect → Bool
  | .abandonDial => true
  | _ => false

end Effect

/-- The write is not that of an answer on a stream that is turned away. -/
def Goal.IsKept : Goal → Prop
  | .turnAway _ _ => False
  | _ => True

/-- Nobody is released before the shutdown is shown. -/
def Effect.Late (es : List Effect) : Prop :=
  ∀ as j ds, es = as ++ .release j :: ds → .showPhase .shutdown ∈ as

namespace Effect.Late

variable {es ds : List Effect}

lemma append (h : Late es) (hd : ∀ e ∈ ds, e.released? = none) : Late (es ++ ds) := by
  intro as j rs hl
  rcases List.append_eq_append_iff.mp hl with ⟨us, rfl, hu⟩ | ⟨us, rfl, hu⟩
  · have hm : Effect.release j ∈ ds := by
      rw [hu]
      simp
    exact absurd (hd _ hm) (by simp [released?])
  · cases us with
    | nil =>
      have hm : Effect.release j ∈ ds := by
        rw [← show Effect.release j :: rs = ds from hu]
        simp
      exact absurd (hd _ hm) (by simp [released?])
    | cons u us =>
      obtain ⟨rfl, rfl⟩ := List.cons_eq_cons.mp hu
      exact h as j us rfl

lemma append_shown (h : Late es) (hd : ∀ e ∈ ds, e.released? = none)
    (hs : .showPhase .shutdown ∈ es ++ ds) (js : List Nat) :
    Late (es ++ ds ++ js.map .release) := by
  intro as j rs hl
  rcases List.append_eq_append_iff.mp hl with ⟨us, rfl, -⟩ | ⟨us, hu, hr⟩
  · exact List.mem_append_left _ hs
  · cases us with
    | nil =>
      rw [List.append_nil] at hu
      exact hu ▸ hs
    | cons u us =>
      obtain ⟨rfl, rfl⟩ := List.cons_eq_cons.mp hr
      exact h.append hd as j us hu

end Effect.Late

lemma Shape.filterMap_releases (s : Shape) :
    s.releases.filterMap Effect.listened? = [] ∧
      s.releases.filterMap Effect.hungUp? = s.initiator.toList ++ s.responder.toList ∧
      s.releases.countP Effect.isDial = 0 ∧
      s.releases.countP Effect.isAbandonDial = s.dialing.toNat := by
  cases hd : s.dialing <;> cases hi : s.initiator <;> cases hr : s.responder <;>
    simp only [releases, hd, hi, hr] <;> exact ⟨rfl, rfl, rfl, rfl⟩

namespace Turn

/-- Attaches a stream on a side. -/
def take (side : Side) (stream : Nat) (t : Turn) : Turn :=
  match side with
  | .initiator => { (t.attach stream).2 with conn.initiator := some (t.attach stream).1 }
  | .responder => { (t.attach stream).2 with conn.responder := some (t.attach stream).1 }

/-- Moves lead from one turn to another that take and let go of streams, of the dial and of those
who wait for the shutdown only in view of the world. -/
inductive Openly (site : Site) (t : Turn) : Turn → Prop
  | refl : Openly site t t
  | adjust {u v : Turn} (h : Openly site t u) (he : v.effects = u.effects)
    (hh : v.conn.holdings = u.conn.holdings) : Openly site t v
  | emit {u : Turn} (h : Openly site t u) {e : Effect} (he : e.isHolding = false) :
    Openly site t (u.emit e)
  | take {u : Turn} (h : Openly site t u) (side : Side) (hn : u.conn.link? side = none)
    (stream : Nat) : Openly site t (u.take side stream)
  | dial {u : Turn} (h : Openly site t u) (hd : u.conn.dialing = false) :
    Openly site t ({ u with conn.dialing := true }.emit .dial)
  | hangUp {u : Turn} (h : Openly site t u) (side : Side) : Openly site t (u.hangUp side)
  | transition {u : Turn} (h : Openly site t u) (p : Phase) : Openly site t (u.transition site p)
  | begin {u : Turn} (h : Openly site t u) {w : Writing} (hw : w.goal.IsKept) :
    Openly site t { u with conn.writing := some w }

/-- What was held before and what is held now balances with what the world has seen. -/
structure Balanced (c : Connection) (t : Turn) : Prop where
  links : ∀ link, (t.effects.filterMap Effect.listened?).count link + c.links.count link =
    (t.effects.filterMap Effect.hungUp?).count link + t.conn.links.count link
  dial : t.effects.countP Effect.isDial + c.dialing.toNat =
    t.effects.countP Effect.isAbandonDial + t.conn.dialing.toNat
  stoppers : t.effects.filterMap Effect.released? ++ t.conn.stoppers = c.stoppers
  late : Effect.Late t.effects
  ended : t.conn.phase = .shutdown → t.conn.stoppers = []

variable {site : Site} {c : Connection} {t u : Turn}

/-! ### Each move balances -/

lemma links_eq_of_holdings {c d : Connection} (h : c.holdings = d.holdings) :
    c.links = d.links := by
  have hi : c.initiator = d.initiator := congrArg Holdings.initiator h
  have hr : c.responder = d.responder := congrArg Holdings.responder h
  have hs : c.stray? = d.stray? := congrArg Holdings.stray h
  rw [Connection.links, Connection.links, hi, hr, hs]

lemma holdings_transition (site : Site) (t : Turn) {p : Phase} (hp : p ≠ .shutdown) :
    (t.transition site p).conn.holdings = { t.conn.holdings with phase := p } := by
  by_cases h : t.conn.phase = p
  · rw [transition_of_phase site t h, ← h]
    rfl
  · rw [transition, if_neg h]
    cases p <;> first | exact absurd rfl hp | rfl

lemma holdings_transition_shutdown (site : Site) (h : t.conn.phase ≠ .shutdown) :
    (t.transition site .shutdown).conn.holdings =
      { t.conn.holdings with
        phase := .shutdown, dialing := false, initiator := none, responder := none
        stoppers := [] } := by
  have hs := shape_transition_shutdown site t h
  have hp : (t.transition site .shutdown).conn.stoppers = [] := by
    rw [transition, if_neg h]
    rfl
  simp only [Connection.shape, Shape.fallen, Shape.mk.injEq] at hs
  simp [Connection.holdings, Connection.stray?, hs, hp]

lemma count_links (c : Connection) (link : Link) : c.links.count link =
    c.initiator.toList.count link + c.responder.toList.count link + c.stray?.toList.count link := by
  simp only [Connection.links, List.count_append]

namespace Balanced

lemma append (h : t.Balanced c) (es : List Effect) (ls hs : List Link)
    (he : u.effects = t.effects ++ es) (hls : es.filterMap Effect.listened? = ls)
    (hhs : es.filterMap Effect.hungUp? = hs)
    (hl : ∀ link, ls.count link + t.conn.links.count link =
      hs.count link + u.conn.links.count link)
    (hd : es.countP Effect.isDial + t.conn.dialing.toNat =
      es.countP Effect.isAbandonDial + u.conn.dialing.toNat)
    (hr : ∀ e ∈ es, e.released? = none) (hs : u.conn.stoppers = t.conn.stoppers)
    (ho : u.conn.phase = .shutdown → t.conn.phase = .shutdown) : u.Balanced c where
  links := by
    intro link
    have := h.links link
    have := hl link
    rw [he, List.filterMap_append, List.filterMap_append, List.count_append, List.count_append,
      hls, hhs]
    omega
  dial := by
    have := h.dial
    rw [he, List.countP_append, List.countP_append]
    omega
  stoppers := by
    have hn : es.filterMap Effect.released? = [] := List.filterMap_eq_nil_iff.mpr hr
    rw [he, List.filterMap_append, hn, List.append_nil, hs, h.stoppers]
  late := he ▸ h.late.append hr
  ended hp := hs ▸ h.ended (ho hp)

lemma quiet (h : t.Balanced c) (es : List Effect) (he : u.effects = t.effects ++ es)
    (hn : ∀ e ∈ es, e.isHolding = false ∨ ∃ p, e = .showPhase p)
    (hh : u.conn.holdings = { t.conn.holdings with phase := u.conn.phase })
    (ho : u.conn.phase = .shutdown → t.conn.phase = .shutdown) : u.Balanced c := by
  have none_of : ∀ e ∈ es, e.listened? = none ∧ e.hungUp? = none ∧ e.released? = none ∧
      e.isDial = false ∧ e.isAbandonDial = false := by
    intro e hm
    rcases hn e hm with hi | ⟨p, rfl⟩
    · cases e <;> first | exact ⟨rfl, rfl, rfl, rfl, rfl⟩ | cases hi
    · exact ⟨rfl, rfl, rfl, rfl, rfl⟩
  have hl : u.conn.links = t.conn.links := by
    rw [show t.conn.links = ({ t.conn with phase := u.conn.phase } : Connection).links from rfl]
    exact links_eq_of_holdings hh
  refine h.append es [] [] he (List.filterMap_eq_nil_iff.mpr fun e hm => (none_of e hm).1)
    (List.filterMap_eq_nil_iff.mpr fun e hm => (none_of e hm).2.1) (fun link => by rw [hl]) ?_
    (fun e hm => (none_of e hm).2.2.1) (congrArg Holdings.stoppers hh) ho
  rw [List.countP_eq_zero.mpr fun e hm => by simp [none_of e hm],
    List.countP_eq_zero.mpr fun e hm => by simp [none_of e hm],
    show u.conn.dialing = t.conn.dialing from congrArg Holdings.dialing hh]

lemma adjust (h : t.Balanced c) (he : u.effects = t.effects)
    (hh : u.conn.holdings = t.conn.holdings) : u.Balanced c := by
  have hp : u.conn.phase = t.conn.phase := congrArg Holdings.phase hh
  exact h.quiet [] (by simp [he]) (by simp) (by rw [hh, hp]; rfl) (hp ▸ id)

lemma of_holdings {d : Connection} (h : t.Balanced c) (hh : c.holdings = d.holdings) :
    t.Balanced d where
  links link := links_eq_of_holdings hh ▸ h.links link
  dial := by
    rw [← show c.dialing = d.dialing from congrArg Holdings.dialing hh]
    exact h.dial
  stoppers := h.stoppers.trans (congrArg Holdings.stoppers hh)
  late := h.late
  ended := h.ended

lemma emit (h : t.Balanced c) {e : Effect} (he : e.isHolding = false) : (t.emit e).Balanced c :=
  h.quiet [e] rfl (by simp [he]) rfl id

lemma hangUp (h : t.Balanced c) (side : Side) : (t.hangUp side).Balanced c := by
  unfold Turn.hangUp
  split
  · exact h
  · rename_i l hl
    cases side with
    | initiator =>
      have hi : t.conn.initiator = some l := hl
      refine h.append [.hangUp l] [] [l] rfl rfl rfl (fun link => ?_) rfl
        (by simp [Effect.released?]) rfl id
      have hu : ({ t.conn with initiator := none } : Connection).links.count link =
        0 + t.conn.responder.toList.count link + t.conn.stray?.toList.count link := count_links _ _
      rw [count_links, hi, conn_emit, hu]
      simp only [List.count_nil, Option.toList_some]
      omega
    | responder =>
      have hi : t.conn.responder = some l := hl
      refine h.append [.hangUp l] [] [l] rfl rfl rfl (fun link => ?_) rfl
        (by simp [Effect.released?]) rfl id
      have hu : ({ t.conn with responder := none } : Connection).links.count link =
        t.conn.initiator.toList.count link + 0 + t.conn.stray?.toList.count link := count_links _ _
      rw [count_links, hi, conn_emit, hu]
      simp only [List.count_nil, Option.toList_some]
      omega

lemma take (h : t.Balanced c) {side : Side} (hn : t.conn.link? side = none) (stream : Nat) :
    (t.take side stream).Balanced c := by
  let l : Link := ⟨t.conn.attached + 1, stream⟩
  cases side with
  | initiator =>
    have hi : t.conn.initiator = none := hn
    refine h.append [.listen l] [l] [] rfl rfl rfl (fun link => ?_) rfl
      (by simp [Effect.released?]) rfl id
    have hu : (t.take .initiator stream).conn.links.count link = [l].count link +
      t.conn.responder.toList.count link + t.conn.stray?.toList.count link := count_links _ _
    rw [count_links, hi, hu]
    simp only [List.count_nil, Option.toList_none]
    omega
  | responder =>
    have hi : t.conn.responder = none := hn
    refine h.append [.listen l] [l] [] rfl rfl rfl (fun link => ?_) rfl
      (by simp [Effect.released?]) rfl id
    have hu : (t.take .responder stream).conn.links.count link =
      t.conn.initiator.toList.count link + [l].count link +
        t.conn.stray?.toList.count link := count_links _ _
    rw [count_links, hi, hu]
    simp only [List.count_nil, Option.toList_none]
    omega

lemma dial_on (h : t.Balanced c) (hd : t.conn.dialing = false) :
    ({ t with conn.dialing := true }.emit .dial).Balanced c :=
  h.append [.dial] [] [] rfl rfl rfl (fun _ => rfl)
    (by simp [hd, Effect.isDial, Effect.isAbandonDial]) (by simp [Effect.released?]) rfl id

lemma release (h : t.Balanced c) (hs : .showPhase .shutdown ∈ t.effects)
    (he : u.effects = t.effects ++ t.conn.stoppers.map .release)
    (hh : u.conn.holdings = { t.conn.holdings with phase := .shutdown, stoppers := [] }) :
    u.Balanced c := by
  have none_of : ∀ {α : Type} {f : Effect → Option α}, (∀ j, f (.release j) = none) →
      (t.conn.stoppers.map Effect.release).filterMap f = [] := by
    intro α f hf
    exact List.filterMap_eq_nil_iff.mpr fun e hm => by
      obtain ⟨j, -, rfl⟩ := List.mem_map.mp hm
      exact hf j
  have hl : u.conn.links = t.conn.links := by
    rw [show t.conn.links =
      ({ t.conn with phase := .shutdown, stoppers := [] } : Connection).links from rfl]
    exact links_eq_of_holdings hh
  constructor
  · -- a release touches no stream
    intro link
    rw [he, List.filterMap_append, List.filterMap_append, none_of fun _ => rfl,
      none_of fun _ => rfl, List.append_nil, List.append_nil, hl]
    exact h.links link
  · -- nor a dial
    rw [he, List.countP_append, List.countP_append, List.countP_map, List.countP_map,
      show u.conn.dialing = t.conn.dialing from congrArg Holdings.dialing hh]
    simpa [Function.comp_def, Effect.isDial, Effect.isAbandonDial] using h.dial
  · -- all who waited are released
    have hr : (t.conn.stoppers.map Effect.release).filterMap Effect.released? =
        t.conn.stoppers := by
      simp [Function.comp_def, Effect.released?]
    rw [he, List.filterMap_append, hr, show u.conn.stoppers = [] from
      congrArg Holdings.stoppers hh, List.append_nil, h.stoppers]
  · -- nobody is released before the phase is shown
    have hn : Effect.Late (t.effects ++ [] ++ t.conn.stoppers.map .release) :=
      h.late.append_shown (by simp) (by simpa using hs) _
    rwa [List.append_nil, ← he] at hn
  · exact fun _ => congrArg Holdings.stoppers hh

/-- The shutdown closes what is open and releases whoever waits for it. -/
lemma fall (h : t.Balanced c) (hp : t.conn.phase ≠ .shutdown) :
    (t.transition site .shutdown).Balanced c := by
  let es := t.shift .shutdown ++ t.conn.shape.releases ++
    (t.conn.pending.drain site.node).map Effect.complete
  -- All is let go before anybody is released.
  let v : Turn :=
    { t with
      effects := t.effects ++ es
      conn.dialing := false
      conn.initiator := none
      conn.responder := none }
  have he : (t.transition site .shutdown).effects = v.effects ++ v.conn.stoppers.map .release := by
    rw [effects_transition_shutdown site t hp]
    simp only [v, es, List.append_assoc]
  have hz : ∀ {α : Type} (as : List α), as.filterMap (fun _ => (none : Option Link)) = [] := by
    simp
  have hr : ∀ e ∈ es, e.released? = none := by
    intro e hm
    simp only [es, shift, List.mem_append, List.mem_cons, List.not_mem_nil, or_false,
      List.mem_map] at hm
    rcases hm with ((rfl | rfl) | hm) | ⟨_, -, rfl⟩
    · -- what is shown
      rfl
    · rfl
    · -- what is let go of the streams and the dial
      rcases Shape.mem_releases hm with rfl | ⟨_, rfl⟩ <;> rfl
    · -- what is completed
      rfl
  obtain ⟨hrl, hrh, hrd, hra⟩ := t.conn.shape.filterMap_releases
  have hv : v.Balanced c := by
    refine h.append es [] (t.conn.initiator.toList ++ t.conn.responder.toList) rfl ?_ ?_ ?_ ?_ hr
      rfl id
    · simp [es, shift, hrl, hz, Effect.listened?, List.filterMap_cons, Function.comp_def]
    · simp [es, shift, hrh, hz, Effect.hungUp?, List.filterMap_cons, Function.comp_def]
      rfl
    · -- the streams it had are hung up, but for one to be turned away
      intro link
      have hu : v.conn.links.count link = 0 + 0 + t.conn.stray?.toList.count link :=
        count_links _ _
      rw [count_links, hu, List.count_append, List.count_nil]
      omega
    · -- a dial under way is abandoned
      simp [es, v, shift, hrd, hra, Effect.isDial, Effect.isAbandonDial, Function.comp_def]
      rfl
  exact hv.release (by simp [v, es, shift]) he (holdings_transition_shutdown site hp)

lemma transition (h : t.Balanced c) (p : Phase) : (t.transition site p).Balanced c := by
  by_cases hp : t.conn.phase = p
  · rw [transition_of_phase site t hp]
    exact h
  · by_cases hs : p = .shutdown
    · subst hs
      exact h.fall hp
    · have hh := holdings_transition site t hs
      have hq : (t.transition site p).conn.phase = p := congrArg Holdings.phase hh
      refine h.quiet _ (effects_transition site t hs hp) ?_ (by rw [hq, hh]) ?_
      · simp [shift, Effect.isHolding]
      · exact fun he => absurd (hq.symm.trans he) hs

end Balanced

namespace Openly

lemma stray? (h : Openly site t u) (ht : t.conn.stray? = none) : u.conn.stray? = none := by
  induction h with
  | refl => exact ht
  | adjust _ _ hh ih => exact (congrArg Holdings.stray hh).trans ih
  | emit _ _ ih | dial _ _ ih => exact ih
  | @take u _ side _ stream ih => cases side <;> exact ih
  | @hangUp u _ side ih =>
    have hw : (u.hangUp side).conn.writing = u.conn.writing := by
      cases side
      · exact congrArg Shape.writing (shape_hangUp_initiator u)
      · exact congrArg Shape.writing (shape_hangUp_responder u)
    rw [Connection.stray?, hw]
    exact ih
  | @transition u _ p ih =>
    rw [Connection.stray?, writing_transition]
    exact ih
  | @begin u _ w hw ih =>
    rcases w with ⟨_, _, g, _⟩
    cases g <;> first | rfl | exact hw.elim

/-- **What is done openly balances.** -/
lemma balanced (h : Openly site t u) (hn : t.conn.stray? = none) (ht : t.Balanced c) :
    u.Balanced c := by
  induction h with
  | refl => exact ht
  | adjust _ he hh ih => exact ih.adjust he hh
  | emit _ he ih => exact ih.emit he
  | take _ side hn stream ih => exact ih.take hn stream
  | dial _ hd ih => exact ih.dial_on hd
  | hangUp _ side ih => exact ih.hangUp side
  | transition _ p ih => exact ih.transition p
  | @begin u hu w hw ih =>
    have hs : ({ u with conn.writing := some w } : Turn).conn.stray? = u.conn.stray? :=
      ((hu.begin hw).stray? hn).trans (hu.stray? hn).symm
    refine ih.adjust rfl ?_
    simp only [Connection.holdings, hs]

/-! ### Writing -/

lemma report (h : Openly site t u) (e : Failure) : Openly site t (u.report e) := h.emit rfl

lemma giveUp (h : Openly site t u) (e : Failure) : Openly site t (u.giveUp site e) :=
  (h.report e).transition _

lemma openAs (h : Openly site t u) (peer : PeerIdentity) (p : Phase) :
    Openly site t (u.openAs site peer p) := by
  have hi : Openly site t { u with conn.identity := some peer } := h.adjust rfl rfl
  have hs : Openly site t (({ u with conn.identity := some peer } : Turn).emit (.showPeer peer)) :=
    hi.emit rfl
  have hf : Openly site t { ({ u with conn.identity := some peer } : Turn).emit (.showPeer peer)
      with conn.failures := 0, conn.outstanding := none } := hs.adjust rfl rfl
  exact (hf.transition p).adjust rfl rfl

lemma elect (h : Openly site t u) : Openly site t (u.elect site) := by
  unfold Turn.elect
  split
  · exact h
  · split
    · exact h.adjust rfl rfl
    · exact h

lemma armIdle (h : Openly site t u) : Openly site t (u.armIdle site) := h.adjust rfl rfl

lemma settle (h : Openly site t u) {g : Goal} (hg : g.IsKept) (m : Message)
    (result : Option Failure) : Openly site t (u.settle site g m result) := by
  cases result with
  | some w =>
    cases g with
    | turnAway => exact hg.elim
    | reject e => exact (h.giveUp w).giveUp e
    | complain e => exact (h.giveUp w).report e
    | _ => exact h.giveUp w
  | none =>
    cases g with
    | turnAway => exact hg.elim
    | reject e => exact h.giveUp e
    | complain e => exact h.report e
    | introduce electing =>
      cases electing with
      | true => exact (Openly.transition h _).elect
      | false => exact Openly.transition h .waitICea
    | accept peer => exact h.openAs peer _
    | farewell => exact (Openly.transition h .closing).transition _
    | request =>
      have hn : Openly site t (u.note (.sent m.header.command m.header.application
        m.header.hopByHop m.header.isRetransmit)) := h.emit rfl
      unfold Turn.settle
      dsimp only
      split
      · exact hn.armIdle
      · exact hn
    | disconnect => exact (Openly.transition h .closing).adjust rfl rfl
    | probe => exact h.adjust rfl rfl
    | answer => exact h

lemma writeOn (h : Openly site t u) (link : Link) (m : Message) {g : Goal} (hg : g.IsKept) :
    Openly site t (u.writeOn site link m g) := by
  rcases writeOn_cases site u link m g with ⟨-, hw⟩ | ⟨e, -, hw⟩
  · rw [hw]
    exact h.begin hg
  · rw [hw]
    exact h.settle hg m _

lemma write (h : Openly site t u) (side : Side) (m : Message) {g : Goal} (hg : g.IsKept) :
    Openly site t (u.write site side m g) := by
  unfold Turn.write
  split
  · exact h.settle hg m _
  · exact h.writeOn _ m hg

/-! ### The handshake -/

lemma openResponder (h : Openly site t u) : Openly site t (u.openResponder site) := by
  have hf : Openly site t { u with conn.cachedCea := none, conn.cachedPeer := none } :=
    h.adjust rfl rfl
  unfold Turn.openResponder
  dsimp only
  split
  · exact hf.write .responder _ trivial
  · exact hf.transition _

lemma dropCandidate (h : Openly site t u) : Openly site t u.dropCandidate :=
  (h.hangUp .responder).adjust rfl rfl

lemma onStart (h : Openly site t u) (hd : u.conn.phase = .closed → u.conn.dialing = false) :
    Openly site t (u.onStart site) := by
  unfold Turn.onStart
  split
  · exact h.report _
  · rename_i hp
    have hn : (u.transition site .waitConnAck).conn.dialing = false :=
      (congrArg Holdings.dialing (holdings_transition site u (by decide))).trans
        (hd (by simpa using hp))
    exact (Openly.transition h _).dial hn

lemma introduce (h : Openly site t u) (hi : u.conn.initiator = none) (stream : Nat)
    (electing : Bool) : Openly site t (u.introduce site stream electing) := by
  have ht : Openly site t (u.take .initiator stream) := h.take .initiator hi stream
  have ha : Openly site t { u.take .initiator stream with ids := (site.node.cer u.ids).2 } :=
    ht.adjust rfl rfl
  exact ha.write .initiator (site.node.cer u.ids).1 (g := .introduce electing) trivial

lemma onAccepted (h : Openly site t u) (hr : u.conn.phase = .closed → u.conn.responder = none)
    (stream : Nat) : Openly site t (u.onAccepted site stream) := by
  unfold Turn.onAccepted
  split
  · exact (h.report _).emit rfl
  · rename_i hp
    have ht : Openly site t (u.take .responder stream) := 
      h.take .responder (hr (by simpa using hp)) stream
    exact ht.transition _

lemma answerFirstCer (h : Openly site t u) (cer : Message) :
    Openly site t (u.answerFirstCer site cer) := by
  unfold Turn.answerFirstCer
  split
  · exact h.write .responder _ trivial
  · exact h.write .responder _ trivial

lemma onWonElection (h : Openly site t u) : Openly site t (u.onWonElection site) := by
  unfold Turn.onWonElection
  split
  · exact h.report _
  · exact (h.hangUp .initiator).openResponder

lemma onCea (h : Openly site t u) (cea : Message) : Openly site t (u.onCea site cea) := by
  unfold Turn.onCea
  split
  · exact h.giveUp _
  · split
    · split
      · exact h.dropCandidate.openAs _ _
      · exact h.openAs _ _
    · exact h.giveUp _

/-! ### Traffic -/

lemma stir (h : Openly site t u) : Openly site t (u.stir site) := by
  unfold Turn.stir
  split
  · exact h.armIdle
  · exact h

lemma complete (h : Openly site t u) (x : Exchange) (d : Completion) (p : Pending) :
    Openly site t (u.complete x d p) := by
  have ha : Openly site t ({ u with conn.pending := p }.disarm (.exchange x.key)) :=
    h.adjust rfl rfl
  exact ha.emit rfl

lemma failExchange (h : Openly site t u) (hopByHop : UInt32) (r : ResultCode) :
    Openly site t (u.failExchange site hopByHop r) := by
  unfold Turn.failExchange
  split
  · exact h
  · exact (h.complete _ _ _).emit rfl

lemma onLateCapabilities (h : Openly site t u) (m : Message) :
    Openly site t (u.onLateCapabilities site m) := by
  have decided : ∀ b : Bool, Openly site t (if b then u.notAcceptable "Rcv-CE"
      else u.giveUp site (.unknownPeer (m.originHost?.getD ""))) := by
    intro b
    split
    · exact h.report _
    · exact h.giveUp _
  exact decided _

lemma onDwa (h : Openly site t u) (m : Message) : Openly site t (u.onDwa site m) := by
  unfold Turn.onDwa
  split
  · exact h
  · dsimp only
    split
    · exact h.adjust rfl rfl
    · exact h.adjust rfl rfl

lemma onDpa (h : Openly site t u) : Openly site t (u.onDpa site) := by
  unfold Turn.onDpa
  split
  · exact h.transition _
  · exact h.report _

lemma onAnswer (h : Openly site t u) (m : Message) : Openly site t (u.onAnswer m) := by
  unfold Turn.onAnswer
  split
  · exact h.report _
  · exact (h.complete _ _ _).emit rfl

lemma onPeerMessage (h : Openly site t u) (side : Side) (link : Nat) (m : Message) :
    Openly site t (u.onPeerMessage site side link m) := by
  have hs := h.stir
  rw [onPeerMessage_eq]
  split
  · split
    · exact hs.write side _ trivial
    · exact hs.onDwa m
  · split
    · split
      · exact hs.write side _ trivial
      · exact hs.onDpa
    · split
      · exact hs.emit rfl
      · exact hs.onAnswer m

lemma onOpenMessage (h : Openly site t u) (side : Side) (link : Nat) (m : Message) :
    Openly site t (u.onOpenMessage site side link m) := by
  unfold Turn.onOpenMessage
  split
  · split
    · exact h.write side _ trivial
    · exact h.report _
  · split
    · exact h.onLateCapabilities m
    · split
      · dsimp only
        split
        · exact h.write side _ trivial
        · exact (h.failExchange _ _).report _
      · exact h.onPeerMessage side link m

lemma onReceived (h : Openly site t u) (side : Side) (link : Nat) (m : Message) :
    Openly site t (u.onReceived site side link m) := by
  have hc : Openly site t (if side = .initiator && m.isCea then u.onCea site m
      else u.notAcceptable "Rcv-Message") := by
    split
    · exact h.onCea m
    · exact h.report _
  have ho : Openly site t (if u.conn.activeSide? = some side then u.onOpenMessage site side link m
      else u.notAcceptable "Rcv-Message") := by
    split
    · exact h.onOpenMessage side link m
    · exact h.report _
  unfold Turn.onReceived
  split
  · split
    · exact h.answerFirstCer m
    · exact (h.report _).transition _
  all_goals first | exact hc | exact ho | exact h.report _

lemma onReceivedInvalid (h : Openly site t u) (side : Side) (k : Header) (e : Failure) :
    Openly site t (u.onReceivedInvalid site side k e) := by
  have hf : Openly site t (if u.conn.activeSide? = some side then
      u.failExchange site k.hopByHop e.resultCode else u) := by
    split
    · exact h.failExchange _ _
    · exact h
  unfold Turn.onReceivedInvalid
  dsimp only
  split
  · split
    · exact h.write side _ trivial
    · split
      · exact h.write side _ trivial
      · exact h.report _
  · split
    · exact (hf.report e).transition _
    · exact hf.report e

lemma onDisconnected (h : Openly site t u) (side : Side) (e : Failure) :
    Openly site t (u.onDisconnected site side e) := by
  unfold Turn.onDisconnected
  split
  · exact (h.hangUp .initiator).openResponder
  · exact Openly.transition h.dropCandidate _
  · exact Openly.transition h.dropCandidate _
  · exact h.transition _
  · exact h.giveUp _

/-! ### Upkeep -/

lemma onSend (h : Openly site t u) (waiter : Nat) (request : Message) :
    Openly site t (u.onSend site waiter request) := by
  have he : Openly site t (u.enter site waiter request) := by
    let x := Exchange.ofRequest waiter request u.now
    let v : Turn := { u with
      conn.pending := (u.conn.pending.insert x).2
      conn.alarms := u.conn.alarms.arm (.exchange x.key) (u.now + site.settings.sendTimeout)
        u.serial (.exchangeTimeout x.key) }
    have hv : Openly site t v := h.adjust rfl rfl
    unfold Turn.enter
    dsimp only
    split
    · -- a request with this identifier is displaced
      exact hv.emit rfl
    · exact hv
  unfold Turn.onSend
  split
  · split
    · exact he.write _ request (g := .request) trivial
    · exact h.emit rfl
  · exact h.emit rfl

lemma onHandled (h : Openly site t u) (link : Nat) (answer : Message) :
    Openly site t (u.onHandled site link answer) := by
  unfold Turn.onHandled
  split
  · split
    · exact h.write _ answer trivial
    · exact h
  · exact h

lemma onExchangeTimeout (h : Openly site t u) (hopByHop : UInt32) :
    Openly site t (u.onExchangeTimeout site hopByHop) := by
  unfold Turn.onExchangeTimeout
  split
  · exact h
  · exact (h.complete _ _ _).emit rfl

lemma disconnect (h : Openly site t u) (side : Side) (cause : DisconnectCause) :
    Openly site t (u.disconnect site side cause) := by
  have hi : Openly site t { u with ids := (site.node.dpr cause u.ids).2 } := h.adjust rfl rfl
  exact hi.write side _ trivial

lemma onCloseTimeout (h : Openly site t u) : Openly site t (u.onCloseTimeout site) := by
  unfold Turn.onCloseTimeout
  split
  · exact h.transition _
  · exact h

lemma onWatchdogIdle (h : Openly site t u) (generation : Nat) :
    Openly site t (u.onWatchdogIdle site generation) := by
  unfold Turn.onWatchdogIdle
  split
  · split
    · exact h
    · have hi : Openly site t { u with ids := (site.node.dwr u.ids).2 } := h.adjust rfl rfl
      exact hi.write _ _ trivial
  · exact h

lemma onWatchdogReply (h : Openly site t u) (hopByHop : UInt32) :
    Openly site t (u.onWatchdogReply site hopByHop) := by
  unfold Turn.onWatchdogReply
  split
  · exact h
  · have hm : Openly site t
        { u with conn.outstanding := none, conn.failures := u.conn.failures + 1 } :=
      h.adjust rfl rfl
    dsimp only
    split
    · exact hm.giveUp _
    · exact hm.armIdle

end Openly

/-! ### A second stream -/

namespace Balanced

/-- A stream that is turned away is held until the answer on it is over. -/
lemma electIncoming (h : t.Balanced c) (hn : t.conn.stray? = none)
    (hr : t.conn.responder = none) (stream : Nat) (cer : Message) :
    (t.electIncoming site stream cer).Balanced c := by
  cases hj : (t.attach stream).2.judge site cer with
  -- the stream stands for election
  | accept peer cea =>
    have ha : Openly site t { t.take .responder stream with
        conn.cachedCea := some cea, conn.cachedPeer := some peer } :=
      (Openly.refl.take .responder hr stream).adjust rfl rfl
    have ho : Openly site t (t.electIncoming site stream cer) := by
      simp only [Turn.electIncoming, hj]
      split
      · exact ha.transition _
      · exact (Openly.transition ha _).elect
    exact ho.balanced hn h
  -- the stream is turned away
  | reject e cea =>
    let l : Link := ⟨t.conn.attached + 1, stream⟩
    let w : Writing := ⟨l, cea, .turnAway l e, t.now + site.settings.sendTimeout⟩
    have he : t.electIncoming site stream cer =
        (t.attach stream).2.writeOn site l cea (.turnAway l e) := by
      simp only [Turn.electIncoming, hj]
      rfl
    rw [he]
    rcases writeOn_cases site (t.attach stream).2 l cea (.turnAway l e) with ⟨-, hw⟩ | ⟨f, -, hw⟩
    · -- the answer is written, and the stream is a stray one for that time
      rw [hw]
      refine h.append [.listen l] [l] [] rfl rfl rfl (fun link => ?_) rfl
        (by simp [Effect.released?]) rfl id
      let v : Connection := { (t.attach stream).2.conn with writing := some w }
      have hv : v.links.count link = t.conn.initiator.toList.count link +
          t.conn.responder.toList.count link + [l].count link := count_links _ _
      calc [l].count link + t.conn.links.count link
          = v.links.count link := by
            rw [hv, count_links, hn, Option.toList_none, List.count_nil]
            omega
        _ = [].count link + _ := by
            rw [List.count_nil, Nat.zero_add]
            rfl
    · -- the answer does not fit, and the stream is hung up at once
      rw [hw]
      refine h.append [.listen l, .note (.failure t.conn.peerHost? e), .hangUp l] [l] [l] ?_ rfl rfl
        (fun _ => rfl) rfl (by simp [Effect.released?]) rfl id
      calc ((t.attach stream).2.settle site (.turnAway l e) cea (some f)).effects
          = t.effects ++ [.listen l] ++ [.note (.failure t.conn.peerHost? e)] ++ [.hangUp l] := rfl
        _ = _ := by simp

end Balanced

/-! ### Events and the ends of writes -/

lemma Balanced.begin (he : t.effects = []) (hp : t.conn.phase = .shutdown → t.conn.stoppers = []) :
    t.Balanced t.conn where
  links link := by simp [he]
  dial := by simp [he]
  stoppers := by simp [he]
  late as j ds hl := by simp [he] at hl
  ended := hp

variable (hv : t.conn.Vacant) (hn : t.conn.stray? = none) (he : t.effects = [])
  (hp : t.conn.phase ≠ .shutdown)

include hv hn he hp

lemma onDialed_balanced (stream : Nat) :
    (t.onDialed site stream).Balanced { t.conn with dialing := false } := by
  let v : Turn := { t with conn.dialing := false }
  have hr : Openly site v v := .refl
  have hb : v.Balanced v.conn := .begin he fun hq => absurd hq hp
  have ho : Openly site v (t.onDialed site stream) := by
    unfold onDialed
    dsimp only
    split
    · exact hr.introduce (hv.initiator (.inl ‹_›)) stream false
    · exact hr.introduce (hv.initiator (.inr ‹_›)) stream true
    · exact (hr.report _).emit rfl
  exact ho.balanced hn hb

omit hv in
lemma onDialFailed_balanced (text : String) :
    (t.onDialFailed site text).Balanced { t.conn with dialing := false } := by
  let v : Turn := { t with conn.dialing := false }
  have hr : Openly site v v := .refl
  have hb : v.Balanced v.conn := .begin he fun hq => absurd hq hp
  have ho : Openly site v (t.onDialFailed site text) := by
    unfold onDialFailed
    dsimp only
    split
    · exact hr.giveUp _
    · exact (hr.report _).openResponder
    · exact hr.report _
  exact ho.balanced hn hb

lemma onAcceptedCer_balanced (stream : Nat) (cer : Message) :
    (t.onAcceptedCer site stream cer).Balanced t.conn := by
  have hb : t.Balanced t.conn := .begin he fun hq => absurd hq hp
  unfold onAcceptedCer
  split
  · have ho : Openly site t ((t.take .responder stream).answerFirstCer site cer) :=
      (Openly.refl.take .responder (hv.closed ‹_›).1 stream).answerFirstCer cer
    exact ho.balanced hn hb
  · exact hb.electIncoming hn (hv.responder (.inl ‹_›)) stream cer
  · exact hb.electIncoming hn (hv.responder (.inr ‹_›)) stream cer
  · exact hb.emit rfl

omit hv in
lemma onStop_balanced (waiter : Nat) (cause : DisconnectCause) :
    (t.onStop site waiter cause).Balanced
      { t.conn with stoppers := t.conn.stoppers ++ [waiter] } := by
  let v : Turn := { t with conn.stoppers := t.conn.stoppers ++ [waiter] }
  have hr : Openly site v v := .refl
  have hb : v.Balanced v.conn := .begin he fun hq => absurd hq hp
  have ho : Openly site v (t.onStop site waiter cause) := by
    unfold onStop
    dsimp only
    split
    · exact hr.disconnect .responder cause
    · exact hr.disconnect .initiator cause
    · exact hr
    · exact hr.transition _
  exact ho.balanced hn hb

/-- **An event that is handled balances.** -/
theorem handle_balanced (e : Event) : (t.handle site e).Balanced (t.conn.notified e) := by
  have plain : ∀ {u : Turn}, Openly site t u → u.Balanced t.conn :=
    fun ho => ho.balanced hn (.begin he fun hq => absurd hq hp)
  cases e with
  | start => exact plain (Openly.refl.onStart fun hc => (hv.closed hc).2)
  | dialed stream => exact onDialed_balanced hv hn he hp stream
  | dialFailed text => exact onDialFailed_balanced hn he hp text
  | accepted stream => exact plain (Openly.refl.onAccepted (fun hc => (hv.closed hc).1) stream)
  | acceptedCer stream cer => exact onAcceptedCer_balanced hv hn he hp stream cer
  | received link m =>
    refine plain ?_
    unfold handle
    dsimp only
    split
    · exact Openly.refl.onReceived _ link m
    · exact .refl
  | receivedInvalid link k e =>
    refine plain ?_
    unfold handle
    dsimp only
    split
    · exact Openly.refl.onReceivedInvalid _ k e
    · exact .refl
  | disconnected link e =>
    refine plain ?_
    unfold handle
    dsimp only
    split
    · exact Openly.refl.onDisconnected _ e
    · exact .refl
  | wonElection => exact plain Openly.refl.onWonElection
  | send waiter request => exact plain (Openly.refl.onSend waiter request)
  | handled link answer => exact plain (Openly.refl.onHandled link answer)
  | stop waiter cause => exact onStop_balanced hn he hp waiter cause
  | watchdogIdle generation => exact plain (Openly.refl.onWatchdogIdle generation)
  | watchdogReply hopByHop => exact plain (Openly.refl.onWatchdogReply hopByHop)
  | exchangeTimeout hopByHop => exact plain (Openly.refl.onExchangeTimeout hopByHop)
  | closeTimeout => exact plain Openly.refl.onCloseTimeout

omit hv hn hp

lemma settle_balanced {w : Writing} (hw : c.writing = some w)
    (hc : t.conn = { c with writing := none }) (ho : c.phase = .shutdown → c.stoppers = [])
    (result : Option Failure) : (t.settle site w.goal w.message result).Balanced c := by
  have hb : t.Balanced t.conn := .begin he (by rw [hc]; exact ho)
  have hn : t.conn.stray? = none := by rw [hc]; rfl
  rcases w with ⟨link, m, g, d⟩
  by_cases hg : g.IsKept
  · -- no stray stream was there, and none comes
    have hs : c.stray? = none := by
      rw [Connection.stray?, hw]
      cases g <;> first | rfl | exact hg.elim
    have hk : t.conn.holdings = c.holdings := by
      rw [Connection.holdings, Connection.holdings, hn, hs, hc]
    have hu : Openly site t (t.settle site g m result) := Openly.refl.settle hg m result
    exact (hu.balanced hn hb).of_holdings hk
  · -- the stray stream is hung up, as its answer is out or has failed
    obtain ⟨k, e, rfl⟩ : ∃ k e, g = .turnAway k e := by
      cases g <;> first | exact ⟨_, _, rfl⟩ | exact absurd trivial hg
    have hs : c.stray? = some k := by rw [Connection.stray?, hw]
    have hu : t.settle site (.turnAway k e) m result = (t.report e).emit (.hangUp k) := rfl
    have hes : ((t.report e).emit (.hangUp k)).effects =
        [.note (.failure t.conn.peerHost? e), .hangUp k] := by
      simp [report, note, emit, he]
    rw [hu]
    constructor
    · intro l
      have hl : ((t.report e).emit (.hangUp k)).conn.links.count l = _ := count_links t.conn l
      rw [hes, hl, count_links c, hs, hn, hc]
      simp only [List.filterMap_cons, Effect.listened?, Effect.hungUp?, List.filterMap_nil,
        List.count_nil, Option.toList_none, Option.toList_some]
      omega
    · rw [hes, conn_emit, conn_report, hc]
      rfl
    · rw [hes, conn_emit, conn_report, hc]
      rfl
    · have hr : (t.report e).Balanced t.conn := hb.emit rfl
      exact hr.late.append (by simp [Effect.released?])
    · exact hb.ended

end Turn

/-! ### Runs -/

/-- Who asks with an input for the shutdown, and waits for it. -/
def Input.stopper? : Input → Option Nat
  | .event (.stop waiter _) => some waiter
  | _ => none

/-- The outcome of the dial that the connection waits for. -/
def Beat.isOutcome (b : Beat) : Bool := b.input.isReport && b.conn.dialing

/-- What a connection holds once it is notified of what it was given. -/
def Beat.notified (b : Beat) : Connection :=
  match b.input with
  | .event e => b.conn.notified e
  | .written _ => b.conn

/-- What was taken along a run, and what of it is still held. -/
structure Accounts (site : Site) (bs : List Beat) (c : Connection) : Prop where
  /-- Every stream that is read from is still attached, or has been closed. -/
  links : ∀ link, ((Beat.effectsOf site bs).filterMap Effect.listened?).count link =
    ((Beat.effectsOf site bs).filterMap Effect.hungUp?).count link + c.links.count link
  /-- Every dial is waited for, or has had an outcome, or was abandoned. -/
  dial : (Beat.effectsOf site bs).countP Effect.isDial =
    (Beat.effectsOf site bs).countP Effect.isAbandonDial + bs.countP Beat.isOutcome +
      c.dialing.toNat
  /-- Whoever has asked for the shutdown still waits for it, or was released, first things first. -/
  stoppers : (Beat.effectsOf site bs).filterMap Effect.released? ++ c.stoppers =
    bs.filterMap (·.input.stopper?)
  ended : c.phase = .shutdown → c.stoppers = []

variable {site : Site} {expected : Option String} {first : Event} {bs : List Beat} {b : Beat}
  {c : Connection}

variable (site) in
/-- **A turn balances.** -/
theorem Beat.balanced {n : Nat} {s : Stage} (hc : b.conn.shape = s.shape expected n)
    (ht : b.conn.Takes b.input) (ho : b.conn.phase = .shutdown → b.conn.stoppers = []) :
    (b.turn site).Balanced b.notified := by
  have hd : b.begun.effects = [] := rfl
  cases hi : b.input with
  | written result =>
    have hn : b.notified = b.conn := by rw [notified, hi]
    rw [hi] at ht
    cases ht with
    | @written w hw _ =>
      have hb : b.begun.conn = b.conn := by
        rw [begun, hi]
        rfl
      rw [hn, turn_written hi hw]
      refine Turn.settle_balanced (t := { b.begun with conn.writing := none }) hd hw ?_ ho result
      exact congrArg (fun c : Connection => { c with writing := none }) hb
  | event e =>
    have hb := conn_begun hi
    have hw := writing_begun_of_event ht hi
    have hn : b.begun.conn.stray? = none := by rw [Connection.stray?, hw]
    have hsw : (s.shape expected n).writing = none := by
      rw [← hc]
      exact b.writing_begun.symm.trans hw
    have hv : b.begun.conn.Vacant := by
      rw [hb]
      exact ⟨(hc ▸ Stage.fits hsw).vacant.closed, (hc ▸ Stage.fits hsw).vacant.initiator,
        (hc ▸ Stage.fits hsw).vacant.responder⟩
    have hp : b.begun.conn.phase ≠ .shutdown := by
      rw [hi] at ht
      rw [hb]
      cases ht with
      | internal ha _ | queued ha _ => exact ha.1
    have hk : (b.begun.conn.notified e).holdings = b.notified.holdings := by
      rw [notified, hi, hb]
      cases e <;> rfl
    rw [turn_event hi]
    exact (Turn.handle_balanced hv hn hd hp e).of_holdings hk

lemma Beat.holds_notified (b : Beat) :
    b.notified.links = b.conn.links ∧
      b.conn.dialing.toNat = b.notified.dialing.toNat + b.isOutcome.toNat ∧
      b.notified.stoppers = b.conn.stoppers ++ b.input.stopper?.toList := by
  unfold notified isOutcome
  rcases b.input with e | r
  · cases e <;> simp [Connection.notified, Input.stopper?, Input.isReport, Event.isReport,
      Connection.links, Connection.stray?]
  · simp [Input.stopper?, Input.isReport]

/-- **What a connection has taken it holds, or has let go of.** -/
theorem Connection.Run.accounts (h : Run site (fresh expected first) bs c)
    (hf : first.IsOpening) : Accounts site bs c := by
  induction h with
  | nil => exact ⟨fun _ => rfl, rfl, rfl, fun _ => rfl⟩
  | ring _ _ ih => exact ⟨ih.links, ih.dial, ih.stoppers, ih.ended⟩
  | @turn bs b h ht ih =>
    obtain ⟨n, s, -, hc⟩ := h.course hf
    obtain ⟨hl, hd, hs⟩ := b.holds_notified
    have hb := Beat.balanced site hc ht ih.ended
    refine ⟨fun link => ?_, ?_, ?_, hb.ended⟩
    · -- link by link, what was listened to before and what was in this turn
      have := ih.links link
      have := hb.links link
      rw [hl] at this
      rw [Beat.effectsOf_append, Beat.effectsOf_singleton, List.filterMap_append,
        List.filterMap_append, List.count_append, List.count_append]
      omega
    · -- an outcome reported from outside ends one dial
      have := ih.dial
      have := hb.dial
      rw [Beat.effectsOf_append, Beat.effectsOf_singleton, List.countP_append, List.countP_append,
        List.countP_append, List.countP_singleton]
      cases ho : b.isOutcome <;> simp [ho] at hd ⊢ <;> omega
    · -- those released before, those released now and those still waiting
      have hr := hb.stoppers
      rw [Beat.effectsOf_append, Beat.effectsOf_singleton, List.filterMap_append,
        List.filterMap_append, List.append_assoc, hr, hs, ← List.append_assoc, ih.stoppers]
      cases hi : b.input.stopper? <;> simp [hi]

end Diameter
