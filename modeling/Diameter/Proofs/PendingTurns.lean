import Mathlib.Data.List.Basic
import Diameter.Proofs.RequestOutcome
import Diameter.Proofs.Run

/-!
What a turn does for those who wait for answers.

The ledger of a turn is what waiters get of it, and what is noted of requests. `Trade` lists
everything that a turn may do to the table of pending requests, each time with the ledger. Main
statement: `Connection.Takes.trades`.
-/

namespace Diameter

/-- What a waiter gets, or that it gets nothing, and notes of requests. -/
def Effect.isLedger : Effect → Bool
  | .complete _ | .abandon _ => true
  | .note (.sent ..) | .note (.answered ..) | .note (.timedOut ..) => true
  | _ => false

/-- What waiters get of a turn, and what is noted of requests. -/
def Turn.ledger (t : Turn) : List Effect := t.effects.filter Effect.isLedger

lemma Turn.filterMap_ledger {α : Type} {f : Effect → Option α} (t : Turn)
    (hf : ∀ e, (f e).isSome → e.isLedger) : t.ledger.filterMap f = t.effects.filterMap f := by
  rw [ledger, List.filterMap_filter]
  refine List.filterMap_congr fun e _ => ?_
  split
  · rfl
  · cases he : f e with
    | none => rfl
    | some x => exact absurd (hf e (by simp [he])) ‹_›

/-- The header of the request that is on its way. -/
def Connection.outgoing? (c : Connection) : Option Header :=
  match c.writing with
  | some ⟨_, m, .request, _⟩ => some m.header
  | _ => none

/-- The input is a request to be sent. -/
def Input.IsSend : Input → Prop
  | .event (.send _ _) => True
  | _ => False

/-- Everything that an input may do to requests: the ledger, the table afterwards, and the request
that is on its way. -/
inductive Trade (site : Site) (c : Connection) :
    Input → List Effect → Pending → Option Header → Prop
  | idle {i} (hi : ¬ i.IsSend) (ho : c.outgoing? = none) : Trade site c i [] c.pending none
  /-- The shutdown answers everyone. -/
  | drained {i} (hi : ¬ i.IsSend) :
    Trade site c i ((c.pending.drain site.node).map .complete) {} none
  | refused {j m} :
    Trade site c (.event (.send j m)) [.complete ⟨j, site.node.answer m .unableToDeliver⟩]
      c.pending none
  | entered {j m} (now : Nat) :
    Trade site c (.event (.send j m))
      ((c.pending.find? m.header.hopByHop).toList.map fun y => .abandon y.waiter)
      (c.pending.insert (.ofRequest j m now)).2 (some m.header)
  /-- The request is entered, and then the connection is shut down. -/
  | lost {j m} (now : Nat) :
    Trade site c (.event (.send j m))
      (((c.pending.find? m.header.hopByHop).toList.map fun y => .abandon y.waiter) ++
        ((c.pending.insert (.ofRequest j m now)).2.drain site.node).map .complete)
      {} none
  | sent {h} (ho : c.outgoing? = some h) :
    Trade site c (.written none)
      [.note (.sent h.command h.application h.hopByHop h.isRetransmit)] c.pending none
  /-- An answer came on the stream that carries traffic. -/
  | answered {link m x elapsed} (hl : c.activeLink?.map (·.id) = some link)
    (hm : m.header.isRequest = false) (hx : c.pending.find? m.header.hopByHop = some x) :
    Trade site c (.event (.received link m))
      [.complete ⟨x.waiter, m⟩,
        .note (.answered x.header.command m.header.hopByHop m.resultCode? elapsed)]
      (c.pending.erase m.header.hopByHop) none
  /-- What came named a request, but was no answer to it. -/
  | failed {e hopByHop x r elapsed} (he : ¬ (Input.event e).IsSend)
    (hx : c.pending.find? hopByHop = some x) :
    Trade site c (.event e)
      [.complete ⟨x.waiter, x.localAnswer site.node r⟩,
        .note (.answered x.header.command hopByHop (some r.code) elapsed)]
      (c.pending.erase hopByHop) none
  | timedOut {hopByHop x} (hx : c.pending.find? hopByHop = some x) :
    Trade site c (.event (.exchangeTimeout hopByHop))
      [.complete ⟨x.waiter, x.localAnswer site.node .unableToDeliver⟩,
        .note (.timedOut x.header.command hopByHop)]
      (c.pending.erase hopByHop) none

/-- A connection that is shut down has nothing pending. -/
def Connection.Cleared (c : Connection) : Prop := c.phase = .shutdown → c.pending = {}

namespace Turn

variable {site : Site} {A : Failure → Prop} {t u : Turn}

lemma ledger_emit (e : Effect) :
    (t.emit e).ledger = t.ledger ++ if e.isLedger then [e] else [] := by
  simp only [ledger, emit, List.filter_append, List.filter_cons, List.filter_nil]

@[simp] lemma ledger_report (e : Failure) : (t.report e).ledger = t.ledger :=
  (ledger_emit _).trans (List.append_nil _)

lemma ledger_transition {p : Phase} (hp : p ≠ .shutdown) :
    (t.transition site p).ledger = t.ledger := by
  by_cases h : t.conn.phase = p
  · rw [transition_of_phase site t h]
  · simp [ledger, effects_transition site t hp h, shift, Effect.isLedger]

lemma ledger_transition_shutdown (h : t.conn.phase ≠ .shutdown) :
    (t.transition site .shutdown).ledger =
      t.ledger ++ (t.conn.pending.drain site.node).map .complete := by
  have hr : t.conn.shape.releases.filter Effect.isLedger = [] := by
    refine List.filter_eq_nil_iff.mpr fun e he => ?_
    rcases Shape.mem_releases he with rfl | ⟨_, rfl⟩ <;> simp [Effect.isLedger]
  have hc : ∀ cs : List Completion, (cs.map Effect.complete).filter Effect.isLedger =
      cs.map .complete := by
    intro cs
    simp [Effect.isLedger]
  have hw : ∀ ws : List Nat, (ws.map Effect.release).filter Effect.isLedger = [] := by
    intro ws
    simp [Effect.isLedger]
  simp only [ledger, effects_transition_shutdown site t h, List.filter_append, hr, hc, hw,
    List.append_nil]
  simp [shift, Effect.isLedger]

namespace Leads

lemma ledger (h : Leads site A t u) :
    (u.ledger = t.ledger ∧ u.conn.pending = t.conn.pending) ∨
      (u.ledger = t.ledger ++ (t.conn.pending.drain site.node).map .complete ∧
        u.conn.pending = {}) := by
  induction h with
  | refl => exact .inl ⟨rfl, rfl⟩
  | @adjust u v _ he hp _ _ ih =>
    have hl : v.ledger = u.ledger := congrArg (List.filter _) he
    rw [hl, hp]
    exact ih
  | @emit u _ e he ih =>
    have hn : e.isLedger = false := by cases e <;> first | rfl | exact he.elim
    rw [ledger_emit, hn, conn_emit]
    simpa using ih
  | report _ _ ih => rwa [ledger_report, conn_report]
  | @transition u _ p ih =>
    by_cases hp : p = .shutdown
    · subst hp
      by_cases hs : u.conn.phase = .shutdown
      · -- it has been shut, so all was drained already
        rwa [transition_of_phase site u hs]
      · -- what was pending is drained, which is nothing if it was drained before
        rw [ledger_transition_shutdown hs, pending_transition_shutdown site u hs]
        rcases ih with ⟨hl, hp⟩ | ⟨hl, hp⟩
        · exact .inr ⟨by rw [hl, hp], rfl⟩
        · exact .inr ⟨by rw [hl, hp]; simp [Pending.drain], rfl⟩
    · -- other phases leave it alone
      rwa [ledger_transition hp, pending_transition site u hp]
  | begin _ _ ih => exact ih

lemma outgoing?_eq_none (h : Leads site A t u) (ht : t.conn.outgoing? = none) :
    u.conn.outgoing? = none := by
  induction h with
  | refl => exact ht
  | @adjust u v _ _ _ _ hw ih => rwa [Connection.outgoing?, hw]
  | emit _ _ ih => exact ih
  | report _ _ ih => exact ih
  | @transition u _ p ih =>
    have hw : (u.transition site p).conn.writing = u.conn.writing := writing_transition site u p
    rwa [Connection.outgoing?, hw]
  | @begin u _ w hw _ =>
    rcases w with ⟨_, _, g, _⟩
    cases g <;> first | rfl | exact hw.elim

lemma cleared (h : Leads site A t u) (ht : t.conn.Cleared) : u.conn.Cleared := by
  induction h with
  | refl => exact ht
  | @adjust u v _ _ hp hf _ ih => rwa [Connection.Cleared, hf, hp]
  | emit _ _ ih => exact ih
  | report _ _ ih => exact ih
  | @transition u _ p ih =>
    by_cases hp : p = .shutdown
    · subst hp
      by_cases hs : u.conn.phase = .shutdown
      · rwa [transition_of_phase site u hs]
      · exact fun _ => pending_transition_shutdown site u hs
    · intro hs
      have hph : (u.transition site p).conn.phase = p := by
        exact congrArg Shape.phase (shape_transition site u hp)
      exact absurd (hph.symm.trans hs) hp
  | begin _ _ ih => exact ih

end Leads

/-! ### Events -/

/-- A turn has traded on an input. -/
structure Trades (site : Site) (c : Connection) (i : Input) (t : Turn) : Prop where
  trade : Trade site c i t.ledger t.conn.pending t.conn.outgoing?
  cleared : t.conn.Cleared

/-- A turn on an input begins: nothing is in the ledger, and no request is on its way. -/
structure Idle (t : Turn) : Prop where
  ledger : t.ledger = []
  outgoing : t.conn.outgoing? = none
  cleared : t.conn.Cleared

/-- Failures of every kind. -/
abbrev AnyFailure : Failure → Prop := fun _ => True

lemma covers_anyFailure : Covers AnyFailure where
  foreign _ := trivial
  mistake _ _ _ := trivial

lemma Leads.trades_of (h : Leads site A t u) (ht : t.Idle) {c : Connection}
    (hc : c.pending = t.conn.pending) {i : Input} (hi : ¬ i.IsSend)
    (ho : c.outgoing? = none ∨ u.conn.pending = {}) : u.Trades site c i := by
  refine ⟨?_, h.cleared ht.cleared⟩
  rw [h.outgoing?_eq_none ht.outgoing]
  have hdrained : Trade site c i ((c.pending.drain site.node).map .complete) {} none := .drained hi
  rcases h.ledger with ⟨hl, hp⟩ | ⟨hl, hp⟩
  · rw [hl, ht.ledger]
    rcases ho with ho | hu
    · rw [hp, ← hc]
      exact .idle hi ho
    · rw [hc, ← hp, hu] at hdrained
      rw [hu]
      exact hdrained
  · rw [hl, ht.ledger, hp, List.nil_append, ← hc]
    exact hdrained

lemma Leads.trades (h : Leads site A t u) (ht : t.Idle) {i : Input} (hi : ¬ i.IsSend) :
    u.Trades site t.conn i :=
  h.trades_of ht rfl hi (.inl ht.outgoing)

lemma pending_ne_of_find? {p : Pending} {k : UInt32} {x : Exchange} (h : p.find? k = some x) :
    p ≠ {} := by
  rintro rfl
  simp [Pending.find?] at h

/-- An exchange has ended, and that is noted. -/
def conclude (x : Exchange) (m : Message) (n : Note) (k : UInt32) (t : Turn) : Turn :=
  (t.complete x ⟨x.waiter, m⟩ (t.conn.pending.erase k)).note n

lemma onAnswer_eq {m : Message} {x : Exchange}
    (h : t.conn.pending.find? m.header.hopByHop = some x) :
    t.onAnswer m = t.conclude x m (.answered x.header.command m.header.hopByHop
      m.resultCode? (x.elapsed t.now)) m.header.hopByHop := by
  simp [onAnswer, Pending.resolve, h, conclude]

lemma failExchange_eq {k : UInt32} {x : Exchange} (h : t.conn.pending.find? k = some x)
    (r : ResultCode) :
    t.failExchange site k r = t.conclude x (x.localAnswer site.node r)
      (.answered x.header.command k (some r.code) (x.elapsed t.now)) k := by
  simp [failExchange, Pending.fail, h, conclude]

lemma Idle.trades_conclude (ht : t.Idle) {c : Connection} {i : Input} {k : UInt32} {x : Exchange}
    {m : Message} {n : Note} (hx : t.conn.pending.find? k = some x)
    (hl : (Effect.note n).isLedger = true)
    (h : Trade site c i [.complete ⟨x.waiter, m⟩, .note n] (t.conn.pending.erase k) none) :
    (t.conclude x m n k).Trades site c i := by
  have hs : t.conn.phase ≠ .shutdown := fun hp => pending_ne_of_find? hx (ht.cleared hp)
  have hd : ({ t with conn.pending := t.conn.pending.erase k }.disarm (.exchange x.key)).ledger =
      t.ledger := rfl
  have hle : (t.conclude x m n k).ledger = [.complete ⟨x.waiter, m⟩, .note n] := by
    rw [conclude, note, ledger_emit, hl, complete, ledger_emit, hd, ht.ledger]
    rfl
  have ho : (t.conclude x m n k).conn.outgoing? = none := ht.outgoing
  refine ⟨?_, fun hp => absurd hp hs⟩
  rw [hle, ho]
  exact h

lemma onAnswer_trades (ht : t.Idle) (h : Leads site AnyFailure t u) {link : Nat} {m : Message}
    (hl : t.conn.activeLink?.map (·.id) = some link) (hm : m.header.isRequest = false) :
    (u.onAnswer m).Trades site t.conn (.event (.received link m)) := by
  cases hf : u.conn.pending.find? m.header.hopByHop with
  | none =>
    have hr : u.onAnswer m = u.report (.unknownAnswer m.header.hopByHop) := by
      simp [onAnswer, Pending.resolve, hf]
    rw [hr]
    exact (h.report trivial).trades ht (by simp [Input.IsSend])
  | some x =>
    have hp : u.ledger = t.ledger ∧ u.conn.pending = t.conn.pending :=
      h.ledger.resolve_right fun hd => pending_ne_of_find? hf hd.2
    have hu : u.Idle :=
      ⟨hp.1.trans ht.ledger, h.outgoing?_eq_none ht.outgoing, h.cleared ht.cleared⟩
    rw [onAnswer_eq hf]
    exact hu.trades_conclude hf rfl (hp.2 ▸ .answered hl hm (hp.2 ▸ hf))

lemma failExchange_trades (ht : t.Idle) {e : Event} (hi : ¬ (Input.event e).IsSend)
    (hopByHop : UInt32) (r : ResultCode) (f : Failure) :
    ((t.failExchange site hopByHop r).report f).Trades site t.conn (.event e) := by
  have hv : ∀ {v : Turn}, v.Trades site t.conn (.event e) →
      (v.report f).Trades site t.conn (.event e) := by
    intro v hv
    refine ⟨?_, hv.cleared⟩
    rw [ledger_report, conn_report]
    exact hv.trade
  apply hv
  cases hf : t.conn.pending.find? hopByHop with
  | none =>
    have hr : t.failExchange site hopByHop r = t := by simp [failExchange, Pending.fail, hf]
    rw [hr]
    exact Leads.trades (A := AnyFailure) .refl ht hi
  | some x =>
    rw [failExchange_eq hf]
    exact ht.trades_conclude hf rfl (.failed hi hf)

lemma onExchangeTimeout_trades (ht : t.Idle) (hopByHop : UInt32) :
    (t.onExchangeTimeout site hopByHop).Trades site t.conn
      (.event (.exchangeTimeout hopByHop)) := by
  cases hf : t.conn.pending.find? hopByHop with
  | none =>
    have hr : t.onExchangeTimeout site hopByHop = t := by
      simp [onExchangeTimeout, Pending.expire, Pending.fail, hf]
    rw [hr]
    exact Leads.trades (A := AnyFailure) .refl ht (by simp [Input.IsSend])
  | some x =>
    have hr : t.onExchangeTimeout site hopByHop =
        t.conclude x (x.localAnswer site.node .unableToDeliver)
          (.timedOut x.header.command hopByHop) hopByHop := by
      simp [onExchangeTimeout, Pending.expire, Pending.fail, hf, conclude]
    rw [hr]
    exact ht.trades_conclude hf rfl (.timedOut hf)

lemma ledger_enter (waiter : Nat) (request : Message) :
    (t.enter site waiter request).ledger = t.ledger ++
      (t.conn.pending.find? request.header.hopByHop).toList.map fun y => .abandon y.waiter := by
  have hk : (t.conn.pending.insert (.ofRequest waiter request t.now)).1 =
      t.conn.pending.find? request.header.hopByHop := rfl
  unfold enter
  dsimp only
  split
  · rename_i y hy
    rw [ledger_emit, ← hk, show (t.conn.pending.insert _).1 = some y from hy]
    rfl
  · rename_i hy
    rw [← hk, show (t.conn.pending.insert _).1 = none from hy]
    exact (List.append_nil _).symm

lemma conn_enter (waiter : Nat) (request : Message) :
    (t.enter site waiter request).conn.pending =
        (t.conn.pending.insert (.ofRequest waiter request t.now)).2 ∧
      (t.enter site waiter request).conn.phase = t.conn.phase ∧
      (t.enter site waiter request).conn.writing = t.conn.writing := by
  unfold enter
  dsimp only
  split <;> exact ⟨rfl, rfl, rfl⟩

/-- Every event that is handled trades on what was asked. -/
lemma handle_trades (site : Site) (ht : t.Idle) (hs : t.conn.phase ≠ .shutdown) (e : Event) :
    (t.handle site e).Trades site t.conn (.event e) := by
  have ho : Outcome site AnyFailure t e (t.handle site e) :=
    handle_outcome covers_anyFailure (.inr fun _ => trivial)
  generalize t.handle site e = u at ho
  have quiet : ∀ {e : Event}, (∀ j m, e ≠ .send j m) → ¬ (Input.event e).IsSend := by
    intro e he hi
    cases e <;> first | exact he _ _ rfl | exact hi.elim
  cases ho with
  | moves hl he => exact hl.trades ht (quiet he)
  | answered hl hk hm => exact onAnswer_trades ht hl hk hm
  | failed he k r => exact failExchange_trades ht (quiet he) k r _
  | expired k => exact onExchangeTimeout_trades ht k
  | refused j m =>
    refine ⟨?_, ht.cleared⟩
    rw [refuseToSend, ledger_emit, ht.ledger, conn_emit, ht.outgoing]
    exact .refused
  | entered j m =>
    obtain ⟨hp, hf, -⟩ := @conn_enter site t j m
    refine ⟨?_, fun h => absurd (hf.symm.trans h) hs⟩
    have hl := @ledger_enter site t j m
    rw [ht.ledger, List.nil_append] at hl
    have he := @Trade.entered site t.conn j m t.now
    rw [← hl, ← hp] at he
    exact he
  | @lost j m f _ =>
    obtain ⟨hp, hf, hw⟩ := @conn_enter site t j m
    have hl := @ledger_enter site t j m
    rw [ht.ledger, List.nil_append] at hl
    have hn : ((t.enter site j m).report f).conn.phase ≠ .shutdown := by rwa [conn_report, hf]
    have hq : ((t.enter site j m).giveUp site f).conn.outgoing? = none := by
      rw [Connection.outgoing?, giveUp, writing_transition, conn_report, hw]
      exact ht.outgoing
    have hd : ((t.enter site j m).giveUp site f).conn.pending = {} :=
      pending_transition_shutdown site _ hn
    refine ⟨?_, fun _ => hd⟩
    rw [hd, hq, giveUp, ledger_transition_shutdown hn, ledger_report, conn_report, hl, hp]
    exact .lost t.now

lemma settle_trades_sent (ht : t.Idle) {c : Connection} (hc : c.pending = t.conn.pending)
    {m : Message} (ho : c.outgoing? = some m.header) :
    (t.settle site .request m none).Trades site c (.written none) := by
  let v := t.note (.sent m.header.command m.header.application m.header.hopByHop
    m.header.isRetransmit)
  have hv : Leads site AnyFailure v (t.settle site .request m none) := Leads.settle_request m
  have hl : v.ledger = [.note (.sent m.header.command m.header.application m.header.hopByHop
      m.header.isRetransmit)] := by
    simp only [v, note, ledger_emit, ht.ledger]
    rfl
  have hk : (t.settle site .request m none).ledger = v.ledger ∧
      (t.settle site .request m none).conn.pending = c.pending := by
    unfold settle
    dsimp only
    split <;> exact ⟨rfl, hc.symm⟩
  refine ⟨?_, hv.cleared ht.cleared⟩
  rw [hk.1, hk.2, hl, hv.outgoing?_eq_none ht.outgoing]
  exact .sent ho

lemma settle_trades (ht : t.Idle) {c : Connection} (hc : c.pending = t.conn.pending) (w : Writing)
    (hw : c.writing = some w) (result : Option Failure) :
    (t.settle site w.goal w.message result).Trades site c (.written result) := by
  have hi : ¬ (Input.written result).IsSend := fun h => h
  rcases w with ⟨link, m, g, d⟩
  by_cases hg : g = .request
  · subst hg
    cases result with
    | none => exact settle_trades_sent ht hc (by simp [Connection.outgoing?, hw])
    | some f =>
      have hv : Leads site AnyFailure t (t.giveUp site f) := Leads.refl.giveUp trivial
      exact hv.trades_of ht hc hi (.inr (hv.cleared ht.cleared (phase_giveUp site t f)))
  · have ho : c.outgoing? = none := by
      rw [Connection.outgoing?, hw]
      cases g <;> first | rfl | exact absurd rfl hg
    have hr : g.Reports AnyFailure := by
      cases g <;> first | exact trivial | exact absurd rfl hg
    have hv : Leads site AnyFailure t (t.settle site g m result) :=
      Leads.refl.settle hr m fun _ _ => trivial
    exact hv.trades_of ht hc hi (.inl ho)

end Turn

/-! ### Turns -/

variable {site : Site}

lemma Trade.of_without {c : Connection} {e : Event} {l : List Effect} {p : Pending}
    {o : Option Header} (h : Trade site (c.without (.event e)) (.event e) l p o) :
    Trade site c (.event e) l p o := by
  cases h with
  | idle hi ho => exact .idle hi ho
  | drained hi => exact .drained hi
  | refused => exact .refused
  | entered now => exact .entered now
  | lost now => exact .lost now
  | answered hl hm hx => exact .answered hl hm hx
  | failed hi hx => exact .failed hi hx
  | timedOut hx => exact .timedOut hx

/-- **What a turn does for those who wait.** -/
theorem Connection.Takes.trades {c : Connection} {i : Input} (ht : c.Takes i) (hc : c.Cleared)
    (site : Site) (now serial : Nat) (ids : Identifiers) :
    ((c.without i).step site now serial ids i).Trades site c i := by
  have handled : ∀ {e : Event}, c.Accepts (.event e) →
      ((c.without (.event e)).step site now serial ids (.event e)).Trades site c (.event e) := by
    rintro e ⟨hs, hw⟩
    let t : Turn := { now, serial, ids, conn := c.without (.event e) }
    have hi : t.Idle := by
      refine ⟨rfl, ?_, hc⟩
      show Connection.outgoing? { c with internal := c.internal.tail } = none
      simp only [Connection.outgoing?, hw]
    obtain ⟨h, hd⟩ := Turn.handle_trades site hi hs e
    exact ⟨h.of_without, hd⟩
  cases ht with
  | @written w hw result =>
    let t : Turn := { now, serial, ids, conn := { c with writing := none } }
    have hr : (c.without (.written result)).step site now serial ids (.written result) =
        t.settle site w.goal w.message result := by
      simp [step, Turn.written, without, hw, t]
    rw [hr]
    have hi : t.Idle := ⟨rfl, rfl, hc⟩
    exact Turn.settle_trades (c := c) hi rfl w hw result
  | internal ha _ => exact handled ha
  | queued ha _ => exact handled ha

lemma Connection.Run.cleared {c₀ c : Connection} {bs : List Beat} (h : Run site c₀ bs c)
    (h₀ : c₀.Cleared) : c.Cleared := by
  induction h with
  | nil => exact h₀
  | ring _ _ ih => exact ih
  | turn _ ht ih => exact (ht.trades ih _ _ _ _).cleared

end Diameter
