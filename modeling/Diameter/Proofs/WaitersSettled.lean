import Diameter.Proofs.Answers
import Diameter.Proofs.Tidy

/-!
Everyone who asked is told before a connection is done.

Over a run everyone who asked has been answered, has been displaced by a request with the same
identifier, or is still pending (`Connection.Run.settles`). The turn that shuts the connection down
answers all who are pending then, and nobody else (`Connection.Run.drains`).
-/

namespace Diameter

/-- The requests that are at stake when an event is handled: those that are pending, and the one
to be sent. -/
def Pending.staked (p : Pending) (now : Nat) : Event → Pending
  | .send j m => (p.insert (.ofRequest j m now)).2
  | _ => p

/-- The requests that are at stake in a turn. -/
def Beat.stake (b : Beat) : Pending :=
  match b.input with
  | .event e => b.conn.pending.staked b.moment.now e
  | .written _ => b.conn.pending

lemma Beat.nodup_stake {b : Beat} (h : b.conn.pending.keys.Nodup) : b.stake.keys.Nodup := by
  unfold stake Pending.staked
  split
  · split
    · exact Pending.nodup_keys_insert h _
    · exact h
  · exact h

lemma Beat.abandoned?_eq_ledger (site : Site) (b : Beat) :
    (b.turn site).effects.filterMap Effect.abandoned? =
      (b.turn site).ledger.filterMap Effect.abandoned? := by
  refine (Turn.filterMap_ledger _ fun e he => ?_).symm
  cases e with
  | abandon => rfl
  | _ => exact absurd he (by simp [Effect.abandoned?])

namespace Turn

variable {site : Site} {A : Failure → Prop} {t u : Turn}

/-- Whoever is answered in a turn. -/
def answers (t : Turn) : List Completion := t.ledger.filterMap Effect.completion?

lemma Leads.ledger_shutdown (h : Leads site A t u) (ht : t.conn.phase ≠ .shutdown)
    (hu : u.conn.phase = .shutdown) :
    u.ledger = t.ledger ++ (t.conn.pending.drain site.node).map .complete := by
  have hp : u.conn.pending = {} := h.cleared (fun hp => absurd hp ht) hu
  rcases h.ledger with ⟨hl, hq⟩ | ⟨hl, -⟩
  · rw [hl, ← hq, hp]
    simp [Pending.drain]
  · exact hl

lemma Leads.answers_shutdown (h : Leads site A t u) (hl : t.ledger = [])
    (ht : t.conn.phase ≠ .shutdown) (hu : u.conn.phase = .shutdown) :
    u.answers = t.conn.pending.drain site.node := by
  rw [answers, h.ledger_shutdown ht hu, hl, List.nil_append, filterMap_completion?_complete]

lemma phase_onAnswer (t : Turn) (m : Message) : (t.onAnswer m).conn.phase = t.conn.phase := by
  unfold onAnswer
  split <;> rfl

lemma phase_failExchange (site : Site) (k : UInt32) (r : ResultCode) (t : Turn) :
    (t.failExchange site k r).conn.phase = t.conn.phase := by
  unfold failExchange
  split <;> rfl

lemma phase_onExchangeTimeout (site : Site) (k : UInt32) (t : Turn) :
    (t.onExchangeTimeout site k).conn.phase = t.conn.phase := by
  unfold onExchangeTimeout
  split <;> rfl

lemma handle_drains {e : Event} (hl : t.ledger = []) (ht : t.conn.phase ≠ .shutdown)
    (hu : (t.handle site e).conn.phase = .shutdown) :
    (t.handle site e).answers = (t.conn.pending.staked t.now e).drain site.node := by
  have ho : Outcome site AnyFailure t e (t.handle site e) :=
    handle_outcome covers_anyFailure (.inr fun _ => trivial)
  generalize t.handle site e = u at ho hu
  cases ho with
  | moves h he =>
    rw [h.answers_shutdown hl ht hu]
    cases e with
    | send j m => exact absurd rfl (he j m)
    | _ => rfl
  | @answered link m v h =>
    -- The requests are gone by then, so that there is nothing left to answer.
    have hv : v.conn.phase = .shutdown := (phase_onAnswer v m).symm.trans hu
    have hp : v.conn.pending = {} := h.cleared (fun hp => absurd hp ht) hv
    have hr : v.onAnswer m = v.report (.unknownAnswer m.header.hopByHop) := by
      simp [onAnswer, Pending.resolve, hp]
    rw [hr]
    exact (h.report trivial).answers_shutdown hl ht hv
  | failed he k r =>
    exact absurd ((phase_failExchange site k r t).symm.trans hu) ht
  | expired k => exact absurd ((phase_onExchangeTimeout site k t).symm.trans hu) ht
  | refused j m => exact absurd hu ht
  | @entered j m =>
    obtain ⟨-, hf, -⟩ := @conn_enter site t j m
    exact absurd (hf.symm.trans hu) ht
  | @lost j m f _ =>
    obtain ⟨hp, hf, -⟩ := @conn_enter site t j m
    have hn : ((t.enter site j m).report f).conn.phase ≠ .shutdown := by rwa [conn_report, hf]
    rw [answers, giveUp, ledger_transition_shutdown hn, ledger_report, ledger_enter, hl,
      conn_report, hp, List.nil_append, List.filterMap_append, filterMap_completion?_abandon,
      filterMap_completion?_complete, List.nil_append, Pending.staked]

lemma settle_drains {g : Goal} {m : Message} {result : Option Failure} (hl : t.ledger = [])
    (ht : t.conn.phase ≠ .shutdown) (hu : (t.settle site g m result).conn.phase = .shutdown) :
    (t.settle site g m result).answers = t.conn.pending.drain site.node := by
  by_cases hg : g = .request
  · subst hg
    cases result with
    | none =>
      have hp : (t.settle site .request m none).conn.phase = t.conn.phase := by
        unfold settle
        dsimp only
        split <;> rfl
      exact absurd (hp.symm.trans hu) ht
    | some f =>
      have h : Leads site AnyFailure t (t.giveUp site f) := Leads.refl.giveUp trivial
      exact h.answers_shutdown hl ht hu
  · have hr : g.Reports AnyFailure := by
      cases g <;> first | exact trivial | exact absurd rfl hg
    have h : Leads site AnyFailure t (t.settle site g m result) :=
      Leads.refl.settle hr m fun _ _ => trivial
    exact h.answers_shutdown hl ht hu

end Turn

variable {site : Site} {expected : Option String} {first : Event} {bs : List Beat} {b : Beat}
  {c : Connection}

/-- **The shutdown answers everyone.** The turn that leads to it answers whoever has a request at
stake, each once and in the order of their requests, and nobody else. -/
theorem Beat.drains (ht : b.conn.Takes b.input) (hp : b.conn.phase ≠ .shutdown)
    (hu : (b.turn site).conn.phase = .shutdown) :
    b.completions site = b.stake.drain site.node := by
  rw [completions_eq_ledger]
  cases hi : b.input with
  | written result =>
    rw [hi] at ht
    cases ht with
    | written hw =>
      have hs : b.stake = b.conn.pending := by rw [stake, hi]
      rw [turn_written hi hw] at hu ⊢
      rw [hs, ← b.pending_begun]
      refine Turn.settle_drains (t := { b.begun with conn.writing := none }) rfl ?_ hu
      have hd : b.begun.conn.phase = b.conn.phase := congrArg Duty.phase b.duty_begun
      rwa [← hd] at hp
  | event e =>
    have hd : b.begun.conn.phase = b.conn.phase := congrArg Duty.phase b.duty_begun
    have hs : b.stake = b.begun.conn.pending.staked b.begun.now e := by
      rw [stake, hi, b.pending_begun]
      rfl
    rw [turn_event hi] at hu ⊢
    rw [hs]
    exact Turn.handle_drains rfl (hd ▸ hp) hu

namespace Connection.Run

/-- Whoever has a request at stake when a connection is shut down is answered as if it could not be
delivered. -/
theorem undelivered (h : Run site (fresh expected first) bs b.conn) {d : Completion}
    (hd : d ∈ b.stake.drain site.node) :
    ∃ x ∈ b.stake.entries, ∃ j q now, x = .ofRequest j q now ∧ d.waiter = j ∧
      d.message.Answers q .unableToDeliver := by
  obtain ⟨x, hx, rfl⟩ := List.mem_map.mp hd
  have hq : ∃ j q now, x = .ofRequest j q now := by
    have old : x ∈ b.conn.pending.entries → ∃ j q now, x = .ofRequest j q now := h.asked
    unfold Beat.stake Pending.staked at hx
    split at hx
    · split at hx
      · rcases List.mem_append.mp hx with hx | hx
        · exact old (List.mem_filter.mp hx).1
        · exact ⟨_, _, _, List.mem_singleton.mp hx⟩
      · exact old hx
    · exact old hx
  obtain ⟨j, q, now, rfl⟩ := hq
  exact ⟨_, hx, j, q, now, rfl, rfl, site.node.answer_answers q .unableToDeliver⟩

/-- **Nobody who asked is forgotten.** Whoever has asked was answered, was displaced, or has a
request pending; and no two pending requests have the same identifier. -/
theorem settles (h : Run site (fresh expected first) bs c) :
    (((bs.flatMap (Beat.completions site)).map (·.waiter)) ++
        (Beat.effectsOf site bs).filterMap Effect.abandoned? ++ c.pending.waiters).Perm
      (bs.filterMap (·.input.waiter?)) ∧ c.pending.keys.Nodup := by
  induction h with
  | nil => exact ⟨.refl _, by simp [fresh, Pending.keys]⟩
  | ring _ _ ih => exact ih
  | @turn bs b h ht ih =>
    have hc := h.cleared fun _ => rfl
    have hx := ht.trades hc site b.moment.now b.moment.serial b.moment.ids
    obtain ⟨hk, hn⟩ := hx.trade.keeps ih.2
    refine ⟨?_, hn⟩
    have hw : [b].filterMap (·.input.waiter?) = b.input.waiter?.toList := by
      cases hi : b.input.waiter? <;> simp [hi]
    rw [← Beat.turn, ← Beat.completions_eq_ledger, ← Beat.abandoned?_eq_ledger] at hk
    rw [List.flatMap_append, List.flatMap_singleton, List.map_append, Beat.effectsOf_append,
      Beat.effectsOf_singleton, List.filterMap_append, List.filterMap_append,
      hw, List.perm_iff_count]
    rw [List.perm_iff_count] at hk
    have ih := List.perm_iff_count.mp ih.1
    intro j
    have hj := hk j
    have ij := ih j
    simp only [List.count_append] at hj ij ⊢
    omega

end Connection.Run

end Diameter
