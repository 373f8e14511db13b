import Diameter.Proofs.RequestOutcome

/-!
Which failures a turn tells of.

A turn tells of failures of a kind if it notes no others, and if the end of the write it has begun
notes no others. Moves that report failures of the kind keep that up, and so does handling an
event (`Turn.Tells.handle`) and the end of a write (`Turn.Tells.settle`).
-/

namespace Diameter

/-- No failure is noted but one of this kind. -/
def Effect.Tells (A : Failure → Prop) : Effect → Prop
  | .note (.failure _ e) => A e
  | _ => True

/-- No failure is reported after the write but one of this kind. -/
def Goal.Tells (A : Failure → Prop) : Goal → Prop
  | .reject e | .turnAway _ e | .complain e => A e
  | _ => True

lemma Goal.Reports.tells {A : Failure → Prop} {g : Goal} (h : g.Reports A) : g.Tells A := by
  cases g <;> first | exact h | exact trivial

lemma Goal.Tells.reports {A : Failure → Prop} {g : Goal} (h : g.Tells A) (hg : g ≠ .request) :
    g.Reports A := by
  cases g <;> first | exact h | exact trivial | exact absurd rfl hg

namespace Turn

/-- The turn tells of no failure but of this kind, and neither will the end of a write. -/
structure Tells (A : Failure → Prop) (t : Turn) : Prop where
  effects : ∀ e ∈ t.effects, e.Tells A
  writing : ∀ w, t.conn.writing = some w → w.goal.Tells A

variable {site : Site} {A : Failure → Prop} {t u : Turn}

namespace Tells

lemma append (h : t.Tells A) (es : List Effect) (hes : ∀ e ∈ es, e.Tells A)
    (he : u.effects = t.effects ++ es) (hw : u.conn.writing = t.conn.writing) : u.Tells A where
  effects := by
    intro e hm
    rw [he, List.mem_append] at hm
    exact hm.elim (h.effects e) (hes e)
  writing := hw ▸ h.writing

lemma emit (h : t.Tells A) {e : Effect} (he : e.Tells A) : (t.emit e).Tells A :=
  h.append [e] (by simpa using he) rfl rfl

lemma report (h : t.Tells A) {e : Failure} (he : A e) : (t.report e).Tells A := h.emit he

lemma transition (h : t.Tells A) (p : Phase) : (t.transition site p).Tells A := by
  obtain ⟨es, he, hes⟩ := exists_effects_transition site t p (P := Effect.Tells A)
    (by simp [shift, Effect.Tells]) trivial (fun _ => trivial) (fun _ _ => trivial) fun _ => trivial
  exact h.append es hes he (writing_transition site t p)

lemma leads (h : t.Tells A) (hl : Leads site A t u) : u.Tells A := by
  induction hl with
  | refl => exact h
  | adjust _ he _ _ hw ih => exact ih.append [] (by simp) (by simpa using he) hw
  | @emit u _ e he ih =>
    refine ih.emit ?_
    cases e <;> first | exact trivial | exact he.elim
  | report _ he ih => exact ih.report he
  | transition _ p ih => exact ih.transition p
  | @begin u _ w hw ih =>
    refine ⟨ih.effects, ?_⟩
    rintro _ ⟨⟩
    exact hw.tells

/-! ### Requests -/

lemma complete (h : t.Tells A) (x : Exchange) (c : Completion) (p : Pending) :
    (t.complete x c p).Tells A :=
  h.append [.complete c] (by simp [Effect.Tells]) rfl rfl

lemma failExchange (h : t.Tells A) (hopByHop : UInt32) (r : ResultCode) :
    (t.failExchange site hopByHop r).Tells A := by
  unfold Turn.failExchange
  split
  · exact h
  · exact (h.complete _ _ _).emit trivial

lemma onAnswer (h : t.Tells A) (hA : Spans A) (m : Message) : (t.onAnswer m).Tells A := by
  unfold Turn.onAnswer
  split
  · rename_i e he
    refine h.report ?_
    unfold Pending.resolve at he
    dsimp only at he
    split at he
    · cases he
      exact hA.remote trivial
    · cases he
  · exact (h.complete _ _ _).emit trivial

lemma onExchangeTimeout (h : t.Tells A) (hopByHop : UInt32) :
    (t.onExchangeTimeout site hopByHop).Tells A := by
  unfold Turn.onExchangeTimeout
  split
  · exact h
  · exact (h.complete _ _ _).emit trivial

lemma enter (h : t.Tells A) (waiter : Nat) (request : Message) :
    (t.enter site waiter request).Tells A := by
  unfold Turn.enter
  dsimp only
  split
  · exact h.append [.abandon _] (by simp [Effect.Tells]) rfl rfl
  · exact h.append [] (by simp) (by simp [arm]) rfl

/-! ### Turns -/

/-- Handling an event tells of failures of the kind only, unless the watchdog expires. -/
lemma handle (h : t.Tells A) (hA : Spans A) {e : Event}
    (hp : e.Suits t.conn.phase ∨ ∀ p event, A (.notAcceptable p event))
    (hr : ∀ f, e.failure? = some f → A f)
    (hw : (∀ k, A (.watchdogExpired k)) ∨
      ∀ k, t.conn.outstanding = some k → ∀ l, e = .watchdogReply l → l ≠ k) :
    (t.handle site e).Tells A := by
  have hu : Upshot site A t e (t.handle site e) := handle_upshot hA hp hr
  generalize t.handle site e = u at hu
  cases hu with
  | bypass hb | fallen hb => exact h.leads hb.leads
  | stale => exact h
  | opened hb => exact h.leads (hb.leads.openAs _ _)
  | heard _ hb => exact h.leads (Leads.refl.stir.trans hb.leads)
  | dispatched => exact h.leads (Leads.refl.stir.emit trivial)
  | reassured => exact h.leads (Leads.refl.onDwa _)
  | answered => exact (h.leads Leads.refl.stir).onAnswer hA _
  | failed _ hop r hf => exact (h.failExchange hop r).report hf
  | expired hop => exact h.onExchangeTimeout hop
  | refused j m => exact h.emit (e := .complete _) trivial
  | entered j m => exact ⟨(h.enter j m).effects, by rintro _ ⟨⟩; exact trivial⟩
  | lost j m hf => exact (h.enter j m).leads (Leads.refl.giveUp hf)
  | probing => exact ⟨h.effects, by rintro _ ⟨⟩; exact trivial⟩
  | @missed k ho =>
    rcases hw with hw | hw
    · exact h.leads (Leads.refl.onWatchdogReply hw k)
    · exact absurd rfl (hw k ho k rfl)

/-- The end of a write tells of failures of the kind only. -/
lemma settle (h : t.Tells A) {g : Goal} (hg : g.Tells A) (m : Message) {result : Option Failure}
    (hr : ∀ e, result = some e → A e) : (t.settle site g m result).Tells A := by
  by_cases hq : g = .request
  · subst hq
    cases result with
    | none =>
      have hl : Leads site A _ (t.settle site .request m none) := Leads.settle_request m
      exact leads (h.emit (e := .note (.sent _ _ _ _)) trivial) hl
    | some e =>
      have hl : Leads site A t (t.giveUp site e) := Leads.refl.giveUp (hr e rfl)
      exact h.leads hl
  · exact h.leads (Leads.refl.settle (hg.reports hq) m hr)

end Tells

end Turn

end Diameter
