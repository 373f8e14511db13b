import Diameter.Proofs.Speech

/-!
What goes to the registry, and what comes back.

A turn hands over one request at most: the one that has just come, from the peer, on the stream that
carries traffic. Nothing is written with it. Whatever handlers there are and whatever they make of
it, what the registry gives back answers it. Main statements: `Beat.hands` and
`Registry.dispatch_replies`.
-/

namespace Diameter

/-! ### What comes back -/

namespace Registry

lemma asAnswerTo_replies (request m : Message) :
    (asAnswerTo request m).header.Replies request.header := by
  have hr := (flags_asAnswerTo request m).1
  rcases header_asAnswerTo request m with h | h <;> rw [h] at hr ⊢
  · exact ⟨hr, rfl, rfl, rfl, rfl⟩
  · exact ⟨hr, rfl, rfl, rfl, rfl⟩

/-- **Whatever becomes of a request, it is answered**: where there is no handler, and where there is
one that answers, fails or breaks down. -/
theorem dispatch_replies (r : Registry) (n : Node) (request : Message) :
    (r.dispatch n request).header.Replies request.header := by
  unfold dispatch
  split
  · exact Node.answerHeader_replies request.header _
  · split
    · exact asAnswerTo_replies request _
    · exact Node.answerHeader_replies request.header _
    · exact Node.answerHeader_replies request.header .unableToComply

end Registry

/-! ### What goes there -/

/-- The stream and the request that are handed to the registry. -/
def Effect.dispatch? : Effect → Option (Nat × Message)
  | .dispatch link request => some (link, request)
  | _ => none

namespace Turn

variable {site : Site} {A : Failure → Prop} {t u : Turn}

/-- What a turn hands to the registry. -/
def dispatched (t : Turn) : List (Nat × Message) := t.effects.filterMap Effect.dispatch?

lemma dispatched_append {es : List Effect} (h : u.effects = t.effects ++ es)
    (hn : ∀ e ∈ es, e.dispatch? = none) : u.dispatched = t.dispatched := by
  rw [dispatched, h, List.filterMap_append, List.filterMap_eq_nil_iff.mpr hn, List.append_nil]
  rfl

lemma dispatched_emit {e : Effect} (he : e.dispatch? = none) :
    (t.emit e).dispatched = t.dispatched :=
  dispatched_append rfl (by simp [he])

lemma dispatched_report (e : Failure) : (t.report e).dispatched = t.dispatched :=
  dispatched_emit rfl

lemma dispatched_transition (site : Site) (t : Turn) (p : Phase) :
    (t.transition site p).dispatched = t.dispatched := by
  obtain ⟨es, he, hes⟩ := exists_effects_transition site t p (P := fun e => e.dispatch? = none)
    (by simp [shift, Effect.dispatch?]) rfl (fun _ => rfl) (fun _ _ => rfl) fun _ => rfl
  exact dispatched_append he hes

lemma dispatched_giveUp (site : Site) (t : Turn) (e : Failure) :
    (t.giveUp site e).dispatched = t.dispatched :=
  (dispatched_transition site _ _).trans (dispatched_report e)

lemma Bypass.dispatched (h : Bypass site A t u) : u.dispatched = t.dispatched := by
  induction h with
  | refl => rfl
  | adjust _ he _ _ ih => exact (congrArg (List.filterMap Effect.dispatch?) he).trans ih
  | @emit u _ e he ih =>
    have hn : e.dispatch? = none := by cases e <;> first | rfl | exact he.elim
    exact (dispatched_emit hn).trans ih
  | report _ _ ih => exact (dispatched_report _).trans ih
  | transition _ _ ih => exact (dispatched_transition site _ _).trans ih
  | part _ ih =>
    exact (dispatched_transition site _ _).trans ((dispatched_transition site _ _).trans ih)
  | begin _ _ ih => exact ih

lemma dispatched_openAs (site : Site) (t : Turn) (peer : PeerIdentity) (p : Phase) :
    (t.openAs site peer p).dispatched = t.dispatched :=
  (dispatched_transition site _ p).trans (dispatched_emit rfl)

lemma dispatched_stir (site : Site) (t : Turn) : (t.stir site).dispatched = t.dispatched := by
  unfold stir
  split <;> rfl

lemma dispatched_onDwa (site : Site) (t : Turn) (m : Message) :
    (t.onDwa site m).dispatched = t.dispatched := by
  unfold onDwa
  split
  · rfl
  · dsimp only
    split <;> rfl

lemma dispatched_complete (t : Turn) (x : Exchange) (c : Completion) (p : Pending) (n : Note) :
    ((t.complete x c p).note n).dispatched = t.dispatched :=
  (dispatched_emit rfl).trans (dispatched_emit rfl)

lemma dispatched_onAnswer (t : Turn) (m : Message) :
    (t.onAnswer m).dispatched = t.dispatched := by
  unfold onAnswer
  split
  · exact dispatched_report _
  · exact dispatched_complete _ _ _ _ _

lemma dispatched_failExchange (site : Site) (t : Turn) (k : UInt32) (r : ResultCode) :
    (t.failExchange site k r).dispatched = t.dispatched := by
  unfold failExchange
  split
  · rfl
  · exact dispatched_complete _ _ _ _ _

lemma dispatched_onExchangeTimeout (site : Site) (t : Turn) (k : UInt32) :
    (t.onExchangeTimeout site k).dispatched = t.dispatched := by
  unfold onExchangeTimeout
  split
  · rfl
  · exact dispatched_complete _ _ _ _ _

lemma dispatched_enter (site : Site) (t : Turn) (waiter : Nat) (request : Message) :
    (t.enter site waiter request).dispatched = t.dispatched := by
  unfold enter
  dsimp only
  split
  · exact dispatched_emit rfl
  · rfl

lemma dispatched_onWatchdogReply (site : Site) (t : Turn) (k : UInt32) :
    (t.onWatchdogReply site k).dispatched = t.dispatched := by
  unfold onWatchdogReply
  split
  · rfl
  · dsimp only
    split
    · exact dispatched_giveUp site _ _
    · rfl

lemma dispatched_onPeerMessage (side : Side) (link : Nat) {m : Message}
    (hm : m.header.isRequest = false) :
    (t.onPeerMessage site side link m).dispatched = t.dispatched := by
  have hs := dispatched_stir site t
  rw [onPeerMessage_eq]
  simp only [hm, Bool.false_eq_true, if_false]
  split
  · exact (dispatched_onDwa site _ m).trans hs
  · split
    · exact (Bypass.refl.onDpa spans_any).dispatched.trans hs
    · exact (dispatched_onAnswer _ m).trans hs

/-- What goes to the registry in handling an event: nothing, or the request that has just come, and
then nothing begins to be written. -/
lemma dispatched_handle (site : Site) (t : Turn) (e : Event) :
    (t.handle site e).dispatched = t.dispatched ∨ ∃ side link m, e = .received link m ∧
      t.Trusts side link m ∧ m.header.isRequest ∧
      (t.handle site e).dispatched = t.dispatched ++ [(link, m)] ∧
      (t.handle site e).conn.shape = t.conn.shape := by
  have hu := handle_upshot_any site t e
  generalize hv : t.handle site e = u at hu
  cases hu with
  | bypass h | fallen h => exact .inl h.dispatched
  | stale | probing => exact .inl rfl
  | opened h => exact .inl ((dispatched_openAs site _ _ _).trans h.dispatched)
  | heard _ h => exact .inl (h.dispatched.trans (dispatched_stir site t))
  | @dispatched side link m ht =>
    have hd : ((t.stir site).emit (.dispatch link m)).dispatched = t.dispatched ++ [(link, m)] := by
      rw [← dispatched_stir site t]
      exact List.filterMap_append
    refine .inr ⟨side, link, m, rfl, ht, ?_, hd, shape_stir site t⟩
    by_contra hm
    have hn : (t.handle site (.received link m)).dispatched = t.dispatched := by
      rw [handle_of_trusts ht]
      exact dispatched_onPeerMessage side link (by simpa using hm)
    rw [hv, hd] at hn
    simp at hn
  | reassured => exact .inl (dispatched_onDwa site t _)
  | answered => exact .inl ((dispatched_onAnswer _ _).trans (dispatched_stir site t))
  | failed _ k r =>
    exact .inl ((dispatched_report _).trans (dispatched_failExchange site t k r))
  | expired k => exact .inl (dispatched_onExchangeTimeout site t k)
  | refused => exact .inl (dispatched_emit rfl)
  | entered j m => exact .inl (dispatched_enter site t j m)
  | lost j m => exact .inl ((dispatched_giveUp site _ _).trans (dispatched_enter site t j m))
  | missed => exact .inl (dispatched_onWatchdogReply site t _)

lemma dispatched_settle (site : Site) (t : Turn) (g : Goal) (m : Message)
    (result : Option Failure) : (t.settle site g m result).dispatched = t.dispatched := by
  have aside : g.IsAside (fun _ => True) → g.IsSettled →
      (t.settle site g m result).dispatched = t.dispatched := fun ha hs =>
    (Bypass.refl.settle ha hs m fun _ _ => trivial).dispatched
  cases result with
  | some f =>
    have h : Bypass site (fun _ => True) t (t.settle site g m (some f)) :=
      Bypass.refl.settle_failed (fun _ _ => trivial) m trivial
    exact h.dispatched
  | none =>
    cases g with
    | accept peer => exact dispatched_openAs site t peer _
    | request =>
      unfold settle
      dsimp only
      split <;> exact dispatched_emit rfl
    | disconnect => exact dispatched_transition site t .closing
    | probe => rfl
    | _ => exact aside trivial trivial

end Turn

namespace Beat

variable {site : Site} {b : Beat}

/-- **What goes to the registry in a turn**: nothing, or the request that it was given, on the
stream that carries traffic. Then the connection stays in shape. -/
theorem hands (site : Site) (ht : b.conn.Takes b.input) :
    (b.turn site).dispatched = [] ∨ ∃ link m, b.input = .event (.received link.id m) ∧
      b.conn.activeLink? = some link ∧ m.header.isRequest ∧
      (b.turn site).dispatched = [(link.id, m)] ∧
      (b.turn site).conn.shape = b.begun.conn.shape := by
  cases hi : b.input with
  | event e =>
    rw [turn_event hi]
    rcases b.begun.dispatched_handle site e with hd | ⟨side, l, m, rfl, hm, hr, hd, hs⟩
    · exact .inl hd
    · obtain ⟨link, hl, rfl⟩ := Connection.link?_of_sideOf? hm.attached
      have ha : b.begun.conn.activeLink? = some link := by
        simp [Connection.activeLink?, hm.active, hl]
      rw [conn_begun hi] at ha
      exact .inr ⟨link, m, rfl, ha, hr, hd, hs⟩
  | written result =>
    rw [hi] at ht
    cases ht with
    | written hw =>
      rw [turn_written hi hw]
      exact .inl (Turn.dispatched_settle site _ _ _ result)

end Beat

end Diameter
