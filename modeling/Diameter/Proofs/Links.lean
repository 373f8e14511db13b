import Diameter.Proofs.Foreign
import Diameter.Proofs.Sight

/-!
Which streams a connection has in which phase, and whether it waits for a dial.

`Shape.Fits` is the table. A connection that is not writing fits it, since its stage does. A dial
that was begun is waited for until its outcome is reported (`Course.countP_dial`), provided
that the surroundings behave (`Public`).
-/

namespace Diameter

/-! ### The table -/

/-- What a phase has of streams and of the dial, and for how long a CEA is kept. -/
structure Shape.Fits (x : Shape) : Prop where
  links : match x.phase with
    | .closed => x.initiator = none ∧ x.responder = none ∧ x.dialing = false
    | .waitConnAck => x.initiator = none ∧ x.responder = none ∧ x.dialing = true
    | .waitConnAckElect => x.initiator = none ∧ x.responder.isSome ∧ x.dialing = true
    | .waitICea => x.initiator.isSome ∧ x.responder = none ∧ x.dialing = false
    | .waitReturns => x.initiator.isSome ∧ x.responder.isSome ∧ x.dialing = false
    | .waitCer | .rOpen => x.initiator = none ∧ x.responder.isSome ∧ x.dialing = false
    | .iOpen => x.initiator.isSome ∧ x.responder = none ∧ x.dialing = false
    | .closing => (x.initiator.isSome ^^ x.responder.isSome) ∧ x.dialing = false
    | .shutdown => x.initiator = none ∧ x.responder = none ∧ x.dialing = false
  cachedCea : x.phase ≠ .shutdown →
    (x.cachedCea.isSome ↔ x.phase = .waitConnAckElect ∨ x.phase = .waitReturns)
  cachedPeer : x.phase ≠ .shutdown →
    (x.cachedPeer.isSome ↔ x.phase = .waitConnAckElect ∨ x.phase = .waitReturns)

lemma Stage.fits {expected : Option String} {n : Nat} {s : Stage}
    (hw : (s.shape expected n).writing = none) : (s.shape expected n).Fits := by
  cases s with
  | dialing rival =>
    cases rival <;> constructor <;> simp [Stage.shape, Stage.phase]
  | running closing side link peer w =>
    cases closing <;> cases side <;> constructor <;> simp [Stage.shape, Stage.phase]
  | introducing | turningAway | accepting | rejecting => exact absurd hw (by simp [Stage.shape])
  | _ => constructor <;> simp [Stage.shape, Stage.phase]

/-! ### Phases in a row -/

/-- The phase that an effect shows. -/
def Effect.phase? : Effect → Option Phase
  | .showPhase p => some p
  | _ => none

lemma Sight.Lawful.isChain {v : Sight} {es : List Effect} (h : v.Lawful es) :
    List.IsChain (fun p q => q ∈ Phase.next p) (v.phase :: es.filterMap Effect.phase?) ∧
      (v.phase :: es.filterMap Effect.phase?).getLast? = some (v.seeAll es).phase := by
  induction es generalizing v with
  | nil => exact ⟨.singleton _, rfl⟩
  | cons e es ih =>
    obtain ⟨he, h⟩ := h
    obtain ⟨hc, hl⟩ := ih h
    cases e with
    | showPhase p =>
      refine ⟨.cons_cons he.1 hc, ?_⟩
      rw [List.filterMap_cons_some (by rfl), List.getLast?_cons_cons]
      exact hl
    | _ => exact ⟨hc, hl⟩

/-! ### Dials and their outcomes -/

def Effect.isDial : Effect → Bool
  | .dial => true
  | _ => false

/-- The input is the outcome of a dial. -/
def Input.isReport : Input → Bool
  | .event e => e.isReport
  | .written _ => false

/-- After these turns the surroundings may bring the event: what a connection is begun with and
the election are no events from outside, a dial has one outcome, and whoever reads from a stream
knows nothing of phases. -/
def Event.MayCome (site : Site) (bs : List Beat) : Event → Prop
  | .start | .accepted _ | .wonElection => False
  | .dialed _ | .dialFailed _ =>
    bs.countP (·.input.isReport) < (Beat.effectsOf site bs).countP Effect.isDial
  | .receivedInvalid _ _ e | .disconnected _ e => e.IsForeign
  | _ => True

/-- The turn is given what the surroundings may bring. -/
def Beat.IsPublic (site : Site) (bs : List Beat) (b : Beat) : Prop :=
  match b.input with
  | .event e => b.conn.internal = [] → e.MayCome site bs
  | .written result => ∀ e, result = some e → e.IsForeign

/-- All turns are given what the surroundings may bring. -/
def Public (site : Site) (bs : List Beat) : Prop :=
  ∀ as b ds, bs = as ++ b :: ds → b.IsPublic site as

variable {site : Site} {expected : Option String} {first : Event} {bs : List Beat} {b : Beat}
  {c : Connection} {n n' : Nat} {s s' : Stage} {i : Input} {out : List Effect}

lemma Public.nil : Public site [] := by
  intro as b ds h
  simp at h

lemma Public.concat (h : Public site bs) (hb : b.IsPublic site bs) : Public site (bs ++ [b]) := by
  intro as d ds hl
  rcases split_concat hl with ⟨rfl, rfl, -⟩ | ⟨es, -, rfl⟩
  · exact hb
  · exact h as d es rfl

lemma Public.init (h : Public site (bs ++ [b])) : Public site bs := by
  rintro as d ds rfl
  exact h as d (ds ++ [b]) (by simp)

lemma Public.last (h : Public site (bs ++ [b])) : b.IsPublic site bs := h bs b [] rfl

/-- A connection waits for the dial. -/
def Stage.isDialing : Stage → Bool
  | dialing _ | turningAway none _ _ _ _ => true
  | _ => false

@[simp] lemma Stage.dialing_shape (expected : Option String) (n : Nat) (s : Stage) :
    (s.shape expected n).dialing = s.isDialing := by
  rcases s with _ | _ | _ | _ | ⟨_ | _⟩ | _ | _ | _ | _ | ⟨_, _ | _⟩ | _ <;> rfl

/-- A turn begins a dial exactly if it is waited for afterwards, and takes a report exactly if one
was waited for. -/
lemma Next.countP_dial (h : Next site expected n s i out n' s') (hs : s'.phase ≠ .shutdown)
    (hi : i.isReport → s.isDialing) :
    out.countP Effect.isDial + s.isDialing.toNat = s'.isDialing.toNat + i.isReport.toNat := by
  have quiet : ∀ {e : Event} {s : Stage}, (e.isReport → s.isDialing) →
      (e.isReport → (s.shape expected n).dialing = false) → e.isReport = false := by
    intro e s hi hr
    rw [Stage.dialing_shape] at hr
    by_contra he
    have he : e.isReport = true := by simpa using he
    exact absurd (hi he) (by simp [hr he])
  cases h with
  | stay hr => simp [Input.isReport, quiet hi hr]
  | refuse hr => simp [Effect.isDial, Input.isReport, quiet hi hr]
  | fall => exact absurd rfl hs
  | rejectAwaited | write =>
    simp only [Stage.isDialing, Bool.false_eq_true, imp_false, Bool.not_eq_true] at hi
    simp [Stage.isDialing, hi]
  | @turnAway j | @turnAwayUnanswered j | @turnedAway j =>
    cases j <;> simp [Effect.isDial, Stage.alone, Stage.isDialing, Input.isReport, Event.isReport]
  | _ => simp [Effect.isDial, Stage.isDialing, Input.isReport, Event.isReport]

lemma Beat.IsPublic.event (h : b.IsPublic site bs) (ht : b.conn.Takes b.input)
    (hc : b.conn.shape = s.shape expected n) (hs : s.Sound) {e : Event}
    (he : b.input = .event e) :
    s = .closed e ∧ e.IsOpening ∨ (∃ i x, s = .electing i x true ∧ e = .wonElection) ∨
      e.MayCome site bs := by
  rw [Beat.IsPublic, he] at h
  rw [he] at ht
  have hi : b.conn.internal = (s.shape expected n).internal := congrArg Shape.internal hc
  cases ht with
  | internal _ hl =>
    have hm : e ∈ (s.shape expected n).internal := by rw [← hi, hl]; exact List.mem_cons_self
    rcases Stage.mem_internal hm with rfl | hw
    · exact .inl ⟨rfl, hs⟩
    · exact .inr (.inl hw)
  | queued _ hn => exact .inr (.inr (h hn))

/-- A dial that was begun has been reported, or is waited for. -/
lemma Course.countP_dial (h : Course site expected first bs n s) (hp : Public site bs)
    (hf : first.IsOpening) (hs : s.phase ≠ .shutdown) :
    (Beat.effectsOf site bs).countP Effect.isDial =
      bs.countP (·.input.isReport) + s.isDialing.toNat := by
  induction h with
  | nil => rfl
  | @turn bs n s b n' s' h hc ht hn hs' ih =>
    -- as it is not shut now, it was not before, for that is final
    have hsh : s.phase ≠ .shutdown := by
      intro hd
      obtain ⟨hl, hv⟩ := hn.lawful (h.sound hf)
      have := hl.eq_shutdown hd
      rw [hv] at this
      exact hs this
    have ih := ih hp.init hsh
    have ho : (b.turn site).effects.countP Effect.isDial =
        (b.turn site).outline.countP Effect.isDial := by
      rw [Turn.outline, List.countP_filter]
      refine List.countP_congr fun e _ => ?_
      cases e <;> simp [Effect.isDial, Effect.isStructural]
    -- a report comes only while a dial is outstanding, as there are no more reports than dials
    have hr : b.input.isReport → s.isDialing := by
      intro hr
      cases hi : b.input with
      | written result => exact absurd hr (by simp [hi, Input.isReport])
      | event e =>
        have he : e.isReport := by rwa [hi] at hr
        have hm : e.MayCome site bs := by
          rcases hp.last.event ht hc (h.sound hf) hi with ⟨-, ho⟩ | ⟨_, _, -, rfl⟩ | hm
          · cases e <;> first | exact ho.elim | exact absurd he (by simp [Event.isReport])
          · exact absurd he (by simp [Event.isReport])
          · exact hm
        have hlt : bs.countP (·.input.isReport) <
            (Beat.effectsOf site bs).countP Effect.isDial := by
          cases e <;> first | exact hm | exact absurd he (by simp [Event.isReport])
        by_contra hd
        simp only [Bool.not_eq_true] at hd
        rw [ih, hd] at hlt
        exact absurd hlt (Nat.lt_irrefl _)
    have hd := hn.countP_dial hs hr
    have hb : (if b.input.isReport = true then 1 else 0) = b.input.isReport.toNat := by
      cases b.input.isReport <;> rfl
    rw [Beat.effectsOf_append, Beat.effectsOf_singleton, List.countP_append, List.countP_append,
      List.countP_singleton, ho, hb]
    omega

end Diameter
