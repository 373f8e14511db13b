import Diameter.Proofs.Run

/-!
What an onlooker sees of a connection: its phase, and whom it is bound to.

A turn shows each change as it makes it. `Sight.Lawful` says which changes may follow each other;
everything a run shows is lawful (`Connection.Run.lawful`), and what was seen last is how the
connection is.
-/

namespace Diameter

/-- The ways between the phases. -/
def Phase.next : Phase → List Phase
  | closed => [waitConnAck, waitCer, rOpen, shutdown]
  | waitConnAck => [waitICea, waitConnAckElect, shutdown]
  | waitICea => [waitReturns, iOpen, shutdown]
  | waitConnAckElect => [waitConnAck, waitReturns, rOpen, shutdown]
  | waitReturns => [waitICea, rOpen, iOpen, shutdown]
  | waitCer => [rOpen, shutdown]
  | rOpen => [closing, shutdown]
  | iOpen => [closing, shutdown]
  | closing => [shutdown]
  | shutdown => []

lemma Phase.shutdown_mem_next {p : Phase} (hp : p ≠ .shutdown) : .shutdown ∈ p.next := by
  cases p <;> first | exact absurd rfl hp | decide

/-- What has been seen last of a connection. -/
structure Sight where
  phase : Phase := .closed
  peer : Option PeerIdentity := none

/-- The effect shows an open phase. -/
def Effect.showsOpen : Effect → Bool
  | .showPhase p => p.isOpen
  | _ => false

namespace Sight

def see (v : Sight) : Effect → Sight
  | .showPhase p => { v with phase := p }
  | .showPeer q => { v with peer := some q }
  | _ => v

/-- What is seen last once all effects are there. -/
def seeAll (v : Sight) (es : List Effect) : Sight := es.foldl see v

/-- The effect may come next: phases follow each other as they should, no connection opens
before it is bound, and none is bound twice. -/
def Allows (v : Sight) : Effect → Prop
  | .showPhase p => p ∈ v.phase.next ∧ (p.isOpen → v.peer.isSome)
  | .showPeer _ => v.peer = none
  | _ => True

def Lawful : Sight → List Effect → Prop
  | _, [] => True
  | v, e :: es => v.Allows e ∧ Lawful (v.see e) es

variable {v : Sight} {es ds : List Effect}

@[simp] lemma seeAll_nil : v.seeAll [] = v := rfl

@[simp] lemma seeAll_cons (e : Effect) : v.seeAll (e :: es) = (v.see e).seeAll es := rfl

@[simp] lemma seeAll_append : v.seeAll (es ++ ds) = (v.seeAll es).seeAll ds :=
  List.foldl_append

lemma lawful_append : v.Lawful (es ++ ds) ↔ v.Lawful es ∧ (v.seeAll es).Lawful ds := by
  induction es generalizing v with
  | nil => simp [Lawful]
  | cons e es ih => simp only [List.cons_append, Lawful, ih, seeAll_cons, and_assoc]

lemma lawful_filter : v.Lawful (es.filter Effect.isShow) ↔ v.Lawful es := by
  induction es generalizing v with
  | nil => rfl
  | cons e es ih => cases e <;> simp [List.filter_cons, Effect.isShow, Lawful, Allows, see, ih]

lemma seeAll_filter : v.seeAll (es.filter Effect.isShow) = v.seeAll es := by
  induction es generalizing v with
  | nil => rfl
  | cons e es ih => cases e <;> simp [List.filter_cons, Effect.isShow, see, ih]

lemma showPhase_mem (h : (v.seeAll es).phase ≠ v.phase) : .showPhase (v.seeAll es).phase ∈ es := by
  induction es generalizing v with
  | nil => exact absurd rfl h
  | cons e es ih =>
    by_cases hp : ((v.see e).seeAll es).phase = (v.see e).phase
    · cases e with
      | showPhase p =>
        have hs : (v.seeAll (.showPhase p :: es)).phase = p := hp
        rw [hs]
        exact List.mem_cons_self
      | _ => exact absurd hp h
    · exact List.mem_cons_of_mem e (ih hp)

/-! ### What lawfulness is good for -/

lemma Lawful.peer_eq (h : v.Lawful es) {q : PeerIdentity} (hq : v.peer = some q) :
    (v.seeAll es).peer = some q := by
  induction es generalizing v with
  | nil => exact hq
  | cons e es ih =>
    obtain ⟨he, h⟩ := h
    refine ih h ?_
    cases e with
    | showPeer _ => exact absurd (he.symm.trans hq) (by simp)
    | _ => exact hq

lemma Lawful.isSome_of_isOpen (h : v.Lawful es) (hv : v.phase.isOpen → v.peer.isSome) :
    (v.seeAll es).phase.isOpen → (v.seeAll es).peer.isSome := by
  induction es generalizing v with
  | nil => exact hv
  | cons e es ih =>
    obtain ⟨he, h⟩ := h
    refine ih h ?_
    cases e with
    | showPhase p => exact he.2
    | showPeer q => exact fun _ => rfl
    | _ => exact hv

lemma Lawful.eq_shutdown (h : v.Lawful es) (hv : v.phase = .shutdown) :
    (v.seeAll es).phase = .shutdown := by
  induction es generalizing v with
  | nil => exact hv
  | cons e es ih =>
    obtain ⟨he, h⟩ := h
    refine ih h ?_
    cases e with
    | showPhase p =>
      have hp : p ∈ v.phase.next := he.1
      rw [hv] at hp
      exact absurd hp (List.not_mem_nil)
    | _ => exact hv

lemma Lawful.phase_of_mem (h : v.Lawful es) (hm : .showPhase .shutdown ∈ es) :
    (v.seeAll es).phase = .shutdown := by
  obtain ⟨as, ds, rfl⟩ := List.append_of_mem hm
  obtain ⟨-, -, hd⟩ := lawful_append.mp h
  rw [seeAll_append]
  exact hd.eq_shutdown rfl

lemma Lawful.countP_eq_zero (h : v.Lawful es)
    (hv : v.phase ∈ [.rOpen, .iOpen, .closing, .shutdown]) : es.countP Effect.showsOpen = 0 := by
  induction es generalizing v with
  | nil => rfl
  | cons e es ih =>
    obtain ⟨he, h⟩ := h
    cases e with
    | showPhase p =>
      have hp : p = .closing ∨ p = .shutdown := by
        have hp : p ∈ v.phase.next := he.1
        simp only [List.mem_cons, List.not_mem_nil, or_false] at hv
        rcases hv with hv | hv | hv | hv <;> rw [hv] at hp <;> simp [Phase.next] at hp <;>
          simp [hp]
      have hz := ih h (by rcases hp with rfl | rfl <;> simp [see])
      rcases hp with rfl | rfl <;> simpa [Effect.showsOpen, Phase.isOpen] using hz
    | _ => simpa [Effect.showsOpen] using ih h hv

lemma Lawful.countP_le_one (h : v.Lawful es) : es.countP Effect.showsOpen ≤ 1 := by
  induction es generalizing v with
  | nil => exact Nat.zero_le 1
  | cons e es ih =>
    obtain ⟨-, h⟩ := h
    by_cases ho : e.showsOpen
    · have hz : es.countP Effect.showsOpen = 0 := by
        refine h.countP_eq_zero ?_
        cases e with
        | showPhase p => cases p <;> simp_all [Effect.showsOpen, Phase.isOpen, see]
        | _ => exact absurd ho (by simp [Effect.showsOpen])
      have hc : (e :: es).countP Effect.showsOpen = es.countP Effect.showsOpen + 1 :=
        List.countP_cons_of_pos ho
      omega
    · rw [List.countP_cons_of_neg ho]
      exact ih h

end Sight

/-! ### Runs -/

/-- What an onlooker sees of a stage. -/
def Stage.sight (s : Stage) : Sight := ⟨s.phase, s.peer?⟩

lemma filter_isShow_isStructural (es : List Effect) :
    (es.filter Effect.isStructural).filter Effect.isShow = es.filter Effect.isShow := by
  rw [List.filter_filter]
  refine List.filter_congr fun e _ => ?_
  cases e <;> rfl

variable {site : Site} {expected : Option String} {first : Event} {bs : List Beat}
  {c : Connection} {n n' : Nat} {s s' : Stage} {i : Input} {out : List Effect}

/-- Every way between stages shows what is lawful, and shows all of it. -/
lemma Next.lawful (h : Next site expected n s i out n' s') (hs : s.Sound) :
    s.sight.Lawful out ∧ s.sight.seeAll out = s'.sight := by
  cases h with
  | fall hp ho =>
    rw [← Sight.lawful_filter, ← Sight.seeAll_filter, ho]
    exact ⟨⟨⟨Phase.shutdown_mem_next hp, by simp [Phase.isOpen]⟩, trivial⟩, rfl⟩
  | stay => exact ⟨trivial, rfl⟩
  | refuse => exact ⟨⟨trivial, trivial⟩, rfl⟩
  | @accepted p =>
    have hp : p ∈ [Phase.closed, Phase.waitCer, Phase.waitConnAckElect, Phase.waitReturns] := hs
    simp only [List.mem_cons, List.not_mem_nil, or_false] at hp
    rcases hp with rfl | rfl | rfl | rfl <;>
      simp [Sight.Lawful, Sight.Allows, Sight.see, Stage.sight, Stage.phase, Stage.peer?,
        Phase.next]
  | @part side | @partAndFall side =>
    cases side <;>
      simp [Sight.Lawful, Sight.Allows, Sight.see, Stage.sight, Stage.phase, Stage.peer?,
        Phase.next, Phase.isOpen]
  | @introduce rival => cases rival <;> exact ⟨⟨trivial, trivial⟩, rfl⟩
  | @turnAway i => cases i <;> exact ⟨⟨trivial, trivial⟩, rfl⟩
  | @turnedAway i => cases i <;> exact ⟨⟨trivial, trivial⟩, rfl⟩
  | @write closing side => cases closing <;> cases side <;> exact ⟨trivial, rfl⟩
  | @written closing side => cases closing <;> cases side <;> exact ⟨trivial, rfl⟩
  | _ =>
    simp [Sight.Lawful, Sight.Allows, Sight.see, Stage.sight, Stage.phase, Stage.peer?,
      Phase.next, Phase.isOpen]

/-- All that a course shows is lawful, and what is seen last is the stage. -/
lemma Course.lawful (h : Course site expected first bs n s) (hf : first.IsOpening) :
    ({} : Sight).Lawful (Beat.effectsOf site bs) ∧
      ({} : Sight).seeAll (Beat.effectsOf site bs) = s.sight := by
  induction h with
  | nil => exact ⟨trivial, rfl⟩
  | @turn bs _ s b _ s' h _ _ hn _ ih =>
    obtain ⟨hl, hv⟩ := ih
    obtain ⟨hl', hv'⟩ := hn.lawful (h.sound hf)
    rw [Turn.outline, ← Sight.lawful_filter, filter_isShow_isStructural, Sight.lawful_filter] at hl'
    rw [Turn.outline, ← Sight.seeAll_filter, filter_isShow_isStructural, Sight.seeAll_filter] at hv'
    rw [Beat.effectsOf_append, Beat.effectsOf_singleton, Sight.lawful_append, Sight.seeAll_append,
      hv]
    exact ⟨⟨hl, hl'⟩, hv'⟩

namespace Connection.Run

/-- **What a run shows is lawful.** The phases follow each other as they should, the connection
is bound before it opens and bound once, and an onlooker sees it as it is. -/
theorem lawful (h : Run site (fresh expected first) bs c) (hf : first.IsOpening) :
    ({} : Sight).Lawful (Beat.effectsOf site bs) ∧
      ({} : Sight).seeAll (Beat.effectsOf site bs) = ⟨c.phase, c.identity⟩ := by
  obtain ⟨n, s, hs, hc⟩ := h.course hf
  obtain ⟨hl, hv⟩ := hs.lawful hf
  have hp : c.phase = s.phase := Stage.phase_of_shape hc
  have hi : c.identity = s.peer? := (congrArg Shape.identity hc).trans (Stage.identity_shape _ _ _)
  exact ⟨hl, by rw [hv, hp, hi]; rfl⟩

end Connection.Run

end Diameter
