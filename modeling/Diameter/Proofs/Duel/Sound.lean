import Diameter.Proofs.Duel.Stands

/-!
What is on a stream between two ends that dial each other, given the stages that they are in.

`Duel.Sound` is about one stream, its dialer and the other end. Whatever either end does keeps
it, and there are few ways for an end to matter to a stream: it may call, hear of the stream, hold
on to it, answer on it, read the answer, or drop it.
-/

namespace Diameter

/-- One message of a kind, if so, and else none. -/
def Carries (P : Message → Prop) (b : Bool) (ms : List Message) : Prop :=
  if b then ∃ m, P m ∧ ms = [m] else ms = []

namespace Carries

variable {P : Message → Prop} {b : Bool} {m : Message} {ms : List Message}

lemma of_cons (h : Carries P b (m :: ms)) : b = true ∧ P m ∧ ms = [] := by
  cases b with
  | false => cases h
  | true =>
    obtain ⟨k, hk, hm⟩ := h
    obtain ⟨rfl, rfl⟩ := List.cons.inj hm
    exact ⟨rfl, hk, rfl⟩

lemma append (h : Carries P false ms) (hm : P m) : Carries P true (ms ++ [m]) := by
  obtain rfl : ms = [] := h
  exact ⟨m, hm, rfl⟩

lemma tail (h : Carries P b ms) : Carries P false ms.tail := by
  cases b with
  | false =>
    obtain rfl : ms = [] := h
    rfl
  | true =>
    obtain ⟨m, -, rfl⟩ := h
    rfl

end Carries

namespace Wire

variable {w : Wire} {p : Party} {stream : Nat} {t : Turn} {m : Message}

lemma after_of_silent (hs : t.writes? stream = none) (hc : t.closes stream = false) :
    w.after p stream t = w := by
  simp [after, hs, hc]

lemma after_of_writes (hs : t.writes? stream = some m) (hc : t.closes stream = false) :
    w.after p stream t = w.put p.other m := by
  simp [after, hs, hc]

lemma after_of_closes (hs : t.writes? stream = none) (hc : t.closes stream = true) :
    w.after p stream t = w.leave p := by
  simp [after, hs, hc]

/-- What handing over the CER may cost. -/
def due (w : Wire) : Nat := if w.handed then 0 else 2

@[simp] lemma due_after : (w.after p stream t).due = w.due := by
  unfold after due
  cases t.writes? stream <;> cases t.closes stream <;> rfl

@[simp] lemma due_take : (w.take p).due = w.due := rfl

@[simp] lemma due_hand : (w.hand p).due = 0 := rfl

end Wire

namespace Duel

variable (d : Duel)

/-- What is on the stream that an end dialed, given its own stage and that of the other end. The
CER is on its way until it is handed over, and the winner of the election then holds on to the
stream. Its CEA is on its way once it has settled, until the loser has settled too. Only the
stream that the winner dialed is ever dropped. -/
structure Sound (p : Party) (own far : Stage) (w : Wire) : Prop where
  cer : Carries (d.IsCer p) (own.called && !w.handed) (w.toward p.other)
  cea : Carries (d.IsCea p.other) (!d.wins p && !own.settled && far.settled) (w.toward p)
  called : w.handed → own.called
  handed : far.courted → w.handed
  courted : d.wins p.other → w.handed → far.courted
  settled : d.wins p = false → own.settled → far.settled
  left : ∀ q, w.left q → d.wins p ∧ own.settled

variable {d} {p : Party} {a a' b b' : Stage} {w : Wire} {m : Message}

namespace Sound

lemma start (p : Party) : d.Sound p (.closed .start) (.closed .start) {} := by
  constructor <;> simp [Stage.called, Stage.courted, Stage.settled, Stage.rival?, Carries]

/-! ### The dialer -/

lemma own_same (h : d.Sound p a b w) (hc : a'.called = a.called) (hs : a'.settled = a.settled) :
    d.Sound p a' b w :=
  ⟨hc ▸ h.cer, hs ▸ h.cea, hc ▸ h.called, h.handed, h.courted, hs ▸ h.settled, hs ▸ h.left⟩

lemma own_calls (h : d.Sound p a b w) (hm : d.IsCer p m) (hc : a.called = false)
    (hc' : a'.called = true) (hs : a'.settled = a.settled) :
    d.Sound p a' b (w.put p.other m) := by
  have hn : w.handed = false := by
    by_contra hn
    have := h.called (by simpa using hn)
    simp [hc] at this
  have hcer := h.cer
  rw [hc, Bool.false_and] at hcer
  refine ⟨?_, ?_, fun _ => hc', h.handed, h.courted, hs ▸ h.settled, hs ▸ h.left⟩
  · simpa [Wire.put, hc', hn] using hcer.append hm
  · simpa [Wire.put, hs] using h.cea

lemma own_leaves (h : d.Sound p a b w) (hw : d.wins p) (hc : a'.called = a.called)
    (hs : a'.settled = true) : d.Sound p a' b (w.leave p) := by
  refine ⟨hc ▸ h.cer, ?_, hc ▸ h.called, h.handed, h.courted, fun _ => ?_, fun _ _ => ⟨hw, hs⟩⟩
  · have := h.cea
    simp only [hw, Bool.not_true, Bool.false_and] at this ⊢
    exact this
  · simp_all

lemma own_opens (h : d.Sound p a b w) (hb : b.settled) (hc : a'.called = a.called)
    (hs : a'.settled = true) (hw : d.wins p = false) : d.Sound p a' b (w.take p) := by
  refine ⟨?_, ?_, hc ▸ h.called, h.handed, h.courted, fun _ _ => hb, ?_⟩
  · simpa [Wire.take, hc] using h.cer
  · simpa [Wire.take, hs] using h.cea.tail
  · intro q hl
    exact absurd (h.left q hl).1 (by simp [hw])

/-! ### The other end -/

lemma far_same (h : d.Sound p a b w) (hc : b'.courted = b.courted) (hs : b'.settled = b.settled) :
    d.Sound p a b' w :=
  ⟨h.cer, hs ▸ h.cea, h.called, hc ▸ h.handed, hc ▸ h.courted, hs ▸ h.settled, h.left⟩

lemma far_courted (h : d.Sound p a b w) (ha : a.called) (hc : b'.courted = true)
    (hs : b'.settled = b.settled) : d.Sound p a b' (w.hand p.other) := by
  refine ⟨?_, ?_, fun _ => ha, fun _ => rfl, fun _ _ => hc, hs ▸ h.settled, h.left⟩
  · simpa [Wire.hand, Wire.take] using h.cer.tail
  · simpa [Wire.hand, Wire.take, hs] using h.cea

lemma far_yields (h : d.Sound p a b w) (hw : d.wins p) (ho : d.wins p.other = false)
    (hc : b'.courted → b.courted) : d.Sound p a b' w := by
  refine ⟨h.cer, ?_, h.called, fun hb => h.handed (hc hb), ?_, ?_, h.left⟩
  · have := h.cea
    simp only [hw, Bool.not_true, Bool.false_and] at this ⊢
    exact this
  · simp [ho]
  · simp [hw]

lemma far_leaves (h : d.Sound p a b w) (hw : d.wins p) (ha : a.settled) :
    d.Sound p a b (w.leave p.other) :=
  ⟨h.cer, h.cea, h.called, h.handed, h.courted, h.settled, fun _ _ => ⟨hw, ha⟩⟩

lemma far_refuses (h : d.Sound p a b w) (hc : a.called) (hw : d.wins p)
    (ho : d.wins p.other = false) (ha : a.settled) :
    d.Sound p a b ((w.hand p.other).leave p.other) := by
  refine far_leaves ⟨?_, ?_, fun _ => hc, fun _ => rfl, ?_, h.settled, h.left⟩ hw ha
  · simpa [Wire.hand, Wire.take] using h.cer.tail
  · simpa [Wire.hand, Wire.take] using h.cea
  · simp [ho]

lemma far_answers (h : d.Sound p a b w) (hm : d.IsCea p.other m) (hw : d.wins p = false)
    (hc : b'.courted = b.courted) (hb : b.settled = false) (hs : b'.settled = true) :
    d.Sound p a b' (w.put p m) := by
  have ha : a.settled = false := by
    by_contra ha
    have := h.settled hw (by simpa using ha)
    simp [hb] at this
  have hcea := h.cea
  rw [hb, Bool.and_false] at hcea
  refine ⟨?_, ?_, h.called, hc ▸ h.handed, hc ▸ h.courted, fun _ _ => hs, h.left⟩
  · simpa [Wire.put] using h.cer
  · simpa [Wire.put, hw, ha, hs] using hcea.append hm

end Sound

end Duel

end Diameter
