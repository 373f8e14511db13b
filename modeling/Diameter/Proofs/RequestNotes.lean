import Diameter.Proofs.Pending
import Diameter.Proofs.PendingTurns

/-!
What is noted of a request between the time it is handled and the next request with its
hop-by-hop identifier.

The notes with an identifier tell a story: the request was sent, and then it was answered or has
timed out. A connection knows how the story goes on from its table and from the request on
its way (`Chapter`). Main statement: `Connection.Run.story`.
-/

namespace Diameter

/-- The identifier of the request that a note is about. -/
def Note.hopByHop? : Note → Option UInt32
  | .sent _ _ k _ | .answered _ k _ _ | .timedOut _ k => some k
  | _ => none

/-- A note about a request with this identifier. -/
def Effect.news? (k : UInt32) : Effect → Option Note
  | .note n => if n.hopByHop? = some k then some n else none
  | _ => none

namespace Beat

/-- What is noted in the turns of requests with an identifier. -/
def newsOf (site : Site) (k : UInt32) (bs : List Beat) : List Note :=
  (effectsOf site bs).filterMap (Effect.news? k)

/-- A request with this identifier is handled. -/
def Sends (k : UInt32) (b : Beat) : Prop :=
  ∃ j m, b.input = .event (.send j m) ∧ m.header.hopByHop = k

end Beat

/-- What is noted of a request, in order. -/
inductive Story (k command : UInt32) : List Note → Prop
  | silent : Story k command []
  | sent (application : UInt32) (again : Bool) :
    Story k command [.sent command application k again]
  | answered (application : UInt32) (again : Bool) (result : Option UInt32) (elapsed : Nat) :
    Story k command [.sent command application k again, .answered command k result elapsed]
  | timedOut (application : UInt32) (again : Bool) :
    Story k command [.sent command application k again, .timedOut command k]

/-- How far a story has come, given the table and the request on its way. -/
inductive Chapter (k command : UInt32) : List Note → Pending → Option Header → Prop
  /-- The request is on its way. -/
  | writing {p h} (hk : h.hopByHop = k) (hc : h.command = command)
    (hp : ∀ x, p.find? k = some x → x.header.command = command) :
    Chapter k command [] p (some h)
  /-- The request waits for its answer. -/
  | waiting {p o} (application : UInt32) (again : Bool)
    (hp : ∀ x, p.find? k = some x → x.header.command = command)
    (ho : ∀ h, o = some h → h.hopByHop ≠ k) :
    Chapter k command [.sent command application k again] p o
  | told {ns p o} (hs : Story k command ns) (hp : p.find? k = none)
    (ho : ∀ h, o = some h → h.hopByHop ≠ k) : Chapter k command ns p o

variable {site : Site} {k command : UInt32} {ns : List Note} {p : Pending} {o : Option Header}
  {c c₀ : Connection} {i : Input} {l : List Effect} {bs ds : List Beat} {b : Beat}

lemma Chapter.story (h : Chapter k command ns p o) : Story k command ns := by
  cases h with
  | writing => exact .silent
  | waiting application again => exact .sent application again
  | told hs => exact hs

@[simp] lemma Effect.news?_complete (c : Completion) : Effect.news? k (.complete c) = none := rfl

@[simp] lemma Effect.news?_abandon (w : Nat) : Effect.news? k (.abandon w) = none := rfl

lemma Effect.news?_note (n : Note) :
    Effect.news? k (.note n) = if n.hopByHop? = some k then some n else none := rfl

lemma Turn.filterMap_news?_ledger (t : Turn) :
    t.ledger.filterMap (Effect.news? k) = t.effects.filterMap (Effect.news? k) := by
  refine t.filterMap_ledger fun e he => ?_
  cases e with
  | note n => cases n <;> first | rfl | exact absurd he (by simp [Effect.news?, Note.hopByHop?])
  | _ => exact absurd he (by simp [Effect.news?])

lemma Chapter.enter (h : Chapter k command ns p none) {x : Exchange} {g : Header}
    (hx : x.key ≠ k) (hg : g.hopByHop ≠ k) :
    Chapter k command ns (p.insert x).2 (some g) := by
  have hf : (p.insert x).2.find? k = p.find? k := Pending.find?_insert hx.symm
  have hn : ∀ h, some g = some h → h.hopByHop ≠ k := by
    rintro _ ⟨⟩
    exact hg
  cases h with
  | waiting application again hp _ => exact .waiting application again (hf ▸ hp) hn
  | told hs hp _ => exact .told hs (hf.trans hp) hn

lemma Chapter.conclude (h : Chapter k command ns p none) {j : UInt32} {x : Exchange} {m : Message}
    {n : Note} (hx : p.find? j = some x) (hn : n.hopByHop? = some j)
    (hs : ∀ application again, x.header.command = command → j = k →
      Story k command [.sent command application k again, n]) (w : Nat) :
    Chapter k command (ns ++ [.complete ⟨w, m⟩, .note n].filterMap (Effect.news? k)) (p.erase j)
      none := by
  have hl : [.complete ⟨w, m⟩, .note n].filterMap (Effect.news? k) =
      if j = k then [n] else [] := by
    by_cases hj : j = k <;> simp [List.filterMap_cons, Effect.news?_note, hn, hj]
  rw [hl]
  by_cases hj : j = k
  · subst hj
    rw [if_pos rfl]
    cases h with
    | waiting application again hp _ =>
      exact .told (hs application again (hp x hx) rfl) Pending.find?_erase_self (by simp)
    | told _ hp _ =>
      rw [hp] at hx
      cases hx
  · have hf : (p.erase j).find? k = p.find? k := Pending.find?_erase (Ne.symm hj)
    rw [if_neg hj, List.append_nil]
    cases h with
    | waiting application again hp _ => exact .waiting application again (hf ▸ hp) (by simp)
    | told hs hp _ => exact .told hs (hf.trans hp) (by simp)

lemma Chapter.clear (h : Chapter k command ns p o) : Chapter k command ns {} none :=
  .told h.story Pending.find?_empty (by simp)

/-- One turn tells the next part of a story, unless it handles a request with the identifier. -/
lemma Chapter.trade (h : Chapter k command ns c.pending c.outgoing?)
    (ht : Trade site c i l p o) (hi : ∀ e, i = .event e → c.outgoing? = none)
    (hk : ∀ j m, i = .event (.send j m) → m.header.hopByHop ≠ k) :
    Chapter k command (ns ++ l.filterMap (Effect.news? k)) p o := by
  cases ht with
  | idle _ ho =>
    rw [ho] at h
    simpa using h
  | drained _ =>
    simpa [Function.comp_def] using h.clear
  | refused =>
    rw [hi _ rfl] at h
    simpa [List.filterMap_cons] using h
  | @entered j m now =>
    rw [hi _ rfl] at h
    have he : Chapter k command ns _ _ :=
      h.enter (x := .ofRequest j m now) (hk j m rfl) (hk j m rfl)
    simpa [Function.comp_def] using he
  | lost now =>
    simpa [Function.comp_def] using h.clear
  | @sent g ho =>
    rw [ho] at h
    have hl : [Effect.note (.sent g.command g.application g.hopByHop g.isRetransmit)].filterMap
        (Effect.news? k) = if g.hopByHop = k then
          [.sent g.command g.application g.hopByHop g.isRetransmit] else [] := by
      by_cases hg : g.hopByHop = k <;> simp [Effect.news?_note, Note.hopByHop?, hg]
    rw [hl]
    cases h with
    | writing hgk hc hp =>
      subst hgk hc
      rw [if_pos rfl]
      exact .waiting _ _ hp (by simp)
    | waiting application again hp hn =>
      rw [if_neg (hn g rfl), List.append_nil]
      exact .waiting application again hp (by simp)
    | told hs hp hn =>
      rw [if_neg (hn g rfl), List.append_nil]
      exact .told hs hp (by simp)
  | answered _ _ hx =>
    rw [hi _ rfl] at h
    refine h.conclude hx rfl ?_ _
    rintro application again rfl rfl
    exact .answered application again _ _
  | failed _ hx =>
    rw [hi _ rfl] at h
    refine h.conclude hx rfl ?_ _
    rintro application again rfl rfl
    exact .answered application again _ _
  | timedOut hx =>
    rw [hi _ rfl] at h
    refine h.conclude hx rfl ?_ _
    rintro application again rfl rfl
    exact .timedOut application again

lemma Connection.Takes.outgoing? (h : c.Takes i) {e : Event} (hi : i = .event e) :
    c.outgoing? = none := by
  subst hi
  have hw : c.writing = none := by
    cases h with
    | internal ha _ => exact ha.2
    | queued ha _ => exact ha.2
  rw [Connection.outgoing?, hw]

lemma Beat.newsOf_append (bs ds : List Beat) :
    newsOf site k (bs ++ ds) = newsOf site k bs ++ newsOf site k ds := by
  rw [newsOf, effectsOf_append, List.filterMap_append]
  rfl

lemma Beat.newsOf_singleton :
    newsOf site k [b] = (b.turn site).ledger.filterMap (Effect.news? k) := by
  rw [newsOf, effectsOf_singleton, Turn.filterMap_news?_ledger]

namespace Connection.Run

lemma chapter (h : Run site c₀ bs c) (h₀ : c₀.Cleared)
    (hc : Chapter k command ns c₀.pending c₀.outgoing?) (hk : ∀ d ∈ bs, ¬ d.Sends k) :
    Chapter k command (ns ++ Beat.newsOf site k bs) c.pending c.outgoing? := by
  induction h with
  | nil => simpa [Beat.newsOf] using hc
  | ring _ _ ih => exact ih hk
  | @turn bs b h ht ih =>
    have hs := ih fun d hd => hk d (List.mem_append_left _ hd)
    have hb : ¬ b.Sends k := hk b (by simp)
    rw [Beat.newsOf_append, Beat.newsOf_singleton, ← List.append_assoc]
    refine hs.trade (ht.trades (h.cleared h₀) _ _ _ _).trade (fun e => ht.outgoing?) ?_
    intro j m hi hm
    exact hb ⟨j, m, hi, hm⟩

lemma initial (h : Run site c₀ (bs ++ ds) c) : ∃ d, Run site c₀ bs d := by
  cases ds with
  | nil => exact ⟨c, by simpa using h⟩
  | cons b ds => exact ⟨b.conn, h.split.1⟩

/-- Nothing is noted of an identifier with which no request was handled. -/
theorem newsOf_eq_nil (h : Run site c₀ bs c) (hp : c₀.pending = {}) (ho : c₀.outgoing? = none)
    (hk : ∀ d ∈ bs, ¬ d.Sends k) : Beat.newsOf site k bs = [] := by
  have hc : ∀ command, Chapter k command [] c₀.pending c₀.outgoing? := by
    intro command
    exact .told .silent (hp ▸ Pending.find?_empty) (by simp [ho])
  -- a story of two different commands is silent
  have hs := fun command => (h.chapter (fun _ => hp) (hc command) hk).story
  cases hn : Beat.newsOf site k bs with
  | nil => rfl
  | cons n ns =>
    have h₀ := hs 0
    have h₁ := hs 1
    rw [hn, List.nil_append] at h₀ h₁
    cases h₀ <;> cases h₁

/-- **What is noted of a request.** Between a request, whose identifier nothing else that is
pending has, and the next one with this identifier the notes with it tell one story. -/
theorem story {j : Nat} {m : Message} (h : Run site c₀ (bs ++ b :: ds) c) (h₀ : c₀.Cleared)
    (hb : b.input = .event (.send j m))
    (hf : b.conn.pending.find? m.header.hopByHop = none)
    (hd : ∀ d ∈ ds, ¬ d.Sends m.header.hopByHop) :
    Story m.header.hopByHop m.header.command (Beat.newsOf site m.header.hopByHop (b :: ds)) := by
  obtain ⟨hr, ht, hs⟩ := h.split
  obtain ⟨htr, hc⟩ :=
    ht.trades (hr.cleared h₀) site b.moment.now b.moment.serial b.moment.ids
  have hl : Beat.newsOf site m.header.hopByHop (b :: ds) =
      (b.turn site).ledger.filterMap (Effect.news? m.header.hopByHop) ++
        Beat.newsOf site m.header.hopByHop ds := by
    rw [← Beat.newsOf_singleton, ← Beat.newsOf_append]
    rfl
  have hfirst : Chapter m.header.hopByHop m.header.command
      ((b.turn site).ledger.filterMap (Effect.news? m.header.hopByHop))
      (b.turn site).conn.pending (b.turn site).conn.outgoing? := by
    have hi : (Input.event (.send j m)).IsSend := trivial
    unfold Beat.turn
    rw [hb] at htr ⊢
    generalize (Connection.step site _ _ _ _ _).ledger = l at htr ⊢
    generalize (Connection.step site _ _ _ _ _).conn.pending = p at htr ⊢
    generalize (Connection.step site _ _ _ _ _).conn.outgoing? = o at htr ⊢
    cases htr with
    | idle hn _ => exact absurd hi hn
    | drained hn => exact absurd hi hn
    | refused => exact .told (by simpa [List.filterMap_cons] using Story.silent) hf (by simp)
    | entered now =>
      have hp : ∀ x, (b.conn.pending.insert (.ofRequest j m now)).2.find? m.header.hopByHop =
          some x → x.header.command = m.header.command := by
        intro x hx
        rw [Pending.find?_insert_self (x := .ofRequest j m now) hx]
        rfl
      simpa [Function.comp_def] using Chapter.writing rfl rfl hp
    | lost now =>
      exact .told (by simpa [Function.comp_def] using Story.silent) Pending.find?_empty (by simp)
    | failed hn _ => exact absurd hi hn
  rw [hl]
  exact (hs.chapter hc hfirst hd).story

end Connection.Run

end Diameter
