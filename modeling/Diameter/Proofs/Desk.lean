import Diameter.Proofs.Errands

/-!
All that senders have to do with.

A desk is the identifiers of a node, the senders, and the answers that they have got in the end,
with what becomes of each request (`Network.Desk`). Senders go on one at a time, in between others
draw identifiers, and any answer may come for an attempt (`Network.Desk.Step`). Each step keeps
requests in order (`Network.Desk.Kept`). Main statements: `Network.Desk.Kept.step`,
`Network.Desk.Kept.inOrder`, `Network.Desk.Reached.grows`.
-/

namespace Diameter.Network

/-- What senders have to do with, and what becomes of what they send. -/
structure Desk where
  ids : Identifiers
  /-- Hop-by-hop identifiers drawn at the node so far. -/
  drawn : Nat := 0
  /-- End-to-end identifiers drawn so far. -/
  named : Nat := 0
  tickets : Nat := 0
  senders : List Sender := []
  /-- Senders that are done, and what they were answered. -/
  answers : List (Nat × Message) := []
  errands : Nat → Option Errand := fun _ => none

namespace Desk

/-- Something becomes of a request. -/
def amend (id : Nat) (f : Errand → Errand) (d : Desk) : Desk :=
  { d with errands := fun k => if k = id then (d.errands k).map f else d.errands k }

/-- A sender comes some way. -/
def setState (id : Nat) (state : SenderState) (d : Desk) : Desk :=
  { d with senders := d.senders.map fun x => if x.id = id then { x with state } else x }

/-- A request gets a sender of its own. -/
def take (i : Nat) (m : Message) (d : Desk) : Desk :=
  { d with
    tickets := d.tickets + 1
    senders := d.senders ++ [⟨d.tickets + 1, i, .fresh m⟩]
    errands := fun k => if k = d.tickets + 1 then some { request := m } else d.errands k }

/-- Several requests get senders, one each. -/
def takeAll (i : Nat) (requests : List Message) (d : Desk) : Desk :=
  requests.foldl (fun d m => d.take i m) d

/-- A sender makes an attempt, for which an end-to-end identifier was drawn or not. -/
def attempt (id : Nat) (named : Option Nat) (s : Sending) (ids : Identifiers) (d : Desk) : Desk :=
  let a := s.attempt ids
  { (d.setState id (.waiting s a.1)).amend id (.attempting named ⟨a.1, d.drawn + 1⟩) with
    ids := a.2, drawn := d.drawn + 1, named := named.getD d.named }

/-- A sender gets an answer to its attempt. -/
def hear (id : Nat) (s : Sending) (r : Message) (d : Desk) : Desk :=
  (d.setState id (.answered s r)).amend id (.hearing r)

/-- A sender is done. -/
def close (id : Nat) (r : Message) (d : Desk) : Desk :=
  { d.amend id (.ending r) with
    senders := d.senders.filter (·.id ≠ id), answers := d.answers ++ [(id, r)] }

/-- The number of the end-to-end identifier that a request needs. -/
def nameFor (m : Message) (d : Desk) : Option Nat :=
  if m.header.endToEnd = 0 then some (d.named + 1) else none

/-- Everything that may happen to senders. -/
inductive Step (site : Site) (d : Desk) : Desk → Prop
  /-- Others draw identifiers, `k` of them for hops and `l` from end to end. -/
  | draw (ids : Identifiers) (k l : Nat)
    (hk : ids.hopByHop = d.ids.hopByHop + UInt32.ofNat k)
    (hl : ids.endToEnd = d.ids.endToEnd + UInt32.ofNat l) :
    Step site d { d with ids, drawn := d.drawn + k, named := d.named + l }
  /-- Others are numbered. -/
  | number : Step site d { d with tickets := d.tickets + 1 }
  /-- A request is to be sent. -/
  | take (i : Nat) (m : Message) : Step site d (d.take i m)
  /-- It may not be sent. -/
  | refuse {x : Sender} {m r : Message} (hx : x ∈ d.senders) (hs : x.state = .fresh m)
    (h : Sending.start site.node site.settings.retries.toNat d.ids m = .error r) :
    Step site d (d.close x.id r)
  /-- It is tried for the first time. -/
  | first {x : Sender} {m : Message} {s : Sending} {ids : Identifiers} (hx : x ∈ d.senders)
    (hs : x.state = .fresh m)
    (h : Sending.start site.node site.settings.retries.toNat d.ids m = .ok (s, ids)) :
    Step site d (d.attempt x.id (d.nameFor m) s ids)
  /-- An attempt is answered, whoever made up the answer. -/
  | hear {x : Sender} {s : Sending} {m : Message} (hx : x ∈ d.senders) (hs : x.state = .waiting s m)
    (r : Message) (hr : r.header.isRequest = false) : Step site d (d.hear x.id s r)
  /-- The answer leads to another attempt. -/
  | again {x : Sender} {s s' : Sending} {r : Message} (hx : x ∈ d.senders)
    (hs : x.state = .answered s r) (h : s.next? r = some s') :
    Step site d (d.attempt x.id none s' d.ids)
  /-- It does not. -/
  | finish {x : Sender} {s : Sending} {r : Message} (hx : x ∈ d.senders)
    (hs : x.state = .answered s r) (h : s.next? r = none) : Step site d (d.close x.id r)
  /-- Somebody looks at the answers. -/
  | look : Step site d { d with answers := [] }

/-- A desk that may come of another. -/
inductive Reached (site : Site) (d₀ : Desk) : Desk → Prop
  | begin : Reached site d₀ d₀
  | step {d d' : Desk} (h : Reached site d₀ d) (hs : d.Step site d') : Reached site d₀ d'

/-- Requests are kept in order. -/
structure Kept (site : Site) (seed : Identifiers) (d : Desk) : Prop where
  hops : d.ids.hopByHop = seed.hopByHop + UInt32.ofNat d.drawn
  ends : d.ids.endToEnd = seed.endToEnd + UInt32.ofNat d.named
  once : (d.senders.map Sender.id).Nodup
  numbered : ∀ id e, d.errands id = some e → id ≤ d.tickets
  errands : ∀ id e, d.errands id = some e →
    e.Disciplined site seed ∧ e.Counted seed d.drawn d.named
  /-- No two requests are given one end-to-end identifier. -/
  apart : ∀ id id' e e' n, d.errands id = some e → d.errands id' = some e' →
    e.named = some n → e'.named = some n → id = id'
  stands : ∀ x ∈ d.senders, ∃ e, d.errands x.id = some e ∧ e.Stands site seed x.state
  /-- What is not done with has a sender. -/
  attended : ∀ id e, d.errands id = some e → e.result = none → ∃ x ∈ d.senders, x.id = id
  answers : ∀ y ∈ d.answers, ∃ e, d.errands y.1 = some e ∧ e.result = some y.2

variable {site : Site} {seed : Identifiers} {d d' : Desk} {id : Nat} {e : Errand}
  {f : Errand → Errand}

lemma ids_setState (d : Desk) (id : Nat) (state : SenderState) :
    (d.setState id state).senders.map Sender.id = d.senders.map Sender.id := by
  rw [setState, List.map_map]
  refine List.map_congr_left fun x _ => ?_
  dsimp only [Function.comp_apply]
  split <;> rfl

lemma mem_setState {x : Sender} {state : SenderState} (h : x ∈ (d.setState id state).senders) :
    (x.id = id ∧ x.state = state) ∨ (x.id ≠ id ∧ x ∈ d.senders) := by
  obtain ⟨y, hy, rfl⟩ := List.mem_map.mp h
  by_cases hi : y.id = id
  · rw [if_pos hi]
    exact .inl ⟨hi, rfl⟩
  · rw [if_neg hi]
    exact .inr ⟨hi, hy⟩

lemma mem_setState_self {x : Sender} (h : x ∈ d.senders) (state : SenderState) :
    { x with state } ∈ (d.setState x.id state).senders :=
  List.mem_map.mpr ⟨x, h, if_pos rfl⟩

lemma mem_setState_of_ne {x : Sender} (h : x ∈ d.senders) (hi : x.id ≠ id) (state : SenderState) :
    x ∈ (d.setState id state).senders :=
  List.mem_map.mpr ⟨x, h, if_neg hi⟩

lemma errands_amend_self (he : d.errands id = some e) :
    (d.amend id f).errands id = some (f e) := by simp [amend, he]

lemma errands_amend_of_ne {k : Nat} (hk : k ≠ id) : (d.amend id f).errands k = d.errands k :=
  if_neg hk

lemma errands_amend_cases (he : d.errands id = some e) {k : Nat} {e' : Errand}
    (h : (d.amend id f).errands k = some e') :
    (k = id ∧ e' = f e) ∨ (k ≠ id ∧ d.errands k = some e') := by
  by_cases hk : k = id
  · subst hk
    exact .inl ⟨rfl, Option.some.inj (h.symm.trans (errands_amend_self he))⟩
  · exact .inr ⟨hk, (errands_amend_of_ne hk).symm.trans h⟩

namespace Kept

/-- Something becomes of one request, and everything else stays as it is. -/
lemma amend (h : d.Kept site seed) (he : d.errands id = some e) {ids : Identifiers}
    {drawn named : Nat} {senders : List Sender} {answers : List (Nat × Message)}
    (hops : ids.hopByHop = seed.hopByHop + UInt32.ofNat drawn)
    (ends : ids.endToEnd = seed.endToEnd + UInt32.ofNat named)
    (hd : d.drawn ≤ drawn) (hn : d.named ≤ named)
    (once : (senders.map Sender.id).Nodup)
    (hf : (f e).Disciplined site seed ∧ (f e).Counted seed drawn named)
    (fresh : ∀ n, (f e).named = some n → e.named = some n ∨ d.named < n)
    (stands : ∀ x ∈ senders, (x.id = id ∧ (f e).Stands site seed x.state) ∨
      (x.id ≠ id ∧ x ∈ d.senders))
    (attended : (f e).result = none → ∃ x ∈ senders, x.id = id)
    (others : ∀ x ∈ d.senders, x.id ≠ id → x ∈ senders)
    (answered : ∀ y ∈ answers, (y.1 = id ∧ (f e).result = some y.2) ∨
      (y.1 ≠ id ∧ y ∈ d.answers)) :
    Kept site seed { d.amend id f with ids, drawn, named, senders, answers } where
  hops := hops
  ends := ends
  once := once
  numbered k e' hk := by
    rcases errands_amend_cases he hk with ⟨rfl, -⟩ | ⟨-, hk⟩
    · exact h.numbered k e he
    · exact h.numbered k e' hk
  errands k e' hk := by
    rcases errands_amend_cases he hk with ⟨rfl, rfl⟩ | ⟨-, hk⟩
    · exact hf
    · exact ⟨(h.errands k e' hk).1, (h.errands k e' hk).2.mono hd hn⟩
  apart i j a b n hi hj ha hb := by
    -- A number that is new is none of those drawn before.
    have late : ∀ {k c}, d.errands k = some c → c.named = some n → ¬ d.named < n :=
      fun hk hc hlt => absurd ((h.errands _ _ hk).2.named n hc) (by omega)
    rcases errands_amend_cases he hi with ⟨rfl, rfl⟩ | ⟨-, hi'⟩ <;>
      rcases errands_amend_cases he hj with ⟨rfl, rfl⟩ | ⟨-, hj'⟩
    · -- both are the errand that changes
      rfl
    · -- only the first is, and its number was its own before or is new
      rcases fresh n ha with ha | hlt
      · exact h.apart _ _ _ _ n he hj' ha hb
      · exact absurd hlt (late hj' hb)
    · -- only the second is
      rcases fresh n hb with hb | hlt
      · exact h.apart _ _ _ _ n hi' he ha hb
      · exact absurd hlt (late hi' ha)
    · -- neither is
      exact h.apart _ _ _ _ n hi' hj' ha hb
  stands x hx := by
    rcases stands x hx with ⟨rfl, hs⟩ | ⟨hne, hx⟩
    · exact ⟨f e, errands_amend_self he, hs⟩
    · obtain ⟨e', he', hs⟩ := h.stands x hx
      exact ⟨e', (errands_amend_of_ne hne).trans he', hs⟩
  attended k e' hk hr := by
    rcases errands_amend_cases he hk with ⟨rfl, rfl⟩ | ⟨hne, hk⟩
    · exact attended hr
    · obtain ⟨x, hx, rfl⟩ := h.attended k e' hk hr
      exact ⟨x, others x hx hne, rfl⟩
  answers y hy := by
    rcases answered y hy with ⟨rfl, hr⟩ | ⟨hne, hy⟩
    · exact ⟨f e, errands_amend_self he, hr⟩
    · obtain ⟨e', he', hr⟩ := h.answers y hy
      exact ⟨e', (errands_amend_of_ne hne).trans he', hr⟩

lemma advance (h : d.Kept site seed) {x : Sender} (hx : x ∈ d.senders)
    (he : d.errands x.id = some e) {ids : Identifiers} {drawn named : Nat} {state : SenderState}
    (hops : ids.hopByHop = seed.hopByHop + UInt32.ofNat drawn)
    (ends : ids.endToEnd = seed.endToEnd + UInt32.ofNat named)
    (hd : d.drawn ≤ drawn) (hn : d.named ≤ named) (hs : (f e).Stands site seed state)
    (hc : (f e).Counted seed drawn named)
    (fresh : ∀ n, (f e).named = some n → e.named = some n ∨ d.named < n) :
    Kept site seed { (d.setState x.id state).amend x.id f with ids, drawn, named } := by
  have stands : ∀ y ∈ (d.setState x.id state).senders,
      (y.id = x.id ∧ (f e).Stands site seed y.state) ∨ (y.id ≠ x.id ∧ y ∈ d.senders) := by
    intro y hy
    rcases mem_setState hy with ⟨hi, rfl⟩ | ⟨hi, hy⟩
    · exact .inl ⟨hi, hs⟩
    · exact .inr ⟨hi, hy⟩
  have answered : ∀ y ∈ d.answers, (y.1 = x.id ∧ (f e).result = some y.2) ∨
      (y.1 ≠ x.id ∧ y ∈ d.answers) := by
    intro y hy
    refine .inr ⟨fun hi => ?_, hy⟩
    obtain ⟨e', he', hr⟩ := h.answers y hy
    obtain ⟨e'', he'', hs'⟩ := h.stands x hx
    obtain rfl := Option.some.inj (he'.symm.trans (hi ▸ he''))
    exact absurd (hs'.result_eq.symm.trans hr) (by simp)
  exact h.amend he hops ends hd hn (ids_setState d x.id state ▸ h.once) ⟨hs.disciplined, hc⟩ fresh
    stands (fun _ => ⟨_, mem_setState_self hx state, rfl⟩)
    (fun y hy hi => mem_setState_of_ne hy hi state) answered

lemma close (h : d.Kept site seed) {x : Sender} {r : Message} (hx : x ∈ d.senders)
    (he : d.errands x.id = some e) (hf : (e.ending r).Disciplined site seed) :
    Kept site seed (d.close x.id r) := by
  have hc := (h.errands x.id e he).2
  have stands : ∀ y ∈ d.senders.filter (·.id ≠ x.id),
      (y.id = x.id ∧ (e.ending r).Stands site seed y.state) ∨ (y.id ≠ x.id ∧ y ∈ d.senders) :=
    fun y hy => .inr ⟨by simpa using (List.mem_filter.mp hy).2, (List.mem_filter.mp hy).1⟩
  have answered : ∀ y ∈ d.answers ++ [(x.id, r)],
      (y.1 = x.id ∧ (e.ending r).result = some y.2) ∨ (y.1 ≠ x.id ∧ y ∈ d.answers) := by
    intro y hy
    rcases List.mem_append.mp hy with hy | hy
    · refine .inr ⟨fun hi => ?_, hy⟩
      obtain ⟨e', he', hr⟩ := h.answers y hy
      obtain ⟨e'', he'', hs⟩ := h.stands x hx
      obtain rfl := Option.some.inj (he'.symm.trans (hi ▸ he''))
      exact absurd (hs.result_eq.symm.trans hr) (by simp)
    · obtain rfl := List.mem_singleton.mp hy
      exact .inl ⟨rfl, rfl⟩
  exact h.amend he h.hops h.ends (Nat.le_refl _) (Nat.le_refl _)
    (h.once.sublist (List.Sublist.map _ List.filter_sublist))
    ⟨hf, hc.attempts, hc.named⟩ (fun _ => .inl) stands (fun hr => by cases hr)
    (fun y hy hi => List.mem_filter.mpr ⟨hy, by simpa using hi⟩) answered

lemma ne_of_errand (h : d.Kept site seed) (he : d.errands id = some e) : id ≠ d.tickets + 1 :=
  fun hi => absurd (h.numbered id e he) (by omega)

lemma errands_take (h : d.Kept site seed) (he : d.errands id = some e) (i : Nat) (m : Message) :
    (d.take i m).errands id = some e := (if_neg (h.ne_of_errand he)).trans he

/-- A request gets a sender of its own. -/
lemma take (h : d.Kept site seed) (i : Nat) (m : Message) : Kept site seed (d.take i m) := by
  have new : (d.take i m).errands (d.tickets + 1) = some { request := m } := if_pos rfl
  have cases : ∀ {id e}, (d.take i m).errands id = some e →
      (id = d.tickets + 1 ∧ e = { request := m }) ∨ d.errands id = some e := by
    intro id e he
    by_cases hi : id = d.tickets + 1
    · subst hi
      exact .inl ⟨rfl, Option.some.inj (he.symm.trans new)⟩
    · exact .inr ((if_neg hi).symm.trans he)
  refine ⟨h.hops, h.ends, ?_, ?_, ?_, ?_, ?_, ?_, ?_⟩
  · -- the new sender's number is beyond all that were given out
    rw [Desk.take, List.map_append, List.nodup_append]
    refine ⟨h.once, List.nodup_singleton _, fun k hk j hj => ?_⟩
    obtain rfl := List.mem_singleton.mp hj
    obtain ⟨x, hx, rfl⟩ := List.mem_map.mp hk
    obtain ⟨e, he, -⟩ := h.stands x hx
    exact h.ne_of_errand he
  · intro id e he
    rcases cases he with ⟨rfl, -⟩ | he
    · exact Nat.le_refl _
    · exact Nat.le_succ_of_le (h.numbered id e he)
  · intro id e he
    rcases cases he with ⟨-, rfl⟩ | he
    · -- nothing has been tried or drawn for the new errand
      exact ⟨.untried rfl rfl rfl, List.forall_mem_nil _, fun n hn => by cases hn⟩
    · exact h.errands id e he
  · intro j k a b n hj hk ha hb
    -- the new errand has no number yet, so it shares none
    rcases cases hj with ⟨-, rfl⟩ | hj
    · cases ha
    · rcases cases hk with ⟨-, rfl⟩ | hk
      · cases hb
      · exact h.apart j k a b n hj hk ha hb
  · intro x hx
    rcases List.mem_append.mp hx with hx | hx
    · obtain ⟨e, he, hs⟩ := h.stands x hx
      exact ⟨e, h.errands_take he i m, hs⟩
    · obtain rfl := List.mem_singleton.mp hx
      exact ⟨_, new, rfl⟩
  · -- the new errand is open, and so is its sender
    intro id e he hr
    rcases cases he with ⟨rfl, -⟩ | he
    · exact ⟨_, List.mem_append_right _ (List.mem_singleton_self _), rfl⟩
    · obtain ⟨x, hx, hi⟩ := h.attended id e he hr
      exact ⟨x, List.mem_append_left _ hx, hi⟩
  · intro y hy
    obtain ⟨e, he, hr⟩ := h.answers y hy
    exact ⟨e, h.errands_take he i m, hr⟩

lemma init (site : Site) (seed : Identifiers) : Kept site seed { ids := seed } where
  hops := (UInt32.add_zero _).symm
  ends := (UInt32.add_zero _).symm
  once := List.nodup_nil
  numbered _ _ h := by cases h
  errands _ _ h := by cases h
  apart _ _ _ _ _ h := by cases h
  stands _ h := by cases h
  attended _ _ h := by cases h
  answers _ h := by cases h

lemma attempt (h : d.Kept site seed) {x : Sender} {named : Option Nat} {s : Sending}
    {ids : Identifiers} (hx : x ∈ d.senders) (he : d.errands x.id = some e)
    (hops : ids.hopByHop = d.ids.hopByHop)
    (ends : ids.endToEnd = seed.endToEnd + UInt32.ofNat (named.getD d.named))
    (hn : ∀ n ∈ named, n = d.named + 1)
    (hs : (e.attempting named ⟨(s.attempt ids).1, d.drawn + 1⟩).Stands site seed
      (.waiting s (s.attempt ids).1)) :
    Kept site seed (d.attempt x.id named s ids) := by
  have hc := (h.errands x.id e he).2
  have hk : (s.attempt ids).2.hopByHop = seed.hopByHop + UInt32.ofNat (d.drawn + 1) := by
    show ids.hopByHop + 1 = _
    rw [hops, h.hops, UInt32.ofNat_add, UInt32.add_assoc]
    rfl
  refine h.advance hx he hk ends (Nat.le_succ _) ?_ hs ⟨?_, ?_⟩ ?_
  · cases named with
    | none => exact Nat.le_refl _
    | some k => exact hn k rfl ▸ Nat.le_succ _
  · -- the new attempt bears the number just drawn
    intro a ha
    rcases List.mem_append.mp ha with ha | ha
    · exact ⟨Nat.le_succ_of_le (hc.attempts a ha).1, (hc.attempts a ha).2⟩
    · obtain rfl := List.mem_singleton.mp ha
      exact ⟨Nat.le_refl _, hk⟩
  · -- an errand keeps its end-to-end number, or is given one just drawn
    intro n hen
    cases named with
    | none => exact hc.named n hen
    | some k => exact Nat.le_of_eq (Option.some.inj hen).symm
  · -- a number it did not have before is beyond all that were drawn
    intro n hen
    cases named with
    | none => exact .inl hen
    | some k =>
      obtain rfl := Option.some.inj hen
      exact .inr (hn k rfl ▸ Nat.lt_succ_self _)

lemma step (h : d.Kept site seed) (hs : d.Step site d') : d'.Kept site seed := by
  have count : ∀ (x y : UInt32) (n k : Nat), x = y + UInt32.ofNat n →
      x + UInt32.ofNat k = y + UInt32.ofNat (n + k) := by
    intro x y n k hx
    rw [hx, UInt32.ofNat_add, UInt32.add_assoc]
  cases hs with
  | draw ids k l hk hl =>
    refine ⟨hk.trans (count _ _ _ k h.hops), hl.trans (count _ _ _ l h.ends), h.once, h.numbered,
      fun id e he => ?_, h.apart, h.stands, h.attended, h.answers⟩
    obtain ⟨hd, hc⟩ := h.errands id e he
    exact ⟨hd, hc.mono (Nat.le_add_right _ _) (Nat.le_add_right _ _)⟩
  | number =>
    exact ⟨h.hops, h.ends, h.once, fun id e he => Nat.le_succ_of_le (h.numbered id e he), h.errands,
      h.apart, h.stands, h.attended, h.answers⟩
  | take i m => exact h.take i m
  | @refuse x m r hx hs hr =>
    obtain ⟨e, he, hst⟩ := h.stands x hx
    rw [hs] at hst
    obtain rfl := hst
    exact h.close hx he (Errand.disciplined_refused (Sending.start_eq_error hr))
  | @first x m s ids hx hs hr =>
    obtain ⟨e, he, hst⟩ := h.stands x hx
    rw [hs] at hst
    obtain rfl := hst
    obtain ⟨-, -, rfl⟩ := Sending.start_eq_ok hr
    have own : d.ids.endToEnd + 1 = _ := count _ _ _ 1 h.ends
    have hn : ∀ n ∈ d.nameFor m, n = d.named + 1 := fun n hn =>
      (Option.some.inj (Option.ite_none_right_eq_some.mp hn).2).symm
    refine h.attempt hx he ?_ ?_ hn (Errand.stands_first hr ?_ (fun n he => hn n he ▸ own) rfl)
    · -- the hop-by-hop counter is not touched by naming
      unfold Sending.naming
      split <;> rfl
    · -- the end-to-end counter moves on if the request came without an identifier
      unfold Sending.naming nameFor
      split
      · exact own
      · exact h.ends
    · unfold nameFor
      split <;> simp [*]
  | @hear x s m hx hs r hr =>
    obtain ⟨e, he, hst⟩ := h.stands x hx
    rw [hs] at hst
    have hc := (h.errands x.id e he).2
    exact h.advance hx he h.hops h.ends (Nat.le_refl _) (Nat.le_refl _) (hst.1.hear hst.2 hr)
      ⟨hc.attempts, hc.named⟩ fun _ => .inl
  | @again x s s' r hx hs hn =>
    obtain ⟨e, he, hst⟩ := h.stands x hx
    rw [hs] at hst
    have hk : d.ids.hopByHop + 1 = _ := count _ _ _ 1 h.hops
    exact h.attempt hx he rfl h.ends (fun n hn => by cases hn)
      (hst.1.again hst.2.1 hst.2.2 hn (h.errands x.id e he).2 (Nat.lt_succ_self _) hk rfl)
  | @finish x s r hx hs hn =>
    obtain ⟨e, he, hst⟩ := h.stands x hx
    rw [hs] at hst
    exact h.close hx he (hst.1.finish hst.2.1 hst.2.2 hn)
  | look =>
    exact ⟨h.hops, h.ends, h.once, h.numbered, h.errands, h.apart, h.stands, h.attended,
      List.forall_mem_nil _⟩

end Kept

namespace Kept

lemma grows_amend (h : d.Kept site seed) {x : Sender} (hx : x ∈ d.senders)
    (hf : ∀ e : Errand, e.result = none → e.Grows (f e)) (he : d.errands id = some e) :
    ∃ e', (d.amend x.id f).errands id = some e' ∧ e.Grows e' := by
  by_cases hi : id = x.id
  · subst hi
    obtain ⟨e', he', hs⟩ := h.stands x hx
    obtain rfl := Option.some.inj (he.symm.trans he')
    exact ⟨f e, errands_amend_self he, hf e hs.result_eq⟩
  · exact ⟨e, (errands_amend_of_ne hi).trans he, .refl e⟩

/-- What has become of a request is not forgotten in a step. -/
lemma grows (h : d.Kept site seed) (hs : d.Step site d') (he : d.errands id = some e) :
    ∃ e', d'.errands id = some e' ∧ e.Grows e' := by
  have undone : ∀ {e : Errand}, e.result = none → ∀ e', e.result.isSome → e' = e := by
    intro e hn e' hs
    rw [hn] at hs
    cases hs
  have attempted : ∀ n a (e : Errand), e.result = none → e.Grows (e.attempting n a) :=
    fun n a e hn => ⟨rfl, List.prefix_append _ _, List.prefix_rfl, undone hn _⟩
  have ended : ∀ r (e : Errand), e.result = none → e.Grows (e.ending r) :=
    fun r e hn => ⟨rfl, List.prefix_rfl, List.prefix_rfl, undone hn _⟩
  cases hs with
  | draw | number | look => exact ⟨e, he, .refl e⟩
  | take i m => exact ⟨e, h.errands_take he i m, .refl e⟩
  | refuse hx hs hr => exact h.grows_amend hx (ended _) he
  | first hx hs hr => exact h.grows_amend hx (attempted _ _) he
  | hear hx hs r hr =>
    exact h.grows_amend hx
      (fun e hn => ⟨rfl, List.prefix_rfl, List.prefix_append _ _, undone hn _⟩) he
  | again hx hs hn => exact h.grows_amend hx (attempted _ _) he
  | finish hx hs hn => exact h.grows_amend hx (ended _) he

end Kept

namespace Reached

variable {d₀ : Desk}

lemma trans (h : Reached site d₀ d) (h' : Reached site d d') : Reached site d₀ d' := by
  induction h' with
  | begin => exact h
  | step _ hs ih => exact ih.step hs

lemma kept (h : Reached site d₀ d) (h₀ : d₀.Kept site seed) : d.Kept site seed := by
  induction h with
  | begin => exact h₀
  | step _ hs ih => exact ih.step hs

/-- Nor is it in many. -/
lemma grows (h : Reached site d₀ d) (h₀ : d₀.Kept site seed) (he : d₀.errands id = some e) :
    ∃ e', d.errands id = some e' ∧ e.Grows e' := by
  induction h with
  | begin => exact ⟨e, he, .refl e⟩
  | step h hs ih =>
    obtain ⟨e', he', hg⟩ := ih
    obtain ⟨e'', he'', hg'⟩ := (h.kept h₀).grows hs he'
    exact ⟨e'', he'', hg.trans hg'⟩

end Reached

/-- Whatever is sent is sent as it ought to be, and who waits for an answer gets the last one. -/
structure InOrder (site : Site) (seed : Identifiers) (d : Desk) : Prop where
  disciplined : ∀ id e, d.errands id = some e → e.Disciplined site seed
  /-- The first attempt is marked as a retransmission if the request was, and all others are. -/
  marked : ∀ id e j a, d.errands id = some e → e.attempts[j]? = some a →
    a.message.header.isRetransmit = (e.request.header.isRetransmit || 0 < j)
  /-- No two requests are given one end-to-end identifier. -/
  apart : ∀ id id' e e' n, d.errands id = some e → d.errands id' = some e' →
    e.named = some n → e'.named = some n → id = id'
  /-- There is a sender for each request that is not done with, and it waits for an answer if there
  is one that it has not got. -/
  attended : ∀ id e, d.errands id = some e → e.result = none → ∃ x ∈ d.senders, x.id = id ∧
    (e.replies.length < e.attempts.length ↔ ∃ s m, x.state = .waiting s m)
  answers : ∀ id r, (id, r) ∈ d.answers → ∃ e, d.errands id = some e ∧ e.result = some r

/-- At every desk requests are in order. -/
theorem Kept.inOrder (h : d.Kept site seed) : d.InOrder site seed where
  disciplined id e he := (h.errands id e he).1
  marked id e j a he ha := by
    cases (h.errands id e he).1 with
    | untried hn | refused _ hn =>
      rw [hn] at ha
      cases ha
    | tried ht =>
      obtain ⟨hopByHop, hm⟩ := ht.sent j a ha
      rw [hm, Message.isRetransmit_sentAs]
  apart := h.apart
  attended id e he hr := by
    obtain ⟨x, hx, rfl⟩ := h.attended id e he hr
    obtain ⟨e', he', hs⟩ := h.stands x hx
    obtain rfl := Option.some.inj (he.symm.trans he')
    refine ⟨x, hx, rfl, ?_⟩
    cases hst : x.state with
    | fresh m =>
      obtain rfl : e = { request := m } := by rwa [hst] at hs
      simp
    | waiting s m =>
      rw [hst] at hs
      simp [← hs.2]
    | answered s r =>
      rw [hst] at hs
      simp [hs.2.1]
  answers id r hy := h.answers (id, r) hy

end Desk

end Diameter.Network
