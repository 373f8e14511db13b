import Diameter.Network
import Diameter.Proofs.Flags
import Diameter.Proofs.World

/-!
Requests that are sent until they are answered for good.

A desk is what senders have to do with: the identifiers of the node, the senders themselves, and
the answers that are done with (`Network.Desk`). It also keeps what becomes of each request, with
its attempts and what came back for them (`Network.Errand`). In between others draw identifiers, and
any answer may come for an attempt (`Network.Desk.Step`). What a request goes through is the same
always (`Network.Errand.Disciplined`). Main statement: `Network.Desk.Reached.disciplined`.
-/

namespace Diameter

namespace Message

/-- The message has a Result-Code for which it is worth to try again. -/
def IsRetryable (m : Message) : Prop :=
  ∃ code, m.resultCode? = some code ∧ 3000 ≤ code ∧ code < 4000 ∧ code ≠ 3010

/-- A request with identifiers of its own, marked as a retransmission if it is sent again. -/
def sentAs (m : Message) (again : Bool) (hopByHop endToEnd : UInt32) : Message :=
  { m with header :=
    { (if again then m.header.setRetransmit else m.header) with hopByHop, endToEnd } }

variable (m : Message) (again : Bool) (hopByHop endToEnd : UInt32)

lemma isRetransmit_sentAs : (m.sentAs again hopByHop endToEnd).header.isRetransmit =
    (m.header.isRetransmit || again) := by
  cases again with
  | false => exact (Bool.or_false _).symm
  | true =>
    show m.header.setRetransmit.isRetransmit = _
    rw [Bool.or_true]
    simp only [Header.isRetransmit, Header.setRetransmit]
    rw [bne_iff_ne]
    intro h
    have hd : (m.header.flags ||| Header.retransmitFlag) &&& Header.retransmitFlag =
        Header.retransmitFlag := by
      apply UInt8.eq_of_toBitVec_eq
      ext i hi
      simpa using Or.inr
    exact absurd (hd.symm.trans h) (by decide)

lemma setRetransmit_sentAs : { m.sentAs again hopByHop endToEnd with
    header := (m.sentAs again hopByHop endToEnd).header.setRetransmit } =
      m.sentAs true hopByHop endToEnd := by
  cases again with
  | false => rfl
  | true =>
    have hf : m.header.flags ||| Header.retransmitFlag ||| Header.retransmitFlag =
        m.header.flags ||| Header.retransmitFlag := by
      rw [UInt8.or_assoc, UInt8.or_self]
    simp [sentAs, Header.setRetransmit, hf]

end Message

namespace Sending

variable {s s' : Sending} {m : Message}

lemma isRetryable_iff : m.resultCode?.any ResultCode.isRetryable ↔ m.IsRetryable := by
  unfold Message.IsRetryable
  cases m.resultCode? with
  | none => simp
  | some code =>
    have hu : ResultCode.unknownPeer.code = 3010 := rfl
    have hc : code ≤ 3999 ↔ code < 4000 := by
      rw [UInt32.le_iff_toNat_le, UInt32.lt_iff_toNat_lt]
      exact Nat.lt_succ_iff.symm
    simp [ResultCode.isRetryable, ResultCode.isProtocolError, hu, hc, and_assoc]

lemma next?_eq_some (h : s.next? m = some s') : m.IsRetryable ∧ s.retries = s'.retries + 1 ∧
    s'.request = { s.request with header := s.request.header.setRetransmit } := by
  unfold next? at h
  split at h
  · cases h
  · rename_i n hn
    split at h
    · rename_i hm
      obtain rfl := Option.some.inj h
      exact ⟨isRetryable_iff.mp hm, hn, rfl⟩
    · cases h

lemma next?_eq_none (h : s.next? m = none) : s.retries = 0 ∨ ¬ m.IsRetryable := by
  unfold next? at h
  split at h
  · exact .inl ‹_›
  · split at h
    · cases h
    · rename_i hm
      exact .inr fun hr => hm (isRetryable_iff.mpr hr)

end Sending

/-- An attempt was made before another. Its hop-by-hop identifier is another one, provided that not
all that there are were drawn in between. -/
def Attempt.Precedes (a b : Attempt) : Prop :=
  a.drawn < b.drawn ∧
    (b.drawn < a.drawn + 2 ^ 32 → a.message.header.hopByHop ≠ b.message.header.hopByHop)

namespace Network

/-- What becomes of a request that somebody sends. -/
structure Errand where
  request : Message
  /-- How many end-to-end identifiers had been drawn with that of the request, if one was. -/
  named : Option Nat := none
  attempts : List Attempt := []
  /-- What came back, attempt by attempt. -/
  replies : List Message := []
  /-- What the request was answered with in the end. -/
  result : Option Message := none

namespace Errand

variable (site : Site) (seed : Identifiers) (e : Errand)

/-- The end-to-end identifier of all attempts: that of the request, or one drawn for it. -/
def endToEnd : UInt32 :=
  match e.named with
  | none => e.request.header.endToEnd
  | some n => seed.endToEnd + UInt32.ofNat n

/-- A request that may be sent is tried, again as long as the answers tell so and retries are
left, and its sender gets the last answer. -/
structure Tried : Prop where
  sendable : e.request.Sendable
  /-- An identifier is drawn for a request that has none. -/
  named : e.named.isSome ↔ e.request.header.endToEnd = 0
  pos : 0 < e.attempts.length
  count : e.attempts.length ≤ site.settings.retries.toNat + 1
  /-- Attempts are the request, but for identifiers and the mark of a retransmission. -/
  sent : ∀ j a, e.attempts[j]? = some a →
    ∃ hopByHop, a.message = e.request.sentAs (0 < j) hopByHop (e.endToEnd seed)
  /-- No two attempts have one hop-by-hop identifier. -/
  apart : e.attempts.Pairwise Attempt.Precedes
  pace : e.replies.length ≤ e.attempts.length ∧ e.attempts.length ≤ e.replies.length + 1
  answers : ∀ r ∈ e.replies, r.header.isRequest = false
  retried : ∀ j r, e.replies[j]? = some r → j + 1 < e.attempts.length → r.IsRetryable
  ended : ∀ r, e.result = some r → e.replies.length = e.attempts.length ∧
    e.replies.getLast? = some r ∧
    (e.attempts.length < site.settings.retries.toNat + 1 → ¬ r.IsRetryable)

/-- What a request goes through. -/
inductive Disciplined : Prop
  /-- Its sender has not begun. -/
  | untried (ha : e.attempts = []) (hr : e.replies = []) (h : e.result = none)
  /-- It may not be sent, and is answered at once. -/
  | refused {r : Message} (hr : Sending.Refusal site.node e.request r) (ha : e.attempts = [])
    (hn : e.replies = []) (h : e.result = some r)
  | tried (h : e.Tried site seed)

/-- Attempts are numbered from a seed, and so is the request if it had no identifier. -/
structure Counted (drawn named : Nat) : Prop where
  attempts : ∀ a ∈ e.attempts, a.drawn ≤ drawn ∧
    a.message.header.hopByHop = seed.hopByHop + UInt32.ofNat a.drawn
  named : ∀ n, e.named = some n → n ≤ named

/-- A request has been tried and is not done with. -/
structure Underway (s : Sending) : Prop where
  tried : e.Tried site seed
  result : e.result = none
  retries : e.attempts.length + s.retries = site.settings.retries.toNat + 1
  request : s.request = e.request.sentAs (1 < e.attempts.length) e.request.header.hopByHop
    (e.endToEnd seed)

/-- How far a request has come, by the state of its sender. -/
def Stands : SenderState → Prop
  | .fresh m => e = { request := m }
  | .waiting s _ => e.Underway site seed s ∧ e.replies.length + 1 = e.attempts.length
  | .answered s r => e.Underway site seed s ∧ e.replies.length = e.attempts.length ∧
    e.replies.getLast? = some r

variable {site seed e} {s s' : Sending} {st : SenderState} {m r : Message} {a : Attempt}
  {drawn named : Nat}

lemma Stands.disciplined (h : e.Stands site seed st) : e.Disciplined site seed := by
  cases st with
  | fresh m =>
    obtain rfl := h
    exact .untried rfl rfl rfl
  | waiting s m => exact .tried h.1.tried
  | answered s m => exact .tried h.1.tried

lemma Stands.result_eq (h : e.Stands site seed st) : e.result = none := by
  cases st with
  | fresh m =>
    obtain rfl := h
    rfl
  | waiting s m => exact h.1.result
  | answered s m => exact h.1.result

lemma Counted.mono (h : e.Counted seed drawn named) {drawn' named' : Nat} (hd : drawn ≤ drawn')
    (hn : named ≤ named') : e.Counted seed drawn' named' :=
  ⟨fun a ha => ⟨Nat.le_trans (h.attempts a ha).1 hd, (h.attempts a ha).2⟩,
    fun n hk => Nat.le_trans (h.named n hk) hn⟩

lemma Counted.pairwise_append (h : e.Counted seed drawn named)
    (hp : e.attempts.Pairwise Attempt.Precedes) (hd : drawn < a.drawn)
    (ha : a.message.header.hopByHop = seed.hopByHop + UInt32.ofNat a.drawn) :
    (e.attempts ++ [a]).Pairwise Attempt.Precedes := by
  refine List.pairwise_append.mpr ⟨hp, List.pairwise_singleton _ _, fun b hb c hc => ?_⟩
  obtain rfl := List.mem_singleton.mp hc
  obtain ⟨hbd, hbk⟩ := h.attempts b hb
  have hlt : b.drawn < c.drawn := Nat.lt_of_le_of_lt hbd hd
  refine ⟨hlt, fun hw => ?_⟩
  rw [hbk, ha]
  exact UInt32.add_ofNat_ne _ hlt hw

/-- One more answer. -/
def hearing (r : Message) (e : Errand) : Errand := { e with replies := e.replies ++ [r] }

/-- One more attempt, with an end-to-end identifier drawn for it or not. -/
def attempting (named : Option Nat) (a : Attempt) (e : Errand) : Errand :=
  { e with named := named.or e.named, attempts := e.attempts ++ [a] }

/-- The sender is done. -/
def ending (r : Message) (e : Errand) : Errand := { e with result := some r }

/-- What has become of a request stays, and nothing more becomes of it once it is done with. -/
structure Grows (e e' : Errand) : Prop where
  request : e'.request = e.request
  attempts : e.attempts <+: e'.attempts
  replies : e.replies <+: e'.replies
  result : e.result.isSome → e' = e

lemma Grows.refl (e : Errand) : e.Grows e := ⟨rfl, List.prefix_rfl, List.prefix_rfl, fun _ => rfl⟩

lemma Grows.trans {e' e'' : Errand} (h : e.Grows e') (h' : e'.Grows e'') : e.Grows e'' where
  request := h'.request.trans h.request
  attempts := h.attempts.trans h'.attempts
  replies := h.replies.trans h'.replies
  result hr := by
    obtain rfl := h.result hr
    exact h'.result hr

lemma stands_first {ids ids' : Identifiers} {n : Option Nat}
    (hs : Sending.start site.node site.settings.retries.toNat ids m = .ok (s, ids'))
    (hn : n.isSome ↔ m.header.endToEnd = 0)
    (he : ∀ k, n = some k → ids.endToEnd + 1 = seed.endToEnd + UInt32.ofNat k)
    (ha : a.message = (s.attempt ids').1) :
    (attempting n a { request := m }).Stands site seed (.waiting s a.message) := by
  obtain ⟨hm, rfl, rfl⟩ := Sending.start_eq_ok hs
  have hor : (attempting n a { request := m }).named = n := Option.or_none
  have hend : (Sending.naming ids m).1 = (attempting n a { request := m }).endToEnd seed := by
    unfold endToEnd Sending.naming
    rw [hor]
    cases n with
    | none => rw [if_neg fun h => by simpa using hn.mpr h]; rfl
    | some k => rw [if_pos (hn.mp rfl)]; exact he k rfl
  refine ⟨⟨⟨hm, ?_, Nat.zero_lt_one, Nat.succ_le_succ (Nat.zero_le _), ?_,
    List.pairwise_singleton _ _, ⟨Nat.zero_le _, Nat.le_refl _⟩, List.forall_mem_nil _, ?_, ?_⟩,
    rfl, Nat.add_comm _ _, ?_⟩, rfl⟩
  · -- it is numbered if and only if it came without an identifier
    rw [hor]; exact hn
  · -- the only attempt is the first, which is no retransmission
    intro j b hb
    obtain ⟨rfl, rfl⟩ : j = 0 ∧ a = b := by simpa [attempting, List.getElem?_singleton] using hb
    rw [ha, ← hend]
    exact ⟨_, rfl⟩
  · simp [attempting]
  · simp [attempting]
  · -- what is kept for further attempts is what was sent
    rw [← hend]
    rfl

lemma Underway.again (h : e.Underway site seed s) (hl : e.replies.length = e.attempts.length)
    (hr : e.replies.getLast? = some r) (hs : s.next? r = some s') {ids : Identifiers}
    (hc : e.Counted seed drawn named) (hd : drawn < a.drawn)
    (hk : a.message.header.hopByHop = seed.hopByHop + UInt32.ofNat a.drawn)
    (ha : a.message = (s'.attempt ids).1) :
    (attempting none a e).Stands site seed (.waiting s' a.message) := by
  obtain ⟨hretry, hleft, hreq⟩ := Sending.next?_eq_some hs
  have hlen : (attempting none a e).attempts.length = e.attempts.length + 1 := by simp [attempting]
  have hrep : (attempting none a e).replies.length = e.replies.length := rfl
  have hpos := h.tried.pos
  have hcount := h.retries
  have hsent : s'.request =
      e.request.sentAs true e.request.header.hopByHop (e.endToEnd seed) := by
    rw [hreq, h.request]
    exact Message.setRetransmit_sentAs _ _ _ _
  refine ⟨⟨⟨h.tried.sendable, h.tried.named, by omega, by omega, ?_,
    hc.pairwise_append h.tried.apart hd hk, by omega, h.tried.answers, ?_, ?_⟩, h.result, by omega,
    ?_⟩, by omega⟩
  · intro j b hb
    rcases Nat.lt_or_ge j e.attempts.length with hj | hj
    · -- what was sent before stays as it was
      exact h.tried.sent j b (by rwa [attempting, List.getElem?_append_left hj] at hb)
    · -- the new attempt is a retransmission of what was kept
      rw [attempting, List.getElem?_append_right hj, List.getElem?_singleton] at hb
      obtain rfl := Option.some.inj (Option.ite_none_right_eq_some.mp hb).2
      refine ⟨ids.hopByHop + 1, ?_⟩
      rw [ha, decide_eq_true (Nat.lt_of_lt_of_le hpos hj), Sending.attempt, hsent]
      rfl
  · intro j b hb hj
    -- earlier replies led to attempts there were already
    rcases Nat.lt_or_ge (j + 1) e.attempts.length with hlt | hge
    · exact h.tried.retried j b hb hlt
    · -- the last reply is the one that leads to this attempt
      rw [List.getLast?_eq_getElem?, show e.replies.length - 1 = j by omega] at hr
      obtain rfl := Option.some.inj (hr.symm.trans hb)
      exact hretry
  · exact fun b hb => absurd (h.result.symm.trans hb) (by simp)
  · rw [hlen, decide_eq_true (by omega)]
    exact hsent

lemma Underway.hear (h : e.Underway site seed s) (hl : e.replies.length + 1 = e.attempts.length)
    (hr : r.header.isRequest = false) :
    (hearing r e).Stands site seed (.answered s r) := by
  have hlen : (hearing r e).replies.length = e.replies.length + 1 := by simp [hearing]
  have hatt : (hearing r e).attempts.length = e.attempts.length := rfl
  refine ⟨⟨⟨h.tried.sendable, h.tried.named, h.tried.pos, h.tried.count, h.tried.sent,
    h.tried.apart, by omega, ?_, ?_, ?_⟩, h.result, h.retries, h.request⟩, by omega,
    List.getLast?_append_of_ne_nil _ (by simp)⟩
  · intro b hb
    rcases List.mem_append.mp hb with hb | hb
    · exact h.tried.answers b hb
    · exact List.mem_singleton.mp hb ▸ hr
  · intro j b hb hj
    rw [hatt] at hj
    exact h.tried.retried j b (by rwa [hearing, List.getElem?_append_left (by omega)] at hb) hj
  · exact fun b hb => absurd (h.result.symm.trans hb) (by simp)

lemma Underway.finish (h : e.Underway site seed s) (hl : e.replies.length = e.attempts.length)
    (hr : e.replies.getLast? = some r) (hs : s.next? r = none) :
    (ending r e).Disciplined site seed := by
  refine .tried ⟨h.tried.sendable, h.tried.named, h.tried.pos, h.tried.count, h.tried.sent,
    h.tried.apart, h.tried.pace, h.tried.answers, h.tried.retried, fun b hb => ?_⟩
  obtain rfl := Option.some.inj hb
  refine ⟨hl, hr, fun hlt => ?_⟩
  rcases Sending.next?_eq_none hs with h0 | hn
  · have hcount := h.retries
    have hatt : (ending r e).attempts.length = e.attempts.length := rfl
    omega
  · exact hn

lemma disciplined_refused (h : Sending.Refusal site.node m r) :
    (ending r { request := m }).Disciplined site seed := .refused h rfl rfl rfl

end Errand

end Network

end Diameter
