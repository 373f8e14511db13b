import Mathlib.Tactic.Common
import Diameter.Registry
import Diameter.Sending

/-!
The flags of what a node sends are legal.

A request is not marked as an error, and an answer not as a retransmission, whoever has made them:
the node, a sender that tries again, or a handler through the registry.
-/

namespace Diameter

/-! ### Single flags -/

namespace Header

variable {a b c : UInt8}

lemma mask_or (h : b &&& c = 0) : (a ||| b) &&& c = a &&& c := by
  have hd : (a ||| b) &&& c = a &&& c ||| b &&& c := by
    apply UInt8.eq_of_toBitVec_eq
    ext i hi
    simp [Bool.and_or_distrib_right]
  rw [hd, h, UInt8.or_zero]

lemma mask_or_self (a b : UInt8) : (a ||| b) &&& b = b := by
  apply UInt8.eq_of_toBitVec_eq
  ext i hi
  simp only [UInt8.toBitVec_and, UInt8.toBitVec_or, BitVec.getElem_and, BitVec.getElem_or]
  cases a.toBitVec[i] <;> simp

lemma mask_and (h : b &&& c = 0) : a &&& b &&& c = 0 := by
  rw [UInt8.and_assoc, h, UInt8.and_zero]

variable (h : Header)

@[simp] lemma isRequest_setError : h.setError.isRequest = h.isRequest := by
  simp only [isRequest, setError]
  rw [mask_or (by decide)]

@[simp] lemma isError_setError : h.setError.isError := by
  simp only [isError, setError]
  rw [mask_or_self]
  rfl

@[simp] lemma isRetransmit_setError : h.setError.isRetransmit = h.isRetransmit := by
  simp only [isRetransmit, setError]
  rw [mask_or (by decide)]

@[simp] lemma isRequest_setRetransmit : h.setRetransmit.isRequest = h.isRequest := by
  simp only [isRequest, setRetransmit]
  rw [mask_or (by decide)]

@[simp] lemma isError_setRetransmit : h.setRetransmit.isError = h.isError := by
  simp only [isError, setRetransmit]
  rw [mask_or (by decide)]

@[simp] lemma isRequest_answer : h.answer.isRequest = false := by
  simp only [isRequest, answer]
  rw [mask_and (by decide)]
  rfl

@[simp] lemma isRetransmit_answer : h.answer.isRetransmit = false := by
  simp only [isRetransmit, answer]
  rw [mask_and (by decide)]
  rfl

variable {h}

lemma checkFlags_of_request (hr : h.isRequest) (he : h.isError = false) :
    h.checkFlags = .ok () := by
  simp [checkFlags, hr, he]

lemma checkFlags_of_answer (hr : h.isRequest = false) (ht : h.isRetransmit = false) :
    h.checkFlags = .ok () := by
  simp [checkFlags, hr, ht]

lemma isError_of_checkFlags (hf : h.checkFlags = .ok ()) (hr : h.isRequest) :
    h.isError = false := by
  by_contra he
  simp [checkFlags, hr, he] at hf

end Header

/-! ### What a node writes of itself -/

namespace Node

variable (h : Header) (r : ResultCode)

lemma isRequest_answerHeader : (answerHeader h r).isRequest = false := by
  unfold answerHeader
  split <;> simp

lemma isRetransmit_answerHeader : (answerHeader h r).isRetransmit = false := by
  unfold answerHeader
  split <;> simp

lemma checkFlags_answerHeader : (answerHeader h r).checkFlags = .ok () :=
  Header.checkFlags_of_answer (isRequest_answerHeader h r) (isRetransmit_answerHeader h r)

lemma isRequest_requestHeader (command : UInt32) (ids : Identifiers) :
    (requestHeader command ids).1.isRequest := by
  show (Header.requestFlag &&& Header.requestFlag != 0) = true
  decide

lemma checkFlags_requestHeader (command : UInt32) (ids : Identifiers) :
    (requestHeader command ids).1.checkFlags = .ok () := by
  refine Header.checkFlags_of_request (isRequest_requestHeader command ids) ?_
  show (Header.requestFlag &&& Header.errorFlag != 0) = false
  decide

end Node

/-! ### What others have made -/

namespace Registry

/-- The header of what a handler has made, once it is that of an answer to the request. -/
def answering (request m : Message) : Header :=
  { m.header with
    flags := m.header.flags &&& ~~~(Header.requestFlag ||| Header.retransmitFlag)
    command := request.header.command
    application := request.header.application
    hopByHop := request.header.hopByHop
    endToEnd := request.header.endToEnd }

lemma header_asAnswerTo (request m : Message) :
    (asAnswerTo request m).header = answering request m ∨
      (asAnswerTo request m).header = (answering request m).setError := by
  have marked : ∀ e : Bool, (if e then (answering request m).setError else answering request m) =
      answering request m ∨ (if e then (answering request m).setError else answering request m) =
        (answering request m).setError := by
    rintro (_ | _) <;> simp
  exact marked _

lemma flags_asAnswerTo (request m : Message) :
    (asAnswerTo request m).header.isRequest = false ∧
      (asAnswerTo request m).header.isRetransmit = false := by
  have hr : (answering request m).isRequest = false := by
    simp only [Header.isRequest, answering]
    rw [Header.mask_and (by decide)]
    rfl
  have ht : (answering request m).isRetransmit = false := by
    simp only [Header.isRetransmit, answering]
    rw [Header.mask_and (by decide)]
    rfl
  rcases header_asAnswerTo request m with h | h <;> simp [h, hr, ht]

lemma flags_dispatch (r : Registry) (n : Node) (request : Message) :
    (r.dispatch n request).header.isRequest = false ∧
      (r.dispatch n request).header.isRetransmit = false := by
  have own : ∀ h c, (Node.answerHeader h c).isRequest = false ∧
      (Node.answerHeader h c).isRetransmit = false := fun h c =>
    ⟨Node.isRequest_answerHeader h c, Node.isRetransmit_answerHeader h c⟩
  unfold dispatch
  split
  · exact own _ _
  · split
    · exact flags_asAnswerTo request _
    · exact own _ _
    · exact own _ _

end Registry

/-- What may be sent: a request with legal flags that is not too long. -/
structure Message.Sendable (m : Message) : Prop where
  isRequest : m.header.isRequest
  flags : m.header.checkFlags = .ok ()
  length : m.checkLength = .ok ()

namespace Sending

/-- The end-to-end identifier of a request, drawn if it has none, and the identifiers afterwards. -/
def naming (ids : Identifiers) (m : Message) : UInt32 × Identifiers :=
  if m.header.endToEnd = 0 then ids.nextEndToEnd else (m.header.endToEnd, ids)

/-- What may not be sent, and how it is answered. -/
inductive Refusal (n : Node) (m : Message) : Message → Prop
  | notRequest (h : m.header.isRequest = false) : Refusal n m (n.answer m .unableToComply)
  | flags {e : Failure} (hr : m.header.isRequest) (h : m.header.checkFlags = .error e) :
    Refusal n m (n.errorAnswer m e)
  | length {e : Failure} (hr : m.header.isRequest) (hf : m.header.checkFlags = .ok ())
    (h : m.checkLength = .error e) : Refusal n m (n.errorAnswer m e)

lemma Refusal.not_sendable {n : Node} {m r : Message} (h : Refusal n m r) : ¬ m.Sendable := by
  intro hm
  cases h with
  | notRequest h => exact absurd (h.symm.trans hm.isRequest) (by simp)
  | flags _ h => exact absurd (h.symm.trans hm.flags) (by simp)
  | length _ _ h => exact absurd (h.symm.trans hm.length) (by simp)

/-- A request has been taken on, and perhaps been tried before. -/
inductive Begun (n : Node) : Sending → Prop
  | start {retries : Nat} {ids ids' : Identifiers} {m : Message} {s : Sending}
    (h : start n retries ids m = .ok (s, ids')) : Begun n s
  | again {s s' : Sending} {answer : Message} (h : Begun n s) (hs : s.next? answer = some s') :
    Begun n s'

variable {n : Node} {s : Sending} {m : Message}

lemma start_cases (n : Node) (retries : Nat) (ids : Identifiers) (m : Message) :
    (m.Sendable ∧ start n retries ids m =
      .ok (⟨{ m with header.endToEnd := (naming ids m).1 }, retries⟩, (naming ids m).2)) ∨
    ∃ r, Refusal n m r ∧ start n retries ids m = .error r := by
  unfold start
  split
  · rename_i hr
    -- it is no request
    exact .inr ⟨_, .notRequest (by simpa using hr), rfl⟩
  · rename_i hr
    have hr : m.header.isRequest := by simpa using hr
    split
    · rename_i hf
      -- its flags are illegal
      exact .inr ⟨_, .flags hr hf, rfl⟩
    · rename_i hf
      split
      · rename_i hl
        -- it does not fit into a message
        exact .inr ⟨_, .length hr hf hl, rfl⟩
      · rename_i hl
        refine .inl ⟨⟨hr, hf, hl⟩, ?_⟩
        unfold naming
        split <;> rfl

lemma start_eq_ok {retries : Nat} {ids ids' : Identifiers}
    (h : start n retries ids m = .ok (s, ids')) :
    m.Sendable ∧ s = ⟨{ m with header.endToEnd := (naming ids m).1 }, retries⟩ ∧
      ids' = (naming ids m).2 := by
  obtain ⟨hm, hs⟩ | ⟨r, -, hs⟩ := start_cases n retries ids m
  · obtain ⟨rfl, rfl⟩ := Prod.mk.inj (Except.ok.inj (h.symm.trans hs))
    exact ⟨hm, rfl, rfl⟩
  · exact absurd (h.symm.trans hs) (by simp)

lemma start_eq_error {retries : Nat} {ids : Identifiers} {r : Message}
    (h : start n retries ids m = .error r) : Refusal n m r := by
  obtain ⟨-, hs⟩ | ⟨r', hr, hs⟩ := start_cases n retries ids m
  · exact absurd (h.symm.trans hs) (by simp)
  · obtain rfl := Except.error.inj (h.symm.trans hs)
    exact hr

lemma Begun.flags (h : Begun n s) :
    s.request.header.isRequest ∧ s.request.header.checkFlags = .ok () := by
  induction h with
  | start h =>
    obtain ⟨hm, rfl, -⟩ := start_eq_ok h
    exact ⟨hm.isRequest, hm.flags⟩
  | @again s s' answer _ hs ih =>
    unfold Sending.next? at hs
    split at hs
    · exact absurd hs (by simp)
    · split at hs
      · obtain rfl := Option.some.inj hs
        have hr : s.request.header.setRetransmit.isRequest := by simpa using ih.1
        refine ⟨hr, Header.checkFlags_of_request hr ?_⟩
        rw [Header.isError_setRetransmit]
        exact Header.isError_of_checkFlags ih.2 ih.1
      · exact absurd hs (by simp)

lemma Begun.attempt (h : Begun n s) (ids : Identifiers) :
    (s.attempt ids).1.header.isRequest ∧ (s.attempt ids).1.header.checkFlags = .ok () :=
  h.flags

end Sending

end Diameter
