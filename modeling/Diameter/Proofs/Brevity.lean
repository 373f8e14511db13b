import Mathlib.Data.Nat.Digits.Defs
import Mathlib.Data.String.Basic
import Diameter.Proofs.Introduction
import Diameter.Proofs.Padding

/-!
What a node answers on its own is short.

Such an answer repeats the Session-Id of the request and words a failure, which may repeat a text
of the request; all else in it is the node's own. So its length is bounded by the length of the
request and of the wording (`Node.length_errorAnswer_le`). The failures with which messages cannot
be read are worded shortly, whatever is in the message (`Message.wording_ofBody`).
-/

namespace Diameter

lemma Octets.padded_le (n : Nat) : padded n ≤ n + 3 := by
  unfold padded
  omega

lemma Octets.utf8ByteSize_of_text? {b : Octets} {s : String} (h : text? b = some s) :
    s.utf8ByteSize = b.length := by
  unfold text? String.fromUTF8? at h
  split at h
  · obtain rfl := Option.some.inj h
    rfl
  · cases h

/-! ### Wordings -/

lemma utf8ByteSize_le (s : String) : s.utf8ByteSize ≤ 4 * s.length := by
  have (cs : List Char) : String.utf8Len cs ≤ 4 * cs.length := by
    induction cs with
    | nil => exact Nat.le_refl 0
    | cons c cs ih =>
      have := c.utf8Size_le_four
      rw [String.utf8Len_cons, List.length_cons]
      omega
  have h := this s.toList
  rwa [← String.utf8ByteSize_ofList, String.ofList_toList, String.length_toList] at h

lemma utf8ByteSize_toString_le {n k : Nat} (hk : 0 < k) (h : n < 10 ^ k) :
    (toString n).utf8ByteSize ≤ 4 * k :=
  calc (toString n).utf8ByteSize
    _ ≤ 4 * (toString n).length := utf8ByteSize_le _
    _ ≤ 4 * k := Nat.mul_le_mul_left 4 (Nat.repr_length n k hk h)

namespace Failure

/-- Octets of the wording. -/
def wording (e : Failure) : Nat := e.message.utf8ByteSize

lemma wording_invalidMessage (fault : MessageFault) : (invalidMessage fault).wording ≤ 100 := by
  cases fault <;> decide

lemma wording_invalidAvp (code : UInt32) (fault : AvpFault) :
    (invalidAvp code fault).wording ≤ 100 := by
  have hc : (toString code).utf8ByteSize ≤ 4 * 10 :=
    utf8ByteSize_toString_le (by decide) (Nat.lt_trans code.toNat_lt (by decide))
  have hf : fault.name.utf8ByteSize ≤ 18 := by cases fault <;> decide
  have ht : (invalidAvp code fault).message =
    "Invalid AVP " ++ toString code ++ ": " ++ fault.name := rfl
  rw [wording, ht]
  simp only [String.utf8ByteSize_append]
  have : "Invalid AVP ".utf8ByteSize = 12 := rfl
  have : ": ".utf8ByteSize = 2 := rfl
  omega

lemma wording_shortBuffer {k n : Nat} (hk : k < 10 ^ 10) (hn : n < 10 ^ 10) :
    (shortBuffer k n).wording ≤ 200 := by
  have := utf8ByteSize_toString_le (by decide) hk
  have := utf8ByteSize_toString_le (by decide) hn
  have ht : (shortBuffer k n).message =
    "Buffer too small: need " ++ toString k ++ ", have " ++ toString n := rfl
  rw [wording, ht]
  simp only [String.utf8ByteSize_append]
  have : "Buffer too small: need ".utf8ByteSize = 23 := rfl
  have : ", have ".utf8ByteSize = 7 := rfl
  omega

lemma wording_unknownPeer (host : String) :
    (unknownPeer host).wording = 26 + host.utf8ByteSize := by
  have ht : (unknownPeer host).message = "Message from unknown peer " ++ host := rfl
  rw [wording, ht, String.utf8ByteSize_append]
  rfl

end Failure

/-! ### Reading -/

namespace Avp

lemma wireLength_make (code : UInt32) (flags : UInt8) (data : Octets) :
    (make code flags none data).wireLength ≤ data.length + 11 := by
  have := Octets.padded_le (8 + data.length)
  show Octets.padded (8 + data.length) ≤ _
  omega

lemma decode_eq_error {b : Octets} {e : Failure} (h : decode b = .error e) :
    (∃ code, e = .invalidAvp code .badLength) ∨ e = .shortBuffer 8 b.length := by
  unfold decode at h
  split at h
  · exact .inr (Except.error.inj h).symm
  · left
    dsimp only [decodeData] at h
    repeat' split at h
    all_goals first
      | exact ⟨_, (Except.error.inj h).symm⟩
      | cases h

lemma decodeAll_eq_error {b : Octets} {e : Failure} (h : decodeAll b = .error e) :
    (∃ code, e = .invalidAvp code .badLength) ∨ ∃ n ≤ b.length, e = .shortBuffer 8 n := by
  fun_induction decodeAll b with
  | case1 => cases h
  | case2 b hb f hd =>
    obtain rfl := Except.error.inj h
    exact (decode_eq_error hd).imp_right fun he => ⟨b.length, Nat.le_refl _, he⟩
  | case3 b hb a rest hd hl f hr ih =>
    obtain rfl := Except.error.inj h
    refine (ih hr).imp_right fun ⟨n, hn, he⟩ => ⟨n, ?_, he⟩
    omega
  | case4 => cases h

end Avp

namespace Message

variable {m : Message} {h : Header} {body : Octets}

/-- The failure of an unreadable message is worded shortly. -/
lemma wording_ofBody {e : Failure} (hb : body.length < 10 ^ 10) (he : ofBody h body = .error e) :
    e.wording ≤ 200 := by
  unfold ofBody at he
  cases hd : Avp.decodeAll body with
  | ok as =>
    rw [hd] at he
    cases he
  | error f =>
    rw [hd] at he
    obtain rfl := Except.error.inj he
    rcases Avp.decodeAll_eq_error hd with ⟨code, rfl⟩ | ⟨n, hn, rfl⟩
    · exact (Failure.wording_invalidAvp code _).trans (by decide)
    · exact Failure.wording_shortBuffer (by decide) (hn.trans_lt hb)

lemma wireLengthAll_ofBody (hm : ofBody h body = .ok m) :
    Avp.wireLengthAll m.avps = body.length := by
  have ha := (ofBody_eq_ok hm).2.2.1
  rwa [Avp.length_encodeAll] at ha

lemma utf8ByteSize_text? {code : UInt32} {s : String} (hs : m.text? code = some s) :
    s.utf8ByteSize ≤ Avp.wireLengthAll m.avps := by
  obtain ⟨a, ha, hs⟩ := Option.bind_eq_some_iff.mp hs
  calc s.utf8ByteSize
    _ = a.data.length := Octets.utf8ByteSize_of_text? hs
    _ ≤ a.length := Nat.le_add_left _ _
    _ ≤ Avp.wireLengthAll m.avps := Avp.length_le_wireLengthAll (List.mem_of_find?_eq_some ha)

lemma wireLengthAll_sessionId? (m : Message) :
    Avp.wireLengthAll m.sessionId?.toList ≤ Avp.wireLengthAll m.avps := by
  cases hs : m.sessionId? with
  | none => exact Nat.zero_le _
  | some a =>
    show a.wireLength + 0 ≤ _
    exact Avp.wireLength_le_wireLengthAll (List.mem_of_find?_eq_some hs)

end Message

/-! ### Answers -/

namespace Node

variable {n : Node}

lemma utf8ByteSize_of_isValid {s : String} (h : Identity.isValid s) : s.utf8ByteSize ≤ 255 := by
  simp only [Identity.isValid, Bool.and_eq_true, decide_eq_true_eq] at h
  exact h.1.2

lemma wireLengthAll_origin (hn : n.Valid) : Avp.wireLengthAll n.origin ≤ 532 := by
  have named (code : UInt32) {s : String} (hs : Identity.isValid s) :
      (Avp.mandatory code (.diameterIdentity s)).wireLength ≤ 266 :=
    calc (Avp.mandatory code (.diameterIdentity s)).wireLength
      _ ≤ s.utf8ByteSize + 11 := Avp.wireLength_make _ _ _
      _ ≤ 266 := Nat.add_le_add_right (utf8ByteSize_of_isValid hs) 11
  have hh := named Avp.Code.originHost hn.host
  have hr := named Avp.Code.originRealm hn.realm
  rw [origin, Avp.wireLengthAll, Avp.wireLengthAll, Avp.wireLengthAll]
  omega

lemma wireLengthAll_errorDetails (request : List Avp) (e : Failure) :
    Avp.wireLengthAll (errorDetails request e) ≤ Avp.wireLengthAll request + e.wording + 33 := by
  have hm : (Avp.optional Avp.Code.errorMessage (.utf8String e.message)).wireLength ≤
      e.wording + 11 := Avp.wireLength_make _ _ _
  rw [errorDetails, Avp.wireLengthAll]
  cases e.avpCode? with
  | none =>
    show _ + 0 ≤ _
    omega
  | some code =>
    set blamed := (request.find? (·.code == code)).getD (.make code 0 none [])
    have hb : blamed.wireLength ≤ Avp.wireLengthAll request + 11 := by
      show ((request.find? (·.code == code)).getD (.make code 0 none [])).wireLength ≤ _
      cases hf : request.find? (·.code == code) with
      | none =>
        exact (Avp.wireLength_make code 0 []).trans (Nat.add_le_add_right (Nat.zero_le _) 11)
      | some a =>
        have := Avp.wireLength_le_wireLengthAll (List.mem_of_find?_eq_some hf)
        exact Nat.le_add_right_of_le this
    have hf : (Avp.mandatory Avp.Code.failedAvp (.grouped [blamed])).wireLength ≤
        blamed.wireLength + 11 := by
      have h := Avp.wireLength_make Avp.Code.failedAvp Avp.mandatoryFlag (Avp.encodeAll [blamed])
      rwa [Avp.length_encodeAll] at h
    show _ + ((Avp.mandatory Avp.Code.failedAvp (.grouped [blamed])).wireLength + 0) ≤ _
    omega

lemma length_answer_le (hn : n.Valid) (m : Message) (r : ResultCode) :
    (n.answer m r).length ≤ Avp.wireLengthAll m.avps + 564 := by
  have ho := wireLengthAll_origin hn
  have hs := m.wireLengthAll_sessionId?
  have hr : (resultAvp r).wireLength = 12 := wireLength_word _ _
  have ha : (n.answer m r).avps = m.sessionId?.toList ++ resultAvp r :: n.origin := rfl
  rw [Message.length, ha, Avp.wireLengthAll_append, Avp.wireLengthAll, hr, Header.size]
  omega

lemma length_errorAnswer_le (hn : n.Valid) (m : Message) (e : Failure) :
    (n.errorAnswer m e).length ≤ 2 * Avp.wireLengthAll m.avps + e.wording + 600 := by
  have ha := length_answer_le hn m e.resultCode
  have hd := wireLengthAll_errorDetails m.avps e
  have hs : (n.errorAnswer m e).length =
      (n.answer m e.resultCode).length + Avp.wireLengthAll (errorDetails m.avps e) := by
    rw [errorAnswer, Message.length, Message.length, Avp.wireLengthAll_append, Nat.add_assoc]
  omega

lemma length_dwa_le (hn : n.Valid) (m : Message) :
    (n.dwa m).length ≤ Avp.wireLengthAll m.avps + 600 := by
  have ha := length_answer_le hn m .success
  have ho : n.originState.wireLength = 12 := wireLength_word _ _
  have hs : (n.dwa m).length = (n.answer m .success).length + n.originState.wireLength := by
    rw [dwa, Message.push, Message.length, Message.length, Avp.wireLengthAll_append, Nat.add_assoc]
    rfl
  omega

lemma checkLength_errorAnswer (hn : n.Valid) {m : Message} {e : Failure}
    (hm : Avp.wireLengthAll m.avps ≤ 2 ^ 16) (he : e.wording ≤ 2 ^ 17) :
    (n.errorAnswer m e).checkLength = .ok () := by
  have := length_errorAnswer_le hn m e
  exact Message.checkLength_eq_ok.mpr (by omega)

lemma checkLength_headerErrorAnswer (hn : n.Valid) (h : Header) {e : Failure}
    (he : e.wording ≤ 2 ^ 17) : (n.headerErrorAnswer h e).checkLength = .ok () := by
  have hm : n.headerErrorAnswer h e = n.errorAnswer ⟨h, []⟩ e := rfl
  rw [hm]
  exact checkLength_errorAnswer hn (Nat.zero_le _) he

lemma checkLength_dwa (hn : n.Valid) {m : Message} (hm : Avp.wireLengthAll m.avps ≤ 2 ^ 16) :
    (n.dwa m).checkLength = .ok () := by
  have := length_dwa_le hn m
  exact Message.checkLength_eq_ok.mpr (by omega)

end Node

end Diameter
