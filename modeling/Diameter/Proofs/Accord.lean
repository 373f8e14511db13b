import Diameter.Proofs.Introduction
import Diameter.Proofs.Negotiation

/-!
Both ends of a capabilities exchange come to the same result.

What the answering end makes of the other's CER (`Node.answerCer_cer`) and what the other then makes
of the CEA (`Node.acceptCea_cea`, `Node.acceptCea_errorCea`) are two negotiations with the lists of
applications swapped. Main statement: `Node.exchange_agrees`.
-/

namespace Diameter

/-- The peer is a certain node. -/
def PeerIdentity.Is (p : PeerIdentity) (n : Node) : Prop := p.host = n.host ∧ p.realm = n.realm

namespace Node

variable {a b : Node}

lemma resultCode?_errorCea (n : Node) (cer : Message) (e : Failure) :
    (n.errorCea cer e).resultCode? = some e.resultCode.code :=
  n.resultCode?_cea cer e.resultCode

/-- An answer that refuses for want of a common application is taken for what it is. -/
lemma acceptCea_errorCea (n here : Node) (cer : Message) :
    here.acceptCea (n.errorCea cer (.invalidMessage .unsupportedApplication)) =
      .error (.answered ResultCode.applicationUnsupported.code) := by
  rw [acceptCea, resultCode?_errorCea]
  rfl

/-- What becomes of a CER in order is up to the negotiation. -/
lemma answerCer_cer (here : Node) (ha : a.Valid) (ids : Identifiers) :
    here.answerCer (a.cer ids).1 = match negotiate here.applications a.applications with
      | .ok as => .accept ⟨a.host, a.realm, as⟩ (here.cea (a.cer ids).1 .success)
      | .error e => .reject e (here.errorCea (a.cer ids).1 e) := by
  rw [answerCer, identify_cer here ha]
  cases negotiate here.applications a.applications <;> rfl

/-- **Both ends of a capabilities exchange agree.** If the CER of one node is accepted by another,
so is the CEA by the one; each has bound the other as who it is, and unless both are relays they
have found the same applications. If it is rejected, the one is told why. It is accepted exactly if
one is a relay and the other supports anything, or both support some application. -/
theorem exchange_agrees {s t : Settings} {i j : UInt32} (ha : ofSettings s i = .ok a)
    (hb : ofSettings t j = .ok b) (ids : Identifiers) :
    (∀ p cea, b.answerCer (a.cer ids).1 = .accept p cea →
      p.Is a ∧ ∃ q, a.acceptCea cea = .ok q ∧ q.Is b ∧
        (¬ (a.isRelay ∧ b.isRelay) →
          ∀ k, k ∈ Application.keys p.applications ↔ k ∈ Application.keys q.applications)) ∧
    (∀ e cea, b.answerCer (a.cer ids).1 = .reject e cea →
      a.acceptCea cea = .error (.answered e.resultCode.code)) ∧
    ((∃ p cea, b.answerCer (a.cer ids).1 = .accept p cea) ↔
      a.isRelay ∧ b.applications ≠ [] ∨ b.isRelay ∧ a.applications ≠ [] ∨
        ∃ x ∈ a.applications, ∃ y ∈ b.applications, x.key = y.key) := by
  have hab := answerCer_cer b (valid_of_ofSettings ha) ids
  have hba := acceptCea_cea a (valid_of_ofSettings hb) (a.cer ids).1
  refine ⟨?_, ?_, ?_⟩
  · -- the request is accepted: both sides negotiated the same two lists
    intro p cea h
    rw [hab] at h
    cases hn : negotiate b.applications a.applications with
    | error e =>
      rw [hn] at h
      cases h
    | ok as =>
      rw [hn] at h
      cases h
      obtain ⟨bs, hm⟩ := negotiate_symm hn
      refine ⟨⟨rfl, rfl⟩, ⟨b.host, b.realm, bs⟩, ?_, ⟨rfl, rfl⟩, fun hr k => ?_⟩
      · rw [hba, hm]
        rfl
      · exact mem_keys_negotiate hn hm (fun h => hr h.symm) k
  · -- the request is rejected, and the answer carries the error back
    intro e cea h
    rw [hab] at h
    cases hn : negotiate b.applications a.applications with
    | ok as =>
      rw [hn] at h
      cases h
    | error f =>
      rw [hn] at h
      cases h
      obtain rfl := negotiate_eq_error hn
      exact acceptCea_errorCea b a _
  · -- accepting it is succeeding in the negotiation
    have hc : (∃ p cea, b.answerCer (a.cer ids).1 = .accept p cea) ↔
        ∃ as, negotiate b.applications a.applications = .ok as := by
      rw [hab]
      cases negotiate b.applications a.applications <;> simp
    rw [hc, negotiate_ok_iff]
    constructor
    · rintro (h | h | ⟨y, hy, x, hx, h⟩)
      · exact .inl h
      · exact .inr (.inl h)
      · -- the two sides name the shared application in the other order
        exact .inr (.inr ⟨x, hx, y, hy, h.symm⟩)
    · rintro (h | h | ⟨x, hx, y, hy, h⟩)
      · exact .inl h
      · exact .inr (.inl h)
      · exact .inr (.inr ⟨y, hy, x, hx, h.symm⟩)

/-- Two nodes support the same of two vendors, in another order and otherwise advertised. -/
theorem exchange_agrees_reordered :
    let s : Settings :=
      { host := "a", realm := "realm", addresses := [.v4 1]
        applications := [.auth 4, .vendorAuth 10415 7, .auth 4] }
    let t : Settings :=
      { host := "b", realm := "realm", addresses := [.v4 2]
        applications := [.acct 10415 7, .acct 0 4, .auth 9] }
    ∃ a b p q cea, ofSettings s 1 = .ok a ∧ ofSettings t 2 = .ok b ∧
      b.answerCer (a.cer {}).1 = .accept p cea ∧ a.acceptCea cea = .ok q ∧ p.Is a ∧ q.Is b ∧
      ∀ k, k ∈ Application.keys p.applications ↔ k ∈ Application.keys q.applications := by
  intro s t
  let node (s : Settings) (i : UInt32) : Node :=
    { host := s.host, realm := s.realm, addresses := s.addresses, vendor := s.vendor
      product := s.product, firmware := s.firmware, applications := s.applications
      peer := s.peer, stateId := i }
  have ha : ofSettings s 1 = .ok (node s 1) := by decide +kernel
  have hb : ofSettings t 2 = .ok (node t 2) := by decide +kernel
  obtain ⟨haccept, -, hiff⟩ := exchange_agrees ha hb {}
  obtain ⟨p, cea, hp⟩ := hiff.mpr (by decide +kernel)
  obtain ⟨hpa, q, hq, hqb, hk⟩ := haccept p cea hp
  exact ⟨_, _, p, q, cea, ha, hb, hp, hq, hpa, hqb, hk (by decide +kernel)⟩

end Node

end Diameter
