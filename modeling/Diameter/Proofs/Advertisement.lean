import Mathlib.Data.List.Induction
import Mathlib.Data.String.Basic
import Diameter.Proofs.Introduction
import Diameter.Proofs.MessageCodec

/-!
What a node says of itself survives the wire.

Every AVP that a node writes into a CER or a CEA is well formed as long as it is short enough, so
what is read back of the message has the same AVPs (`Node.decode_introducing`), and they describe
the node. A CEA is longer than a CER by its Result-Code (`Node.length_cea`), so it can be too long
for its length field when the CER is not. Main statement: `Node.capabilities_survive`.
-/

namespace Diameter

namespace Avp

variable {a : Avp}

/-- The vendor flag tells whether there is a vendor. -/
def Flagged (a : Avp) : Prop := a.flags &&& vendorFlag ≠ 0 ↔ a.vendor.isSome

lemma flagged_make (code : UInt32) (flags : UInt8) (vendor : Option UInt32) (data : Octets) :
    (make code flags vendor data).Flagged := by
  show flagsFor vendor flags &&& vendorFlag ≠ 0 ↔ _
  rw [ne_eq, flagsFor_and_vendorFlag, Option.isSome_iff_ne_none]
  rfl

lemma flagged_mandatory (code : UInt32) (v : Value) : (mandatory code v).Flagged :=
  flagged_make _ _ _ _

lemma flagged_optional (code : UInt32) (v : Value) : (optional code v).Flagged :=
  flagged_make _ _ _ _

end Avp

/-! ### Vendors -/

namespace Node

lemma supportedVendors_concat (as : List Application) (a : Application) :
    supportedVendors (as ++ [a]) =
      if a.vendor ≠ 0 ∧ a.vendor ∉ supportedVendors as then supportedVendors as ++ [a.vendor]
      else supportedVendors as := by
  rw [supportedVendors, List.foldl_append]
  rfl

/-- The vendors of applications, without repetition and without vendor 0. -/
def vendorsOf (as : List Application) : List UInt32 :=
  ((as.map Application.vendor).filter (· ≠ 0)).eraseDups

lemma eraseDups_concat (vs : List UInt32) (v : UInt32) :
    (vs ++ [v]).eraseDups = if v ∈ vs then vs.eraseDups else vs.eraseDups ++ [v] := by
  rw [List.eraseDups_append]
  by_cases h : v ∈ vs <;> simp [List.removeAll, List.eraseDups_cons, h]

lemma vendorsOf_concat (as : List Application) (a : Application) :
    vendorsOf (as ++ [a]) =
      if a.vendor ≠ 0 ∧ a.vendor ∉ vendorsOf as then vendorsOf as ++ [a.vendor]
      else vendorsOf as := by
  have hm : a.vendor ∈ vendorsOf as ↔ a.vendor ∈ (as.map Application.vendor).filter (· ≠ 0) :=
    List.mem_eraseDups
  rw [vendorsOf, List.map_append, List.filter_append]
  by_cases hz : a.vendor = 0
  · simp [hz, vendorsOf]
  · have hs : ([a].map Application.vendor).filter (· ≠ 0) = [a.vendor] := by simp [hz]
    rw [hs, eraseDups_concat]
    by_cases h : a.vendor ∈ vendorsOf as
    · rw [if_pos (hm.mp h), if_neg fun hn => hn.2 h, vendorsOf]
    · rw [if_neg (mt hm.mpr h), if_pos ⟨hz, h⟩, vendorsOf]

lemma supportedVendors_eq (as : List Application) : supportedVendors as = vendorsOf as := by
  induction as using List.reverseRecOn with
  | nil => rfl
  | append_singleton as a ih => rw [supportedVendors_concat, vendorsOf_concat, ih]

/-! ### Messages that introduce a node -/

variable (n : Node)

lemma flagged_introduction : ∀ a ∈ n.introduction, a.Flagged := by
  intro a ha
  simp only [introduction, origin, capabilities, originState, List.mem_append, List.mem_map,
    List.mem_cons, List.not_mem_nil, or_false] at ha
  rcases ha with (rfl | rfl) | (((⟨x, -, rfl⟩ | rfl | rfl | rfl) | ⟨v, -, rfl⟩) | ⟨x, -, rfl⟩) |
    ⟨r, -, rfl⟩
  case inr.inl.inr =>
    rw [applicationAvp_eq]
    split <;> exact Avp.flagged_mandatory _ _
  all_goals first
    | exact Avp.flagged_mandatory _ _
    | exact Avp.flagged_optional _ _

/-- A CEA has one AVP more than a CER, and is as much longer. -/
lemma length_cea (cer : Message) (r : ResultCode) (ids : Identifiers) :
    (n.cea cer r).length = (n.cer ids).1.length + 12 := by
  have hr : (resultAvp r).wireLength = 12 := wireLength_word _ _
  have ha : (n.cea cer r).avps = resultAvp r :: n.introduction := rfl
  have hc : (n.cer ids).1.avps = n.introduction := rfl
  rw [Message.length, Message.length, ha, hc, Avp.wireLengthAll, hr]
  omega

/-- What is read back of a message that introduces a node and is not too long. -/
lemma decode_introducing {m : Message} (hv : m.header.version = Header.currentVersion)
    (hf : ∀ a ∈ m.avps, a.Flagged) (hl : m.checkLength = .ok ()) (rest : Octets) :
    Message.decode (m.encode ++ rest) = .ok (⟨m.header.onWire, m.avps⟩, rest) := by
  refine Message.decode_encode_onWire hv hl (fun a ha => ⟨Avp.flagsFor_of_iff (hf a ha), ?_⟩) rest
  have := Message.checkLength_eq_ok.mp hl
  have := Avp.length_le_wireLengthAll ha
  rw [Message.length] at *
  omega

lemma version_answerHeader (h : Header) (r : ResultCode) :
    (answerHeader h r).version = Header.currentVersion := by
  unfold answerHeader
  split <;> rfl

/-- A node as it was set up. -/
def profile : Capabilities where
  host := n.host
  realm := n.realm
  addresses := n.addresses
  vendor := n.vendor
  product := n.product
  stateId := some n.stateId
  supportedVendors := vendorsOf n.applications
  applications := n.applications
  firmware := n.firmware

lemma described_eq_profile : n.described = n.profile := by
  rw [described, profile, supportedVendors_eq]

variable {n}

/-- **What a node says of itself survives the wire.** If its CER is not too long, what is read of
the octets is the node as it was set up, whatever follows them. So is what is read of a CEA, to
whatever CER and with whatever result, if that is not too long either; it is not if there are 12
octets of room. -/
theorem capabilities_survive {s : Settings} {i : UInt32} (h : ofSettings s i = .ok n)
    (ids : Identifiers) (hl : (n.cer ids).1.checkLength = .ok ()) :
    (∀ rest, ∃ m, Message.decode ((n.cer ids).1.encode ++ rest) = .ok (m, rest) ∧
      Capabilities.ofCer m = .ok n.profile) ∧
    ∀ cer r, ((n.cea cer r).checkLength = .ok () ↔ (n.cer ids).1.length + 12 ≤ Header.maxLength) ∧
      ((n.cea cer r).checkLength = .ok () →
        ∀ rest, ∃ m, Message.decode ((n.cea cer r).encode ++ rest) = .ok (m, rest) ∧
          Capabilities.ofCea m = .ok n.profile) := by
  have hn : n.Valid := valid_of_ofSettings h
  refine ⟨fun rest => ?_, fun cer r => ⟨?_, fun hc rest => ?_⟩⟩
  · -- the request itself, which starts with the node's introduction
    have hd := decode_introducing (m := (n.cer ids).1) rfl n.flagged_introduction hl rest
    refine ⟨_, hd, ?_⟩
    rw [← described_eq_profile]
    exact n.introduces_introduction.ofCer hn
  · -- the answer has one more AVP, the Result-Code
    rw [Message.checkLength_eq_ok, length_cea n cer r ids, Header.maxLength]
    omega
  · -- the answer, whose introduction stands behind that AVP
    have hf : ∀ a ∈ (n.cea cer r).avps, a.Flagged :=
      List.forall_mem_cons.mpr ⟨Avp.flagged_mandatory _ _, n.flagged_introduction⟩
    have hd := decode_introducing (version_answerHeader cer.header r) hf hc rest
    refine ⟨_, hd, ?_⟩
    rw [← described_eq_profile]
    exact (n.introduces_resultAvp r).ofCea hn

/-- Applications of three vendors, repeated, of both kinds and with the relay among them, read of a
CER with two octets behind it and of the CEA that refuses it. -/
theorem capabilities_survive_vendors :
    let as : List Application := [.vendorAuth 10415 7, .auth 4, .acct 9 3, .relay, .acct 10415 7]
    let s : Settings :=
      { host := "a", realm := "realm", addresses := [.v4 1, .v6 2 3, .v4 1], vendor := 5
        product := "π", firmware := some 6, applications := as }
    let c : Capabilities :=
      { host := "a", realm := "realm", addresses := [.v4 1, .v6 2 3, .v4 1], vendor := 5
        product := "π", stateId := some 8, supportedVendors := [10415, 9], applications := as
        firmware := some 6 }
    ∃ n m k, ofSettings s 8 = .ok n ∧ (n.cer {}).1.checkLength = .ok () ∧
      Message.decode ((n.cer {}).1.encode ++ [1, 2]) = .ok (m, [1, 2]) ∧
      Capabilities.ofCer m = .ok c ∧
      Message.decode ((n.cea m .noCommonApplication).encode ++ []) = .ok (k, []) ∧
      Capabilities.ofCea k = .ok c := by
  intro as s c
  let n : Node :=
    { host := s.host, realm := s.realm, addresses := s.addresses, vendor := s.vendor
      product := s.product, firmware := s.firmware, applications := s.applications
      peer := s.peer, stateId := 8 }
  have hn : ofSettings s 8 = .ok n := by decide +kernel
  have hl : (n.cer {}).1.checkLength = .ok () := by decide +kernel
  have hp : n.profile = c := by decide +kernel
  obtain ⟨hcer, hcea⟩ := capabilities_survive hn {} hl
  obtain ⟨m, hm, hc⟩ := hcer [1, 2]
  obtain ⟨hroom, hcea⟩ := hcea m .noCommonApplication
  obtain ⟨k, hk, hd⟩ := hcea (hroom.mpr (by decide +kernel)) []
  exact ⟨n, m, k, hn, hl, hm, hp ▸ hc, hk, hp ▸ hd⟩

/-! ### The CEA that is too long -/

lemma utf8ByteSize_replicate (k : Nat) :
    (String.ofList (List.replicate k 'p')).utf8ByteSize = k := by
  rw [String.utf8ByteSize_ofList]
  induction k with
  | zero => rfl
  | succ k ih =>
    rw [List.replicate_succ, String.utf8Len_cons, ih]
    rfl

/-- A node whose product has a name of `k` letters. -/
def wordy (k : Nat) : Node where
  host := "a"
  realm := "realm"
  addresses := [.v4 0x0a000001]
  vendor := 0
  product := String.ofList (List.replicate k 'p')
  firmware := none
  applications := [.auth 4]
  peer := {}
  stateId := 0

lemma length_cer_wordy (k : Nat) (ids : Identifiers) :
    ((wordy k).cer ids).1.length = 100 + Octets.padded (8 + k) := by
  have hp : (Avp.optional Avp.Code.productName (.utf8String (wordy k).product)).wireLength =
      Octets.padded (8 + k) :=
    congrArg (fun l => Octets.padded (8 + l)) (utf8ByteSize_replicate k)
  have hi : ((wordy k).cer ids).1.avps =
      [.mandatory Avp.Code.originHost (.diameterIdentity "a"),
        .mandatory Avp.Code.originRealm (.diameterIdentity "realm"),
        .mandatory Avp.Code.hostIpAddress (.address (.v4 0x0a000001)),
        .mandatory Avp.Code.vendorId (.unsigned32 0),
        .optional Avp.Code.productName (.utf8String (wordy k).product),
        .mandatory Avp.Code.originStateId (.unsigned32 0),
        .mandatory Avp.Code.authApplicationId (.unsigned32 4)] := rfl
  rw [Message.length, hi]
  simp only [Avp.wireLengthAll, hp]
  show 20 + (12 + (16 + (16 + (12 + (Octets.padded (8 + k) + (12 + (12 + 0))))))) = _
  omega

lemma ofSettings_wordy (k : Nat) :
    ofSettings { host := "a", realm := "realm", addresses := [.v4 0x0a000001]
                 product := String.ofList (List.replicate k 'p'), applications := [.auth 4] } 0 =
      .ok (wordy k) := by
  have hh : Identity.isValid "a" = true := by decide +kernel
  have hr : Identity.isValid "realm" = true := by decide +kernel
  simp [ofSettings, Settings.check, hh, hr, Except.map, wordy]

/-- A product name of 16777104 letters leaves room for the CER but not for the CEA: 24 bits of its
length are written, which are 8, and nobody reads that. -/
theorem capabilities_lost :
    let n := wordy 16777104
    ofSettings { host := "a", realm := "realm", addresses := [.v4 0x0a000001]
                 product := String.ofList (List.replicate 16777104 'p'), applications := [.auth 4] }
        0 = .ok n ∧
      (∀ ids, (n.cer ids).1.checkLength = .ok ()) ∧
      ∀ cer r rest, Message.decode ((n.cea cer r).encode ++ rest) =
        .error (.invalidMessage .badLength) := by
  intro n
  have hl (ids : Identifiers) : (n.cer ids).1.length = 16777212 := length_cer_wordy 16777104 ids
  refine ⟨ofSettings_wordy 16777104, fun ids => ?_, fun cer r rest => ?_⟩
  · rw [Message.checkLength_eq_ok, hl]
    decide
  · have hv : (n.cea cer r).header.version = Header.currentVersion :=
      version_answerHeader cer.header r
    have hw : (n.cea cer r).length % 2 ^ 24 = 8 := by
      rw [length_cea n cer r {}, hl]
      rfl
    rw [Message.encode, List.append_assoc, Message.decode, Header.decode_written hv, hw]
    rfl

end Node

end Diameter
