import Diameter.Message
import Diameter.Proofs.AvpCodec

/-!
Messages survive the wire: what is written is read back, and what follows it is left.

The length of a message is written in 24 bits, in its header, and so is the length of each AVP. A
message that may be written at all has no AVP that is too long for its own field
(`Message.WellFormed.avp`). Main statement: `Message.decode_encode_append`.
-/

namespace Diameter

namespace Avp

lemma flagsFor_of_iff {vendor : Option UInt32} {flags : UInt8}
    (h : flags &&& vendorFlag ≠ 0 ↔ vendor.isSome) : flagsFor vendor flags = flags := by
  have set : ∀ b : BitVec 8, b &&& 0x80 ≠ 0 → b ||| 0x80 = b := by decide
  have clear : ∀ b : BitVec 8, b &&& 0x80 = 0 → b &&& ~~~0x80 = b := by decide
  cases vendor with
  | none =>
    have hz : flags &&& vendorFlag = 0 := by simpa using h
    exact UInt8.eq_of_toBitVec_eq (clear flags.toBitVec (congrArg UInt8.toBitVec hz))
  | some v =>
    have hs : flags &&& vendorFlag ≠ 0 := h.mpr rfl
    refine UInt8.eq_of_toBitVec_eq (set flags.toBitVec fun hb => hs ?_)
    exact UInt8.eq_of_toBitVec_eq hb

lemma wireLengthAll_mod_four (as : List Avp) : wireLengthAll as % 4 = 0 := by
  induction as with
  | nil => rfl
  | cons a as ih =>
    have ha : a.wireLength % 4 = 0 := Octets.padded_mod_four a.length
    rw [wireLengthAll]
    omega

lemma wireLengthAll_append (as bs : List Avp) :
    wireLengthAll (as ++ bs) = wireLengthAll as + wireLengthAll bs := by
  induction as with
  | nil => exact (Nat.zero_add _).symm
  | cons a as ih => rw [List.cons_append, wireLengthAll, wireLengthAll, ih, Nat.add_assoc]

lemma wireLength_le_wireLengthAll {as : List Avp} {a : Avp} (h : a ∈ as) :
    a.wireLength ≤ wireLengthAll as := by
  obtain ⟨bs, cs, rfl⟩ := List.append_of_mem h
  rw [wireLengthAll_append, wireLengthAll]
  omega

lemma length_le_wireLengthAll {as : List Avp} {a : Avp} (h : a ∈ as) :
    a.length ≤ wireLengthAll as :=
  Nat.le_trans (Octets.le_padded a.length) (wireLength_le_wireLengthAll h)

end Avp

namespace Header

lemma fields_encode (h : Header) (n : Nat) :
    (h.encode n).getD 0 0 = h.version ∧ ((h.encode n).drop 1).take 3 = Octets.ofNat 3 n ∧
      (h.encode n).getD 4 0 = h.flags ∧
      ((h.encode n).drop 5).take 3 = Octets.ofNat 3 h.command.toNat ∧
      ((h.encode n).drop 8).take 4 = Octets.ofWord h.application ∧
      ((h.encode n).drop 12).take 4 = Octets.ofWord h.hopByHop ∧
      ((h.encode n).drop 16).take 4 = Octets.ofWord h.endToEnd := by
  refine ⟨rfl, rfl, rfl, rfl, rfl, rfl, rfl⟩

/-- What a header is read back as: a command has 24 bits. -/
def onWire (h : Header) : Header := { h with command := UInt32.ofNat (h.command.toNat % 2 ^ 24) }

lemma onWire_of_lt {h : Header} (hc : h.command.toNat < 2 ^ 24) : h.onWire = h := by
  rw [onWire, Nat.mod_eq_of_lt hc, UInt32.ofNat_toNat]

/-- A header is read back unless the length that it announces, of which 24 bits are written, is none
of a message. -/
lemma decode_written {h : Header} (hv : h.version = currentVersion) (n : Nat)
    (rest : Octets) : decode (h.encode n ++ rest) =
      if n % 2 ^ 24 < size ∨ n % 2 ^ 24 % 4 ≠ 0 then .error (.invalidMessage .badLength)
      else .ok (h.onWire, n % 2 ^ 24, rest) := by
  obtain ⟨h₀, h₁, h₂, h₃, h₄, h₅, h₆⟩ := h.fields_encode n
  have hk : Octets.toWord (Octets.ofNat 3 h.command.toNat) =
      UInt32.ofNat (h.command.toNat % 2 ^ 24) := by
    rw [Octets.toWord, Octets.toNat_ofNat]
    rfl
  have hn : Octets.toNat (Octets.ofNat 3 n) = n % 2 ^ 24 := Octets.toNat_ofNat 3 n
  rw [decode, Avp.split?_append (h.length_encode n)]
  dsimp only
  rw [h₀, h₁, h₂, h₃, h₄, h₅, h₆, hk, hn, Octets.toWord_ofWord,
    Octets.toWord_ofWord, Octets.toWord_ofWord, if_neg (not_not_intro hv)]
  rfl

lemma decode_append {h : Header} {n : Nat} (hv : h.version = currentVersion)
    (hc : h.command.toNat < 2 ^ 24) (hn : size ≤ n) (hm : n % 4 = 0) (hl : n < 2 ^ 24)
    (rest : Octets) : decode (h.encode n ++ rest) = .ok (h, n, rest) := by
  rw [decode_written hv, Nat.mod_eq_of_lt hl, if_neg (by omega), onWire_of_lt hc]

end Header

namespace Message

/-- A message that may be written as it is: of the current version, with a command of 24 bits, with
AVPs whose vendor flag tells whether there is a vendor, and not too long. -/
structure WellFormed (m : Message) : Prop where
  version : m.header.version = Header.currentVersion
  command : m.header.command.toNat < 2 ^ 24
  vendors : ∀ a ∈ m.avps, a.flags &&& Avp.vendorFlag ≠ 0 ↔ a.vendor.isSome
  length : m.checkLength = .ok ()

lemma checkLength_eq_ok {m : Message} : m.checkLength = .ok () ↔ m.length < 2 ^ 24 := by
  rw [checkLength, Header.maxLength]
  split
  · simp only [reduceCtorEq, false_iff]
    omega
  · simp only [true_iff]
    omega

lemma length_mod_four (m : Message) : m.length % 4 = 0 := by
  have := Avp.wireLengthAll_mod_four m.avps
  rw [length, Header.size]
  omega

/-- The AVPs of a message that is not too long are not too long either. -/
lemma WellFormed.avp {m : Message} (h : m.WellFormed) {a : Avp} (ha : a ∈ m.avps) :
    a.WellFormed where
  flags := Avp.flagsFor_of_iff (h.vendors a ha)
  length := by
    have hm := checkLength_eq_ok.mp h.length
    have := Avp.length_le_wireLengthAll ha
    rw [Message.length] at hm
    omega

lemma decode_encode_onWire {m : Message} (hv : m.header.version = Header.currentVersion)
    (hl : m.checkLength = .ok ()) (ha : ∀ a ∈ m.avps, a.WellFormed) (rest : Octets) :
    decode (m.encode ++ rest) = .ok (⟨m.header.onWire, m.avps⟩, rest) := by
  have hs : Header.size ≤ m.length := Nat.le_add_right _ _
  have hb : (Avp.encodeAll m.avps).length = m.length - Header.size := by
    rw [Avp.length_encodeAll, length, Nat.add_sub_cancel_left]
  have hm : m.length % 2 ^ 24 = m.length := Nat.mod_eq_of_lt (checkLength_eq_ok.mp hl)
  have hf := m.length_mod_four
  rw [encode, List.append_assoc, decode, Header.decode_written hv, hm, if_neg (by omega)]
  dsimp only
  rw [Avp.split?_append hb]
  dsimp only
  rw [ofBody, Avp.decodeAll_encodeAll ha]
  rfl

lemma decode_append {m : Message} (h : m.WellFormed) (rest : Octets) :
    decode (m.encode ++ rest) = .ok (m, rest) := by
  rw [decode_encode_onWire h.version h.length (fun a ha => h.avp ha), Header.onWire_of_lt h.command]

/-- **A message survives the wire.** It is read back as it was, whatever follows it, which is left
as it is. Its octets are as many as its length says, a multiple of four, and that is what the
header announces. -/
theorem decode_encode_append {m : Message} (h : m.WellFormed) (rest : Octets) :
    decode (m.encode ++ rest) = .ok (m, rest) ∧ m.encode.length = m.length ∧ m.length % 4 = 0 ∧
      Octets.toNat ((m.encode.drop 1).take 3) = m.length := by
  refine ⟨decode_append h rest, m.length_encode, m.length_mod_four, ?_⟩
  have ht : (m.encode.drop 1).take 3 = Octets.ofNat 3 m.length := rfl
  rw [ht, Octets.toNat_ofNat]
  exact Nat.mod_eq_of_lt (checkLength_eq_ok.mp h.length)

/-- A message with a vendor's AVP, whose data is not a multiple of four, and a plain one survives,
with an octet behind it. -/
theorem decode_encode_append_vendor :
    let m : Message := ⟨Header.request 272 4,
      [.make 1 Avp.mandatoryFlag (some 10415) [1, 2, 3], .make 264 0 none (Octets.ofText "b")]⟩
    m.WellFormed ∧ m.encode.length = 48 ∧ decode (m.encode ++ [7]) = .ok (m, [7]) := by
  intro m
  have h : m.WellFormed :=
    ⟨rfl, by decide, by decide, by decide⟩
  exact ⟨h, by decide, (decode_encode_append h [7]).1⟩

end Message

end Diameter
