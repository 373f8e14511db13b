import Mathlib.Tactic.Common
import Diameter.Avp.Value
import Diameter.Proofs.OctetWords

/-!
AVPs survive the wire: what is written is read back, one by one and in lists, and typed values
are read back from the data they were written to.
-/

namespace Diameter

theorem Address.ofOctets?_octets (a : Address) : ofOctets? a.octets = some a := by
  cases a with
  | v4 bits => simp [octets, ofOctets?]
  | v6 high low =>
    have h : (Octets.ofLongWord high ++ Octets.ofLongWord low).take 8 = Octets.ofLongWord high :=
      List.take_left' (by simp)
    have l : (Octets.ofLongWord high ++ Octets.ofLongWord low).drop 8 = Octets.ofLongWord low :=
      List.drop_left' (by simp)
    simp [octets, ofOctets?, h, l]

namespace Avp

/-- The vendor flag tells whether there is a vendor, and the length fits its field. -/
structure WellFormed (a : Avp) : Prop where
  flags : flagsFor a.vendor a.flags = a.flags
  length : a.length < 2 ^ 24

lemma flagsFor_and_vendorFlag (vendor : Option UInt32) (flags : UInt8) :
    flagsFor vendor flags &&& vendorFlag = 0 ↔ vendor = none := by
  cases vendor with
  | none =>
    have h : flagsFor none flags &&& vendorFlag = 0 := by
      rw [flagsFor, if_neg (by simp), UInt8.and_assoc]
      exact UInt8.and_zero
    simp [h]
  | some v =>
    have hb : (flags ||| vendorFlag) &&& vendorFlag = vendorFlag := by
      apply UInt8.toBitVec_inj.mp
      simp only [UInt8.toBitVec_and, UInt8.toBitVec_or]
      ext i hi
      simp only [BitVec.getElem_and, BitVec.getElem_or]
      cases flags.toBitVec[i] <;> cases vendorFlag.toBitVec[i] <;> rfl
    have h : flagsFor (some v) flags &&& vendorFlag ≠ 0 := by
      rw [flagsFor, if_pos (by simp), hb]
      decide
    simp [h]

lemma WellFormed.vendor {a : Avp} (h : a.WellFormed) :
    a.flags &&& vendorFlag ≠ 0 ↔ a.vendor.isSome := by
  rw [← h.flags, ne_eq, flagsFor_and_vendorFlag, Option.isSome_iff_ne_none]

lemma flagsFor_flagsFor (vendor : Option UInt32) (flags : UInt8) :
    flagsFor vendor (flagsFor vendor flags) = flagsFor vendor flags := by
  cases vendor with
  | none =>
    simp only [flagsFor, Option.isSome_none, Bool.false_eq_true, if_false]
    rw [UInt8.and_assoc, UInt8.and_self]
  | some v =>
    simp only [flagsFor, Option.isSome_some, if_true]
    rw [UInt8.or_assoc, UInt8.or_self]

lemma wellFormed_make {code : UInt32} {flags : UInt8} {vendor : Option UInt32} {data : Octets}
    (h : (make code flags vendor data).length < 2 ^ 24) :
    (make code flags vendor data).WellFormed :=
  ⟨flagsFor_flagsFor vendor flags, h⟩

/-- The first eight octets of an AVP. -/
def head (a : Avp) : Octets :=
  Octets.ofWord a.code ++ flagsFor a.vendor a.flags :: Octets.ofNat 3 a.length

/-- What is written of an AVP before its padding. -/
def content (a : Avp) : Octets := a.head ++ ((a.vendor.map Octets.ofWord).getD [] ++ a.data)

lemma length_head (a : Avp) : a.head.length = 8 := by simp [head]

lemma length_content (a : Avp) : a.content.length = a.length := by
  rw [content, List.length_append, List.length_append, length_head, length, headerLength]
  cases a.vendor with
  | none => simp
  | some v =>
    simp
    omega

lemma encode_eq_content (a : Avp) :
    a.encode = a.content ++ List.replicate (a.wireLength - a.length) 0 := by
  simp [encode, content, head]

lemma split?_append {n : Nat} {b r : Octets} (h : b.length = n) :
    Octets.split? n (b ++ r) = some (b, r) :=
  Octets.split?_eq_some.mpr ⟨h, rfl⟩

lemma decodeData_append (a : Avp) {pad : Octets} (hp : pad.length = a.wireLength - a.length)
    (rest : Octets) :
    decodeData a.code a.flags a.vendor a.length a.data.length (a.data ++ pad ++ rest) =
      .ok (a, rest) := by
  have hl : (a.data ++ pad).length = a.data.length + (Octets.padded a.length - a.length) := by
    rw [List.length_append, hp, wireLength]
  have ht : (a.data ++ pad).take a.data.length = a.data := List.take_left' rfl
  simp only [decodeData, split?_append hl, ht]

lemma decode_content {a : Avp} (h : a.WellFormed) {pad : Octets}
    (hp : pad.length = a.wireLength - a.length) (rest : Octets) :
    decode (a.content ++ pad ++ rest) = .ok (a, rest) := by
  have hc : Octets.toWord (a.head.take 4) = a.code := by
    rw [head, List.take_left' (Octets.length_ofWord _), Octets.toWord_ofWord]
  have hf : a.head.getD 4 0 = a.flags := by
    rw [head, List.getD_eq_getElem?_getD, List.getElem?_append_right (by simp)]
    simpa using h.flags
  have hn : Octets.toNat (a.head.drop 5) = a.length := by
    have hd : a.head.drop 5 = Octets.ofNat 3 a.length := by
      rw [head, List.append_cons]
      exact List.drop_left' (by simp)
    rw [hd, Octets.toNat_ofNat]
    exact Nat.mod_eq_of_lt h.length
  have hv : a.flags &&& vendorFlag = 0 ↔ a.vendor = none := by
    rw [← flagsFor_and_vendorFlag a.vendor a.flags, h.flags]
  rw [content, List.append_assoc, List.append_assoc, decode, split?_append a.length_head]
  dsimp only
  rw [hc, hf, hn]
  cases hw : a.vendor with
  | none =>
    have hal : a.length = 8 + a.data.length := by simp [length, headerLength, hw]
    rw [if_pos (hv.mpr hw), if_neg (by omega), Option.map_none, Option.getD_none, List.nil_append,
      ← hw, show a.length - 8 = a.data.length by omega, ← List.append_assoc]
    exact decodeData_append a hp rest
  | some v =>
    have hal : a.length = 12 + a.data.length := by simp [length, headerLength, hw]
    have hne : ¬ a.flags &&& vendorFlag = 0 := by simp [hv, hw]
    rw [if_neg hne, if_neg (by omega), Option.map_some, Option.getD_some, List.append_assoc,
      split?_append (Octets.length_ofWord v)]
    dsimp only
    rw [Octets.toWord_ofWord, ← hw, show a.length - 12 = a.data.length by omega,
      ← List.append_assoc]
    exact decodeData_append a hp rest

/-- **An AVP survives the wire.** -/
theorem decode_encode {a : Avp} (h : a.WellFormed) (rest : Octets) :
    decode (a.encode ++ rest) = .ok (a, rest) := by
  rw [encode_eq_content]
  exact decode_content h (by simp) rest

lemma encode_ne_nil (a : Avp) : a.encode ≠ [] := by
  intro h
  have hl := congrArg List.length (encode_eq_content a)
  rw [h] at hl
  simp [content, head] at hl

/-- **Lists of AVPs survive the wire.** -/
theorem decodeAll_encodeAll {as : List Avp} (h : ∀ a ∈ as, a.WellFormed) :
    decodeAll (encodeAll as) = .ok as := by
  induction as with
  | nil =>
    rw [decodeAll]
    rfl
  | cons a as ih =>
    have hd : decode (encodeAll (a :: as)) = .ok (a, encodeAll as) :=
      decode_encode (h a List.mem_cons_self) _
    have hn : encodeAll (a :: as) ≠ [] := by
      simp [encodeAll, encode_ne_nil]
    rw [decodeAll, if_neg hn]
    split
    · rename_i e he
      rw [hd] at he
      cases he
    · rename_i b rest hb
      rw [hd] at hb
      obtain ⟨rfl, rfl⟩ := Prod.mk.inj (Except.ok.inj hb)
      rw [ih fun b hb => h b (List.mem_cons_of_mem _ hb)]

/-! ### Values -/

variable {a : Avp}

lemma asUnsigned32_of_data {w : UInt32} (h : a.data = Octets.ofWord w) :
    a.asUnsigned32 = .ok w := by
  simp [asUnsigned32, h]

lemma text?_of_data {s : String} (h : a.data = Octets.ofText s) : a.text? = some s := by
  rw [text?, h, Octets.text?_ofText]

lemma asText_of_data {s : String} (h : a.data = Octets.ofText s) : a.asText = .ok s := by
  rw [asText, text?_of_data h]

lemma asIdentity_of_data {s : String} (h : a.data = Octets.ofText s)
    (hs : Identity.isValid s) : a.asIdentity = .ok s := by
  rw [asIdentity, text?_of_data h]
  exact if_pos hs

lemma asAddress_of_data {x : Address} (h : a.data = x.encode) : a.asAddress = .ok x := by
  have hw : Address.width? (Octets.toNat (Octets.ofNat 2 x.family)) = some x.octets.length := by
    rw [Octets.toNat_ofNat]
    cases x <;> simp [Address.family, Address.width?, Address.octets]
  rw [asAddress, h, Address.encode, split?_append (Octets.length_ofNat 2 _)]
  simp [hw, Address.ofOctets?_octets]

lemma asGrouped_of_data {as : List Avp} (h : a.data = encodeAll as)
    (hs : ∀ b ∈ as, b.WellFormed) : a.asGrouped = .ok as := by
  rw [asGrouped, h, decodeAll_encodeAll hs]

end Avp

end Diameter
