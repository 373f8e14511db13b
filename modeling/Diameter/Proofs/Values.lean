import Diameter.Proofs.Foreign
import Diameter.Proofs.Padding

/-!
Typed values and the octets that they are written as.

Each reader takes exactly the octets that its kind of value is written as, save that a group may be
padded with anything (`Avp.Value.decode_eq_ok_iff`). Points in time stand apart: only whole seconds
of one era are written. Main statement: `Avp.Value.corresponds`.
-/

namespace Diameter

open Octets (AgreeBut)

namespace Octets

lemma ofText_eq_of_text? {b : Octets} {s : String} (h : text? b = some s) : ofText s = b := by
  unfold text? String.fromUTF8? at h
  split at h
  · obtain rfl := Option.some.inj h
    rfl
  · exact absurd h (by simp)

lemma text?_eq_some_iff {b : Octets} {s : String} : text? b = some s ↔ b = ofText s :=
  ⟨fun h => (ofText_eq_of_text? h).symm, fun h => h ▸ text?_ofText s⟩

lemma length_ofText (s : String) : (ofText s).length = s.utf8ByteSize := rfl

end Octets

namespace Address

lemma octets_of_ofOctets? {b : Octets} {x : Address} (h : ofOctets? b = some x) :
    x.octets = b ∧ width? x.family = some b.length := by
  unfold ofOctets? at h
  split at h
  · rename_i hl
    obtain rfl := Option.some.inj h
    exact ⟨Octets.ofWord_toWord hl, congrArg some hl.symm⟩
  split at h
  · rename_i hl
    obtain rfl := Option.some.inj h
    refine ⟨?_, congrArg some hl.symm⟩
    rw [octets, Octets.ofLongWord_toLongWord (by simp [hl]),
      Octets.ofLongWord_toLongWord (by simp [hl]), List.take_append_drop]
  · exact absurd h (by simp)

lemma width?_inj {m n w : Nat} (hm : width? m = some w) (hn : width? n = some w) : m = n := by
  unfold width? at hm hn
  split at hm <;> split at hn <;> simp_all <;> omega

end Address

namespace Avp

variable {a : Avp}

/-! ### Readers -/

lemma asUnsigned32_eq_ok_iff {w : UInt32} :
    a.asUnsigned32 = .ok w ↔ a.data = Octets.ofWord w := by
  refine ⟨fun h => ?_, asUnsigned32_of_data⟩
  unfold asUnsigned32 at h
  split at h
  · rename_i hl
    obtain rfl := Except.ok.inj h
    exact (Octets.ofWord_toWord hl).symm
  · exact absurd h (by simp)

lemma asUnsigned64_eq_ok_iff {w : UInt64} :
    a.asUnsigned64 = .ok w ↔ a.data = Octets.ofLongWord w := by
  constructor
  · intro h
    unfold asUnsigned64 at h
    split at h
    · rename_i hl
      obtain rfl := Except.ok.inj h
      exact (Octets.ofLongWord_toLongWord hl).symm
    · exact absurd h (by simp)
  · intro h
    simp [asUnsigned64, h]

lemma asText_eq_ok_iff {s : String} : a.asText = .ok s ↔ a.data = Octets.ofText s := by
  refine ⟨fun h => ?_, asText_of_data⟩
  unfold asText at h
  split at h
  · rename_i t ht
    obtain rfl := Except.ok.inj h
    exact Octets.text?_eq_some_iff.mp ht
  · exact absurd h (by simp)

lemma asIdentity_eq_ok_iff {s : String} :
    a.asIdentity = .ok s ↔ Identity.isValid s ∧ a.data = Octets.ofText s := by
  refine ⟨fun h => ?_, fun h => asIdentity_of_data h.2 h.1⟩
  unfold asIdentity at h
  split at h
  · rename_i t ht
    split at h
    · rename_i hv
      obtain rfl := Except.ok.inj h
      exact ⟨hv, Octets.text?_eq_some_iff.mp ht⟩
    · exact absurd h (by simp)
  · exact absurd h (by simp)

lemma asAddress_eq_ok_iff {x : Address} : a.asAddress = .ok x ↔ a.data = x.encode := by
  refine ⟨fun h => ?_, asAddress_of_data⟩
  unfold asAddress at h
  -- the family
  split at h
  · exact absurd h (by simp)
  rename_i family rest hs
  obtain ⟨hl, hd⟩ := Octets.split?_eq_some.mp hs
  -- a family that is known
  split at h
  · exact absurd h (by simp)
  rename_i width hw
  split at h
  · exact absurd h (by simp)
  rename_i hr
  -- the address itself
  split at h
  · rename_i y hy
    obtain rfl := Except.ok.inj h
    obtain ⟨ho, hf⟩ := Address.octets_of_ofOctets? hy
    -- the family that was read is the only one of that width
    have hn : Octets.toNat family = y.family :=
      Address.width?_inj hw (by rw [hf, not_not.mp hr])
    rw [hd, Address.encode, ho, ← hn, ← hl, Octets.ofNat_toNat]
  · exact absurd h (by simp)

lemma asGrouped_eq_ok_iff {as : List Avp} : a.asGrouped = .ok as ↔
    (∀ b ∈ as, b.WellFormed) ∧ AgreeBut (as.flatMap padding) (encodeAll as) a.data :=
  decodeAll_eq_ok_iff

namespace Value

/-- What can be read back: an identity obeys its grammar, and the members of a group say by their
flags whether there is a vendor and are not too long. -/
def Proper : Value → Prop
  | diameterIdentity s => Identity.isValid s
  | grouped as => ∀ a ∈ as, a.WellFormed
  | _ => True

/-- Which octets of a written value are padding. -/
def padding : Value → List Bool
  | grouped as => as.flatMap Avp.padding
  | v => List.replicate v.encodedLength false

lemma length_encode (v : Value) : v.encode.length = v.encodedLength := by
  cases v with
  | address x => cases x <;> simp [encode, encodedLength, Address.encode, Address.octets]
  | grouped as => exact length_encodeAll as
  | _ => simp [encode, encodedLength, Octets.length_ofText]

lemma agreeBut_padding {v : Value} {d : Octets} (h : v.kind ≠ .grouped) :
    AgreeBut v.padding v.encode d ↔ d = v.encode := by
  have hp : v.padding = List.replicate v.encodedLength false := by
    cases v with
    | grouped as => exact absurd rfl h
    | _ => rfl
  rw [hp]
  exact Octets.agreeBut_replicate_false v.length_encode

variable {k : Kind} {code : UInt32} {d : Octets} {v : Value}

/-- What is read is of the kind asked for, and is written as what it was read from, up to
padding. -/
lemma agreeBut_of_decode (h : decode k code d = .ok v) (hk : k ≠ .time) :
    v.kind = k ∧ v.Proper ∧ AgreeBut v.padding v.encode d := by
  have exactly {w : Value} (hw : w.kind ≠ .grouped) (hd : d = w.encode) :
      AgreeBut w.padding w.encode d := (agreeBut_padding hw).mpr hd
  unfold decode value at h
  cases k with
  | octetString =>
    obtain rfl := Except.ok.inj h
    exact ⟨rfl, trivial, exactly (by simp [kind]) rfl⟩
  | integer32 | enumerated =>
    obtain ⟨i, hi, rfl⟩ := map_eq_ok.mp h
    obtain ⟨w, hw, rfl⟩ := map_eq_ok.mp hi
    have hd : d = Octets.ofWord w.toInt32.toUInt32 := asUnsigned32_eq_ok_iff.mp hw
    exact ⟨rfl, trivial, exactly (by simp [kind]) hd⟩
  | unsigned32 | float32 =>
    obtain ⟨w, hw, rfl⟩ := map_eq_ok.mp h
    exact ⟨rfl, trivial, exactly (by simp [kind]) (asUnsigned32_eq_ok_iff.mp hw)⟩
  | integer64 =>
    obtain ⟨w, hw, rfl⟩ := map_eq_ok.mp h
    have hd : d = Octets.ofLongWord w.toInt64.toUInt64 := asUnsigned64_eq_ok_iff.mp hw
    exact ⟨rfl, trivial, exactly (by simp [kind]) hd⟩
  | unsigned64 | float64 =>
    obtain ⟨w, hw, rfl⟩ := map_eq_ok.mp h
    exact ⟨rfl, trivial, exactly (by simp [kind]) (asUnsigned64_eq_ok_iff.mp hw)⟩
  | address =>
    obtain ⟨x, hx, rfl⟩ := map_eq_ok.mp h
    exact ⟨rfl, trivial, exactly (by simp [kind]) (asAddress_eq_ok_iff.mp hx)⟩
  | time => exact absurd rfl hk
  | utf8String | diameterUri | ipFilterRule =>
    obtain ⟨s, hs, rfl⟩ := map_eq_ok.mp h
    exact ⟨rfl, trivial, exactly (by simp [kind]) (asText_eq_ok_iff.mp hs)⟩
  | diameterIdentity =>
    obtain ⟨s, hs, rfl⟩ := map_eq_ok.mp h
    obtain ⟨hv, hd⟩ := asIdentity_eq_ok_iff.mp hs
    exact ⟨rfl, hv, exactly (by simp [kind]) hd⟩
  | grouped =>
    obtain ⟨as, has, rfl⟩ := map_eq_ok.mp h
    exact ⟨rfl, asGrouped_eq_ok_iff.mp has⟩

lemma decode_of_agreeBut (hv : v.kind ≠ .time) (hp : v.Proper)
    (hd : AgreeBut v.padding v.encode d) : decode v.kind code d = .ok v := by
  have exactly (h : v.kind ≠ .grouped) : d = v.encode := (agreeBut_padding h).mp hd
  unfold decode value
  cases v with
  | octetString b => rw [kind, exactly (by simp [kind])]; rfl
  | integer32 i | enumerated i =>
    have hi : d = Octets.ofWord i.toUInt32 := exactly (by simp [kind])
    refine map_eq_ok.mpr ⟨i, map_eq_ok.mpr ⟨i.toUInt32, asUnsigned32_eq_ok_iff.mpr hi, ?_⟩, rfl⟩
    simp
  | unsigned32 w | float32 w =>
    exact map_eq_ok.mpr ⟨w, asUnsigned32_eq_ok_iff.mpr (exactly (by simp [kind])), rfl⟩
  | integer64 i =>
    have hi : d = Octets.ofLongWord i.toUInt64 := exactly (by simp [kind])
    exact map_eq_ok.mpr ⟨i.toUInt64, asUnsigned64_eq_ok_iff.mpr hi, by simp⟩
  | unsigned64 w | float64 w =>
    exact map_eq_ok.mpr ⟨w, asUnsigned64_eq_ok_iff.mpr (exactly (by simp [kind])), rfl⟩
  | address x =>
    exact map_eq_ok.mpr ⟨x, asAddress_eq_ok_iff.mpr (exactly (by simp [kind])), rfl⟩
  | time t => exact absurd rfl hv
  | utf8String s | diameterUri s | ipFilterRule s =>
    exact map_eq_ok.mpr ⟨s, asText_eq_ok_iff.mpr (exactly (by simp [kind])), rfl⟩
  | diameterIdentity s =>
    exact map_eq_ok.mpr ⟨s, asIdentity_eq_ok_iff.mpr ⟨hp, exactly (by simp [kind])⟩, rfl⟩
  | grouped as => exact map_eq_ok.mpr ⟨as, asGrouped_eq_ok_iff.mpr ⟨hp, hd⟩, rfl⟩

/-- **Typed values and their octets correspond.** But for points in time, what is read as a kind is
a value of that kind that may be written, and it is written as the octets it was read from, save
for the padding in a group; what may be written is read back as it was. The length of any value is
the number of octets it is written as. -/
theorem corresponds (code : UInt32) :
    (∀ k d v, k ≠ Kind.time → decode k code d = .ok v → v.kind = k ∧ v.Proper ∧
      (k ≠ .grouped → v.encode = d) ∧ AgreeBut v.padding v.encode d) ∧
    (∀ v : Value, v.kind ≠ .time → v.Proper → decode v.kind code v.encode = .ok v) ∧
    ∀ v : Value, v.encodedLength = v.encode.length := by
  refine ⟨fun k d v hk h => ?_, fun v hv hp => decode_of_agreeBut hv hp (.refl _ _),
    fun v => v.length_encode.symm⟩
  obtain ⟨rfl, hp, hd⟩ := agreeBut_of_decode h hk
  exact ⟨rfl, hp, fun hg => ((agreeBut_padding hg).mp hd).symm, hd⟩

/-- A group of a text of another vendor and an identity; what pads the text may be anything. -/
theorem corresponds_group :
    let text := make 281 0 (some 10415) (utf8String "ü").encode
    let host := diameterIdentity "a.example"
    let v := grouped [text, mandatory Code.originHost host]
    let d := v.encode.set 14 9
    v.Proper ∧ host.Proper ∧ decode .grouped 279 d = .ok v ∧ d ≠ v.encode ∧
      AgreeBut v.padding v.encode d ∧ decode .grouped 279 v.encode = .ok v ∧
      decode .diameterIdentity Code.originHost host.encode = .ok host ∧
      v.encodedLength = 36 := by
  intro text host v d
  have hv : v.Proper := by
    refine List.forall_mem_cons.mpr ⟨wellFormed_make (by decide), ?_⟩
    exact List.forall_mem_singleton.mpr (wellFormed_make (by decide))
  have hh : Identity.isValid "a.example" := by decide +kernel
  have hd : AgreeBut v.padding v.encode d := by decide +kernel
  have hg : decode .grouped 279 d = .ok v := decode_of_agreeBut (by decide) hv hd
  obtain ⟨read, back, len⟩ := corresponds 279
  obtain ⟨-, -, -, ha⟩ := read .grouped d v (by decide) hg
  exact ⟨hv, hh, hg, by decide +kernel, ha, back v (by decide) hv,
    (corresponds _).2.1 host (by decide) hh, (len v).trans (by decide +kernel)⟩

end Value

end Avp

end Diameter
