import Diameter.Proofs.MessageCodec

/-!
Which octets are read, and as what.

What stands between the data of an AVP and the next multiple of four is padding. Writing fills it
with zeros, and reading passes over it. Apart from it a message is read from the octets that it is
written as and from no others (`Avp.decode_eq_ok_iff`, `Message.decode_eq_ok_iff`). Main statement:
`Message.decode_iff_agreeBut`.
-/

namespace Diameter

namespace Octets

/-- The same octets, save where the mask lets them differ. -/
def AgreeBut (mask : List Bool) (b d : Octets) : Prop :=
  b.length = d.length ∧ ∀ i : Nat, mask[i]? ≠ some true → b[i]? = d[i]?

instance (mask : List Bool) (b d : Octets) : Decidable (AgreeBut mask b d) :=
  decidable_of_iff (b.length = d.length ∧ ∀ i < b.length, mask[i]? ≠ some true → b[i]? = d[i]?) <|
    and_congr_right fun hl => ⟨fun h i hi => if hb : i < b.length then h i hb hi else by
      rw [List.getElem?_eq_none (by omega), List.getElem?_eq_none (by omega)], fun h i _ => h i⟩

namespace AgreeBut

variable {p q : List Bool} {b c d : Octets} {n : Nat}

lemma refl (p : List Bool) (b : Octets) : AgreeBut p b b := ⟨rfl, fun _ _ => rfl⟩

lemma symm (h : AgreeBut p b c) : AgreeBut p c b := ⟨h.1.symm, fun i hi => (h.2 i hi).symm⟩

lemma trans (h : AgreeBut p b c) (hc : AgreeBut p c d) : AgreeBut p b d :=
  ⟨h.1.trans hc.1, fun i hi => (h.2 i hi).trans (hc.2 i hi)⟩

end AgreeBut

variable {p q : List Bool} {b c d : Octets} {n : Nat}

lemma agreeBut_replicate_false (hb : b.length = n) :
    AgreeBut (List.replicate n false) b c ↔ c = b := by
  constructor
  · intro h
    refine List.ext_getElem? fun i => (h.2 i ?_).symm
    simp [List.getElem?_replicate]
  · rintro rfl
    exact .refl _ _

lemma agreeBut_replicate_true (hb : b.length = n) :
    AgreeBut (List.replicate n true) b c ↔ c.length = n := by
  refine ⟨fun h => h.1 ▸ hb, fun hc => ⟨hb.trans hc.symm, fun i hi => ?_⟩⟩
  have hn : n ≤ i := by
    by_contra hlt
    exact hi (by simp [List.getElem?_replicate]; omega)
  rw [List.getElem?_eq_none (by omega), List.getElem?_eq_none (by omega)]

lemma agreeBut_append (hp : p.length = b.length) :
    AgreeBut (p ++ q) (b ++ c) d ↔ ∃ b' c', d = b' ++ c' ∧ AgreeBut p b b' ∧ AgreeBut q c c' := by
  constructor
  · rintro ⟨hl, h⟩
    rw [List.length_append] at hl
    refine ⟨d.take b.length, d.drop b.length, (List.take_append_drop _ _).symm, ⟨?_, ?_⟩, ?_, ?_⟩
    · -- the lengths
      rw [List.length_take]
      omega
    · -- below `b.length` only the first part is seen
      intro i hi
      by_cases hlt : i < b.length
      · rw [List.getElem?_take_of_lt hlt, ← h i (by rwa [List.getElem?_append_left (hp ▸ hlt)]),
          List.getElem?_append_left hlt]
      · rw [List.getElem?_eq_none (by omega), List.getElem?_eq_none (by simp; omega)]
    · rw [List.length_drop]
      omega
    · -- from there on only the second
      intro i hi
      have hle : b.length ≤ b.length + i := Nat.le_add_right _ _
      rw [List.getElem?_drop, ← h (b.length + i) (by
        rwa [List.getElem?_append_right (hp ▸ hle), hp, Nat.add_sub_cancel_left]),
        List.getElem?_append_right hle, Nat.add_sub_cancel_left]
  · -- the two parts side by side
    rintro ⟨b', c', rfl, ⟨hb, h⟩, hc, h'⟩
    refine ⟨by simp [hb, hc], fun i hi => ?_⟩
    by_cases hlt : i < b.length
    · rw [List.getElem?_append_left (hp ▸ hlt)] at hi
      rw [List.getElem?_append_left hlt, List.getElem?_append_left (hb ▸ hlt)]
      exact h i hi
    · rw [List.getElem?_append_right (by omega)] at hi
      rw [List.getElem?_append_right (by omega), List.getElem?_append_right (by omega), ← hb]
      exact h' _ (by rwa [← hp])

lemma length_take_drop {i k : Nat} (h : i + k ≤ b.length) : ((b.drop i).take k).length = k := by
  rw [List.length_take, List.length_drop]
  omega

lemma toNat_lt_of_length_le (h : b.length ≤ 3) : toNat b < 2 ^ 24 :=
  Nat.lt_of_lt_of_le (toNat_lt b) (Nat.pow_le_pow_right (by decide : 0 < 256) h)

end Octets

open Octets (AgreeBut)

/-! ### AVPs -/

namespace Avp

/-- Which octets of a written AVP are padding. -/
def padding (a : Avp) : List Bool :=
  List.replicate a.length false ++ List.replicate (a.wireLength - a.length) true

lemma length_padding (a : Avp) : a.padding.length = a.wireLength := by
  have : a.length ≤ a.wireLength := Octets.le_padded a.length
  simp only [padding, List.length_append, List.length_replicate]
  omega

variable {a : Avp} {as : List Avp} {b e rest : Octets}

lemma agreeBut_padding : AgreeBut a.padding a.encode e ↔
    ∃ pad, pad.length = a.wireLength - a.length ∧ e = a.content ++ pad := by
  rw [padding, encode_eq_content, Octets.agreeBut_append (by simp [length_content])]
  simp only [Octets.agreeBut_replicate_false a.length_content,
    Octets.agreeBut_replicate_true List.length_replicate]
  constructor
  · rintro ⟨c, pad, rfl, rfl, hp⟩
    exact ⟨pad, hp, rfl⟩
  · rintro ⟨pad, hp, rfl⟩
    exact ⟨a.content, pad, rfl, rfl, hp⟩

lemma decodeData_eq_ok {code : UInt32} {flags : UInt8} {vendor : Option UInt32} {length n : Nat}
    (h : decodeData code flags vendor length n b = .ok (a, rest)) :
    ∃ data pad, a = ⟨code, flags, vendor, data⟩ ∧ data.length = n ∧
      pad.length = Octets.padded length - length ∧ b = data ++ pad ++ rest := by
  unfold decodeData at h
  dsimp only at h
  split at h
  · exact absurd h (by simp)
  · rename_i body r hs
    obtain ⟨hl, rfl⟩ := Octets.split?_eq_some.mp hs
    obtain ⟨rfl, rfl⟩ := Prod.mk.inj (Except.ok.inj h)
    refine ⟨body.take n, body.drop n, rfl, ?_, ?_, by rw [List.take_append_drop]⟩
    · rw [List.length_take]
      omega
    · rw [List.length_drop]
      omega

lemma head_eq {h : Octets} (hl : h.length = 8) (hc : a.code = Octets.toWord (h.take 4))
    (hf : flagsFor a.vendor a.flags = h.getD 4 0) (hn : a.length = Octets.toNat (h.drop 5)) :
    a.head = h := by
  have hd : Octets.ofNat 3 (Octets.toNat (h.drop 5)) = h.drop 5 := by
    rw [← show (h.drop 5).length = 3 by simp [hl], Octets.ofNat_toNat]
  have hg : h.getD 4 0 = h[4] := by simp [hl]
  rw [head, hf, hc, hn, hd, Octets.ofWord_toWord (by simp [hl]), hg, ← List.drop_eq_getElem_cons,
    List.take_append_drop]

lemma decode_eq_ok (h : decode b = .ok (a, rest)) : a.WellFormed ∧
    ∃ pad, pad.length = a.wireLength - a.length ∧ b = a.content ++ pad ++ rest := by
  unfold decode at h
  split at h
  · exact absurd h (by simp)
  rename_i hd tail hs
  obtain ⟨hl, rfl⟩ := Octets.split?_eq_some.mp hs
  have hlt : Octets.toNat (hd.drop 5) < 2 ^ 24 := Octets.toNat_lt_of_length_le (by simp [hl])
  dsimp only at h
  split at h
  · -- no vendor
    rename_i hv
    split at h
    · exact absurd h (by simp)
    obtain ⟨data, pad, rfl, hn, hp, rfl⟩ := decodeData_eq_ok h
    have hf : flagsFor none (hd.getD 4 0) = hd.getD 4 0 :=
      flagsFor_of_iff (iff_of_false (not_not_intro hv) (by simp))
    have hlen : length ⟨Octets.toWord (hd.take 4), hd.getD 4 0, none, data⟩ =
        Octets.toNat (hd.drop 5) := by
      simp only [length, headerLength, Option.isSome_none, Bool.false_eq_true, if_false]
      omega
    refine ⟨⟨hf, hlen ▸ hlt⟩, pad, ?_, ?_⟩
    · rw [hp, wireLength, hlen]
    · rw [content, head_eq hl rfl hf hlen]
      simp
  · -- a vendor after the first eight octets
    rename_i hv
    split at h
    · exact absurd h (by simp)
    split at h
    · exact absurd h (by simp)
    rename_i v tail hs
    obtain ⟨hvl, rfl⟩ := Octets.split?_eq_some.mp hs
    obtain ⟨data, pad, rfl, hn, hp, rfl⟩ := decodeData_eq_ok h
    have hf : flagsFor (some (Octets.toWord v)) (hd.getD 4 0) = hd.getD 4 0 :=
      flagsFor_of_iff (iff_of_true hv (by simp))
    have hlen : length ⟨Octets.toWord (hd.take 4), hd.getD 4 0, some (Octets.toWord v), data⟩ =
        Octets.toNat (hd.drop 5) := by
      simp only [length, headerLength, Option.isSome_some, if_true]
      omega
    refine ⟨⟨hf, hlen ▸ hlt⟩, pad, ?_, ?_⟩
    · rw [hp, wireLength, hlen]
    · rw [content, head_eq hl rfl hf hlen]
      simp [Octets.ofWord_toWord hvl]

/-- An AVP is read from what it is written as, up to padding, and from nothing else. -/
theorem decode_eq_ok_iff : decode b = .ok (a, rest) ↔
    a.WellFormed ∧ ∃ e, b = e ++ rest ∧ AgreeBut a.padding a.encode e := by
  constructor
  · intro h
    obtain ⟨hw, pad, hp, rfl⟩ := decode_eq_ok h
    exact ⟨hw, _, rfl, agreeBut_padding.mpr ⟨pad, hp, rfl⟩⟩
  · rintro ⟨hw, e, rfl, he⟩
    obtain ⟨pad, hp, rfl⟩ := agreeBut_padding.mp he
    exact decode_content hw hp rest

/-- So it is with lists of AVPs. -/
theorem decodeAll_eq_ok_iff : decodeAll b = .ok as ↔
    (∀ a ∈ as, a.WellFormed) ∧ AgreeBut (as.flatMap padding) (encodeAll as) b := by
  induction as generalizing b with
  | nil =>
    have hb : AgreeBut (List.flatMap padding []) (encodeAll []) b ↔ b = [] :=
      Octets.agreeBut_replicate_false (n := 0) rfl
    rw [hb, decodeAll]
    -- only nothing decodes to no AVPs
    split
    · simp [*]
    · split
      · simp [*]
      · split <;> simp [*]
  | cons a as ih =>
    rw [List.flatMap_cons, encodeAll, List.flatMap_cons,
      Octets.agreeBut_append (a.length_padding.trans a.length_encode.symm)]
    constructor
    · intro h
      -- the first AVP is read off, and the others from what is left
      rw [decodeAll] at h
      split at h
      · exact absurd h (by simp)
      split at h
      · exact absurd h (by simp)
      rename_i a' rest hd
      split at h
      · exact absurd h (by simp)
      rename_i as' hr
      obtain ⟨rfl, rfl⟩ := List.cons.inj (Except.ok.inj h)
      obtain ⟨hw, e, rfl, he⟩ := decode_eq_ok_iff.mp hd
      obtain ⟨hws, hes⟩ := ih.mp hr
      exact ⟨List.forall_mem_cons.mpr ⟨hw, hws⟩, e, rest, rfl, he, hes⟩
    · rintro ⟨hw, e, rest, rfl, he, hes⟩
      obtain ⟨hw, hws⟩ := List.forall_mem_cons.mp hw
      have hd : decode (e ++ rest) = .ok (a, rest) := decode_eq_ok_iff.mpr ⟨hw, e, rfl, he⟩
      -- an AVP takes at least one octet
      have hn : e ++ rest ≠ [] := by
        intro hn
        have := length_decode_lt hd
        simp [hn] at this
      rw [decodeAll, if_neg hn]
      split
      · rename_i f hf
        exact absurd (hd.symm.trans hf) (by simp)
      · rename_i a' rest' hd'
        obtain ⟨rfl, rfl⟩ := Prod.mk.inj (Except.ok.inj (hd.symm.trans hd'))
        rw [ih.mpr ⟨hws, hes⟩]

end Avp

/-! ### Messages -/

namespace Header

lemma encode_eq {h : Header} {b : Octets} {n : Nat} (hb : b.length = size)
    (hv : h.version = b.getD 0 0) (hn : Octets.ofNat 3 n = (b.drop 1).take 3)
    (hf : h.flags = b.getD 4 0) (hc : Octets.ofNat 3 h.command.toNat = (b.drop 5).take 3)
    (ha : Octets.ofWord h.application = (b.drop 8).take 4)
    (hh : Octets.ofWord h.hopByHop = (b.drop 12).take 4)
    (he : Octets.ofWord h.endToEnd = (b.drop 16).take 4) : h.encode n = b := by
  have piece : ∀ i k, (b.drop i).take k ++ b.drop (i + k) = b.drop i := fun i k => by
    rw [← List.drop_drop, List.take_append_drop]
  have single : ∀ i, i < size → b.getD i 0 :: b.drop (i + 1) = b.drop i := fun i hi => by
    rw [← hb] at hi
    rw [List.drop_eq_getElem_cons hi]
    simp [hi]
  have last : b.drop 20 = [] := List.drop_eq_nil_of_le (Nat.le_of_eq hb)
  have tail : (b.drop 16).take 4 = b.drop 16 := by simpa [last] using piece 16 4
  rw [encode, hv, hn, hf, hc, ha, hh, he, tail]
  simp only [List.append_assoc, List.cons_append]
  rw [piece 12 4, piece 8 4, piece 5 3, single 4 (by decide), piece 1 3, single 0 (by decide),
    List.drop_zero]

lemma encode_of_length {b : Octets} (hb : b.length = size) :
    encode ⟨b.getD 0 0, b.getD 4 0, Octets.toWord ((b.drop 5).take 3),
      Octets.toWord ((b.drop 8).take 4), Octets.toWord ((b.drop 12).take 4),
      Octets.toWord ((b.drop 16).take 4)⟩ (Octets.toNat ((b.drop 1).take 3)) = b := by
  have word : ∀ i, i + 4 ≤ size →
      Octets.ofWord (Octets.toWord ((b.drop i).take 4)) = (b.drop i).take 4 := fun i hi =>
    Octets.ofWord_toWord (Octets.length_take_drop (hb ▸ hi))
  have digits : ∀ i, i + 3 ≤ size →
      Octets.ofNat 3 (Octets.toNat ((b.drop i).take 3)) = (b.drop i).take 3 := fun i hi => by
    have := Octets.ofNat_toNat ((b.drop i).take 3)
    rwa [Octets.length_take_drop (hb ▸ hi)] at this
  refine encode_eq hb rfl (digits 1 (by decide)) rfl ?_ (word 8 (by decide)) (word 12 (by decide))
    (word 16 (by decide))
  rw [Octets.toNat_toWord (by rw [List.length_take]; omega)]
  exact digits 5 (by decide)

/-- A header is read from what it is written as, with the length it announces, and from nothing
else. -/
theorem decode_eq_ok_iff {b rest : Octets} {h : Header} {n : Nat} :
    decode b = .ok (h, n, rest) ↔ h.version = currentVersion ∧ h.command.toNat < 2 ^ 24 ∧
      size ≤ n ∧ n % 4 = 0 ∧ n < 2 ^ 24 ∧ b = h.encode n ++ rest := by
  constructor
  · -- the checks come in the order of the fields
    intro hd
    unfold decode at hd
    split at hd
    · exact absurd hd (by simp)
    rename_i hdr tail hs
    obtain ⟨hl, rfl⟩ := Octets.split?_eq_some.mp hs
    dsimp only at hd
    split at hd
    · exact absurd hd (by simp)
    rename_i hv
    split at hd
    · exact absurd hd (by simp)
    rename_i hn
    obtain ⟨hh, ht⟩ := Prod.mk.inj (Except.ok.inj hd)
    obtain ⟨rfl, rfl⟩ := Prod.mk.inj ht
    have lt : ∀ i, Octets.toNat ((hdr.drop i).take 3) < 2 ^ 24 := fun i =>
      Octets.toNat_lt_of_length_le (List.length_take_le _ _)
    have hw : h.encode (Octets.toNat ((hdr.drop 1).take 3)) = hdr := hh ▸ encode_of_length hl
    have hc : h.command.toNat = Octets.toNat ((hdr.drop 5).take 3) := by
      rw [← hh]
      exact Octets.toNat_toWord (by rw [List.length_take]; omega)
    refine ⟨by rw [← hh]; exact not_not.mp hv, hc ▸ lt 5, by omega, by omega, lt 1, by rw [hw]⟩
  · rintro ⟨hv, hc, hn, hm, hl, rfl⟩
    exact decode_append hv hc hn hm hl rest

end Header

namespace Message

/-- Which octets of a written message are padding. -/
def padding (m : Message) : List Bool :=
  List.replicate Header.size false ++ m.avps.flatMap Avp.padding

variable {m n : Message} {b c r : Octets}

lemma agreeBut_padding : AgreeBut m.padding m.encode b ↔ ∃ body,
    b = m.header.encode m.length ++ body ∧
      AgreeBut (m.avps.flatMap Avp.padding) (Avp.encodeAll m.avps) body := by
  rw [padding, encode, Octets.agreeBut_append (by simp)]
  simp only [Octets.agreeBut_replicate_false (m.header.length_encode m.length)]
  constructor
  · rintro ⟨_, body, rfl, rfl, h⟩
    exact ⟨body, rfl, h⟩
  · rintro ⟨body, rfl, h⟩
    exact ⟨_, body, rfl, rfl, h⟩

lemma ofBody_eq_ok {h : Header} {body : Octets} (hm : ofBody h body = .ok m) :
    m.header = h ∧ (∀ a ∈ m.avps, a.WellFormed) ∧
      AgreeBut (m.avps.flatMap Avp.padding) (Avp.encodeAll m.avps) body := by
  unfold ofBody at hm
  cases hd : Avp.decodeAll body with
  | error e =>
    rw [hd] at hm
    cases hm
  | ok as =>
    rw [hd] at hm
    cases hm
    exact ⟨rfl, Avp.decodeAll_eq_ok_iff.mp hd⟩

lemma decode_eq_ok (hd : decode b = .ok (m, r)) :
    m.WellFormed ∧ ∃ e, b = e ++ r ∧ AgreeBut m.padding m.encode e := by
  unfold decode at hd
  split at hd
  · exact absurd hd (by simp)
  rename_i h n rest hh
  split at hd
  · exact absurd hd (by simp)
  rename_i body rest' hs
  obtain ⟨hb, rfl⟩ := Octets.split?_eq_some.mp hs
  obtain ⟨hv, hc, hn, -, hl, rfl⟩ := Header.decode_eq_ok_iff.mp hh
  cases ho : ofBody h body with
  | error e =>
    rw [ho] at hd
    cases hd
  | ok m' =>
    rw [ho] at hd
    obtain ⟨rfl, rfl⟩ := Prod.mk.inj (Except.ok.inj hd)
    obtain ⟨rfl, hw, ha⟩ := ofBody_eq_ok ho
    have hlen : m'.length = n := by
      have := ha.1
      rw [Avp.length_encodeAll] at this
      rw [length]
      omega
    exact ⟨⟨hv, hc, fun a ha => (hw a ha).vendor, checkLength_eq_ok.mpr (hlen ▸ hl)⟩, _,
      (List.append_assoc _ _ _).symm, agreeBut_padding.mpr ⟨body, by rw [hlen], ha⟩⟩

/-- A message is read from what it is written as, up to padding, and from nothing else. -/
theorem decode_eq_ok_iff : decode b = .ok (m, r) ↔
    m.WellFormed ∧ ∃ e, b = e ++ r ∧ AgreeBut m.padding m.encode e := by
  refine ⟨decode_eq_ok, ?_⟩
  rintro ⟨hw, e, rfl, he⟩
  obtain ⟨body, rfl, hb⟩ := agreeBut_padding.mp he
  have hl : Header.size ≤ m.length := Nat.le_add_right _ _
  have hbody : body.length = m.length - Header.size := by
    rw [← hb.1, Avp.length_encodeAll, length, Nat.add_sub_cancel_left]
  have ho : ofBody m.header body = .ok m := by
    rw [ofBody, Avp.decodeAll_eq_ok_iff.mpr ⟨fun a ha => hw.avp ha, hb⟩]
    rfl
  rw [List.append_assoc, decode, Header.decode_append hw.version hw.command hl m.length_mod_four
    (checkLength_eq_ok.mp hw.length)]
  dsimp only
  rw [Avp.split?_append hbody]
  dsimp only
  rw [ho]
  rfl

/-- **Exactly what is written is read, up to padding.** What is read off octets is a message that
may be written, and it is read back from the octets that it is written as; those are the octets
that were read, as many as its length says, save for padding. Whatever differs from them in padding
alone is read as the same message, whatever follows it. So two strings of octets that are read
whole are the same message exactly if they differ in padding alone. -/
theorem decode_iff_agreeBut (b : Octets) :
    (∀ m r, decode b = .ok (m, r) → m.WellFormed ∧ decode m.encode = .ok (m, []) ∧
      ∃ e, b = e ++ r ∧ e.length = m.length ∧ AgreeBut m.padding m.encode e) ∧
    (∀ m : Message, m.WellFormed → AgreeBut m.padding m.encode b →
      ∀ r, decode (b ++ r) = .ok (m, r)) ∧
    ∀ c m n, decode b = .ok (m, []) → decode c = .ok (n, []) →
      (m = n ↔ AgreeBut m.padding b c) := by
  have whole : ∀ {b m}, decode b = .ok (m, []) → AgreeBut m.padding m.encode b := by
    intro b m h
    obtain ⟨-, e, rfl, he⟩ := decode_eq_ok h
    rwa [List.append_nil]
  refine ⟨fun m r h => ?_, fun m hw hb r => decode_eq_ok_iff.mpr ⟨hw, b, rfl, hb⟩,
    fun c m n hb hc => ⟨?_, fun h => ?_⟩⟩
  · -- what is read is a message, up to its padding
    obtain ⟨hw, e, rfl, he⟩ := decode_eq_ok h
    have hback : decode (m.encode ++ []) = .ok (m, []) :=
      decode_eq_ok_iff.mpr ⟨hw, _, rfl, .refl _ _⟩
    rw [List.append_nil] at hback
    exact ⟨hw, hback, e, rfl, he.1.symm.trans m.length_encode, he⟩
  · -- both are the encoding of one message
    rintro rfl
    exact (whole hb).symm.trans (whole hc)
  · -- then both decode to the same
    have hm : decode (c ++ []) = .ok (m, []) :=
      decode_eq_ok_iff.mpr ⟨(decode_eq_ok hb).1, c, rfl, (whole hb).trans h⟩
    rw [List.append_nil, hc] at hm
    exact (Prod.mk.inj (Except.ok.inj hm)).1.symm

/-- The last octet of a message whose only AVP has three octets of data is padding: it may be 9 as
well as 0. -/
theorem decode_iff_agreeBut_nine :
    let m : Message := ⟨Header.request 272 4, [.make 264 0 none (Octets.ofText "abc")]⟩
    let b := m.encode.take 31 ++ [9]
    m.WellFormed ∧ AgreeBut m.padding m.encode b ∧ b ≠ m.encode ∧ decode b = .ok (m, []) ∧
      decode (b ++ [7]) = .ok (m, [7]) ∧ decode m.encode = .ok (m, []) := by
  intro m b
  have hw : m.WellFormed := ⟨rfl, by decide, by decide, by decide⟩
  have hb : AgreeBut m.padding m.encode b := by decide
  have hd : decode b = .ok (m, []) := by
    have := (decode_iff_agreeBut b).2.1 m hw hb []
    rwa [List.append_nil] at this
  have hm : decode m.encode = .ok (m, []) := ((decode_iff_agreeBut b).1 m [] hd).2.1
  exact ⟨hw, ((decode_iff_agreeBut m.encode).2.2 b m m hm hd).mp rfl, by decide, hd,
    (decode_iff_agreeBut b).2.1 m hw hb [7], hm⟩

end Message

end Diameter
