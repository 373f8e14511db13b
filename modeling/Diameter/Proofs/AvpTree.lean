import Diameter.Proofs.MessageCodec

/-!
AVPs within AVPs.

A group is written out when it is made, before any length is checked, and what is checked in the
end is the length of the whole message alone. Since a group is no shorter than what it holds, that
bounds every AVP at any depth (`Avp.Tree.Holds.wellFormed`), and so groups can be opened again down
to their leaves. Main statement: `Message.decode_encode_trees`.
-/

namespace Diameter

namespace Avp

/-- AVPs, of which some are groups, each together with what it was made of. -/
inductive Tree where
  | leaf (a : Avp)
  | group (a : Avp) (members : List Tree)
  deriving Repr, Inhabited

/-- Which AVPs are groups, and which of their members. -/
inductive Outline where
  | leaf
  | group (members : List Outline)
  deriving Repr, Inhabited

namespace Tree

def root : Tree → Avp
  | leaf a => a
  | group a _ => a

/-- Made from the leaves up: a leaf of any value, a group of the AVPs at the roots of its
members. -/
inductive Built : Tree → Prop where
  | leaf (code : UInt32) (flags : UInt8) (vendor : Option UInt32) (v : Value) :
    Built (leaf (make code flags vendor v.encode))
  | group (code : UInt32) (flags : UInt8) (vendor : Option UInt32) {ts : List Tree}
    (h : ∀ t ∈ ts, Built t) :
    Built (group (make code flags vendor (Value.grouped (ts.map root)).encode) ts)

/-- An AVP at any depth. -/
inductive Holds : Tree → Avp → Prop where
  | root (t : Tree) : Holds t t.root
  | member {a b : Avp} {t : Tree} {ts : List Tree} (ht : t ∈ ts) (h : Holds t b) :
    Holds (group a ts) b

mutual

def outline : Tree → Outline
  | leaf _ => .leaf
  | group _ ts => .group (outlines ts)

def outlines : List Tree → List Outline
  | [] => []
  | t :: ts => t.outline :: outlines ts

end

end Tree

namespace Outline

mutual

/-- Opens the groups that are outlined, and what is in them. -/
def grow : Outline → Avp → Except Failure Tree
  | leaf, a => .ok (.leaf a)
  | group os, a => a.asGrouped.bind fun as => (growAll os as).map (.group a)

/-- What is not outlined is not opened. -/
def growAll : List Outline → List Avp → Except Failure (List Tree)
  | [], as => .ok (as.map .leaf)
  | _ :: _, [] => .ok []
  | o :: os, a :: as => (o.grow a).bind fun t => (growAll os as).map (t :: ·)

end

end Outline

lemma encode_infix_encodeAll {a : Avp} {as : List Avp} (h : a ∈ as) :
    a.encode <:+: encodeAll as := by
  rw [encodeAll, List.flatMap_def]
  exact List.infix_of_mem_flatten (List.mem_map_of_mem h)

namespace Tree

variable {a b : Avp} {t : Tree} {ts : List Tree}

lemma Built.members (h : Built (.group a ts)) :
    a.data = encodeAll (ts.map root) ∧ ∀ t ∈ ts, Built t := by
  cases h with
  | group code flags vendor h => exact ⟨rfl, h⟩

lemma Built.wellFormed (h : Built t) (hl : t.root.length < 2 ^ 24) : t.root.WellFormed := by
  cases h with
  | leaf code flags vendor v => exact wellFormed_make hl
  | group code flags vendor h => exact wellFormed_make hl

lemma Built.length_le (h : Built (.group a ts)) (ht : t ∈ ts) : t.root.length ≤ a.length :=
  calc t.root.length
    _ ≤ wireLengthAll (ts.map root) := length_le_wireLengthAll (List.mem_map_of_mem ht)
    _ = a.data.length := by rw [h.members.1, length_encodeAll]
    _ ≤ a.length := Nat.le_add_left _ _

lemma Built.encode_infix (h : Built (.group a ts)) (ht : t ∈ ts) :
    t.root.encode <:+: a.encode := by
  have hd : a.data <:+: a.encode := ⟨_, _, rfl⟩
  rw [h.members.1] at hd
  exact (encode_infix_encodeAll (List.mem_map_of_mem ht)).trans hd

/-- Every AVP in a group that is short enough is short enough. -/
lemma Holds.wellFormed (h : Holds t b) (hb : Built t) (hl : t.root.length < 2 ^ 24) :
    b.WellFormed := by
  induction h with
  | root t => exact hb.wellFormed hl
  | member ht _ ih => exact ih (hb.members.2 _ ht) (Nat.lt_of_le_of_lt (hb.length_le ht) hl)

lemma Holds.encode_infix (h : Holds t b) (hb : Built t) : b.encode <:+: t.root.encode := by
  induction h with
  | root t => exact List.infix_rfl
  | member ht _ ih => exact (ih (hb.members.2 _ ht)).trans (hb.encode_infix ht)

mutual

lemma grow_outline : ∀ t : Tree, Built t → t.root.length < 2 ^ 24 →
    t.outline.grow t.root = .ok t
  | .leaf _, _, _ => rfl
  | .group a ts, h, hl => by
    obtain ⟨hd, hts⟩ := h.members
    have hlt : ∀ t ∈ ts, t.root.length < 2 ^ 24 := fun t ht =>
      Nat.lt_of_le_of_lt (h.length_le ht) hl
    have ha : a.asGrouped = .ok (ts.map root) :=
      asGrouped_of_data hd (List.forall_mem_map.mpr fun t ht => (hts t ht).wellFormed (hlt t ht))
    rw [outline, Outline.grow, root, ha, Except.bind, growAll_outlines ts hts hlt]
    rfl

lemma growAll_outlines : ∀ ts : List Tree, (∀ t ∈ ts, Built t) →
    (∀ t ∈ ts, t.root.length < 2 ^ 24) → Outline.growAll (outlines ts) (ts.map root) = .ok ts
  | [], _, _ => rfl
  | t :: ts, h, hl => by
    obtain ⟨ht, hts⟩ := List.forall_mem_cons.mp h
    obtain ⟨hlt, hlts⟩ := List.forall_mem_cons.mp hl
    rw [outlines, List.map_cons, Outline.growAll, grow_outline t ht hlt, Except.bind,
      growAll_outlines ts hts hlts]
    rfl

end

end Tree

lemma toNat_length_encode {a : Avp} (h : a.length < 2 ^ 24) :
    Octets.toNat ((a.encode.drop 5).take 3) = a.length := by
  have hf : (a.encode.drop 5).take 3 = Octets.ofNat 3 a.length := rfl
  rw [hf, Octets.toNat_ofNat]
  exact Nat.mod_eq_of_lt h

end Avp

namespace Message

open Avp (Tree Outline)

/-- **Trees of AVPs survive the wire.** A message of the current version, with a command of 24 bits,
holds AVPs that are built from the leaves up, and the message as a whole is not too long. Then it is
read back as it was, whatever follows it, and where there were groups they are opened to exactly
what they were made of. Every AVP, at any depth, stands in the octets of the message as it is
written by itself, and its length field is its length. -/
theorem decode_encode_trees {h : Header} {ts : List Tree} (hv : h.version = Header.currentVersion)
    (hc : h.command.toNat < 2 ^ 24) (hb : ∀ t ∈ ts, t.Built)
    (hl : checkLength ⟨h, ts.map Tree.root⟩ = .ok ()) (rest : Octets) :
    let m : Message := ⟨h, ts.map Tree.root⟩
    decode (m.encode ++ rest) = .ok (m, rest) ∧
      Outline.growAll (Tree.outlines ts) m.avps = .ok ts ∧
      ∀ t ∈ ts, ∀ a, t.Holds a →
        a.encode <:+: m.encode ∧ Octets.toNat ((a.encode.drop 5).take 3) = a.length := by
  intro m
  have hlt : ∀ t ∈ ts, t.root.length < 2 ^ 24 := fun t ht => by
    have hm : Header.size + Avp.wireLengthAll (ts.map Tree.root) < 2 ^ 24 :=
      checkLength_eq_ok.mp hl
    have : t.root.length ≤ Avp.wireLengthAll (ts.map Tree.root) :=
      Avp.length_le_wireLengthAll (List.mem_map_of_mem ht)
    omega
  have hw : m.WellFormed :=
    ⟨hv, hc, List.forall_mem_map.mpr fun t ht => ((hb t ht).wellFormed (hlt t ht)).vendor, hl⟩
  refine ⟨decode_append hw rest, Tree.growAll_outlines ts hb hlt, fun t ht a ha => ⟨?_, ?_⟩⟩
  · have hroot : t.root.encode <:+: Avp.encodeAll (ts.map Tree.root) :=
      Avp.encode_infix_encodeAll (List.mem_map_of_mem ht)
    exact ((ha.encode_infix (hb t ht)).trans hroot).trans (List.suffix_append _ _).isInfix
  · exact Avp.toNat_length_encode (ha.wellFormed (hb t ht) (hlt t ht)).length

/-- A group in a group: the inner one holds a text that is padded, the outer one holds a number
behind it. -/
theorem decode_encode_trees_nested :
    let text := Tree.leaf (.make 281 0 (some 10415) (Avp.Value.utf8String "odd").encode)
    let number := Tree.leaf (.make 268 Avp.mandatoryFlag none (Avp.Value.unsigned32 5012).encode)
    let inner := Tree.group (.make 297 0 none (Avp.Value.grouped [text.root]).encode) [text]
    let outer := Tree.group (.make 279 Avp.mandatoryFlag none
      (Avp.Value.grouped [inner.root, number.root]).encode) [inner, number]
    let m : Message := ⟨Header.request 272 4, [outer.root]⟩
    outer.Built ∧ m.checkLength = .ok () ∧ decode (m.encode ++ [7]) = .ok (m, [7]) ∧
      Outline.growAll [.group [.group [.leaf], .leaf]] m.avps = .ok [outer] ∧
      text.root.encode <:+: m.encode := by
  intro text number inner outer m
  have ht : text.Built := .leaf ..
  have hi : inner.Built := .group _ _ _ (List.forall_mem_singleton.mpr ht)
  have ho : outer.Built := .group _ _ _ (List.forall_mem_cons.mpr
    ⟨hi, List.forall_mem_singleton.mpr (.leaf ..)⟩)
  have hl : m.checkLength = .ok () := by decide
  have hh : outer.Holds text.root :=
    .member List.mem_cons_self (.member List.mem_cons_self (.root text))
  obtain ⟨hd, hg, ha⟩ := decode_encode_trees (h := Header.request 272 4) rfl (by decide)
    (List.forall_mem_singleton.mpr ho) hl [7]
  exact ⟨ho, hl, hd, hg, (ha outer List.mem_cons_self _ hh).1⟩

end Message

end Diameter
