import Mathlib.Data.String.Basic
import Mathlib.Tactic.SplitIfs
import Diameter.Capabilities

/-!
Which of two hosts wins an election.

Hosts are compared octet by octet once ASCII letters are in lower case, and so is the equality of
hosts: texts compare as their UTF-8 does, and lower case is the same for letters and for octets.
Hence of two hosts that are not the same exactly one wins, and a beginning of a host loses to it.
Main statement: `wonElection_orders`.
-/

namespace Diameter

lemma Identity.toList_lower (s : String) : (lower s).toList = s.toList.map Char.toLower :=
  String.toList_map

namespace Octets

/-- Octets of ASCII letters in lower case, all else kept. -/
def lower (b : Octets) : Octets := b.map fun x => if 65 ≤ x ∧ x ≤ 90 then x + 32 else x

lemma lower_append (b c : Octets) : lower (b ++ c) = lower b ++ lower c := List.map_append

lemma ofText_eq_flatMap (s : String) : ofText s = s.toList.flatMap String.utf8EncodeChar := by
  rw [ofText, String.toUTF8_eq_toByteArray, ← String.utf8Encode_toList, List.utf8Encode,
    List.data_toByteArray]

/-! ### Order -/

/-- The first octets decide: each is a digit of the code, higher digits first, and tells how many
there are. -/
lemma utf8EncodeChar_lt {c d : Char} (h : c < d) (b b' : Octets) :
    String.utf8EncodeChar c ++ b < String.utf8EncodeChar d ++ b' := by
  have hlt : c.val.toNat < d.val.toNat := h
  have hd : d.val.toNat < 0x110000 := by
    rcases d.valid with hs | hs <;> omega
  have h2 (n : Nat) : n / 4096 = n / 64 / 64 := by omega
  have h3 (n : Nat) : n / 262144 = n / 64 / 64 / 64 := by omega
  unfold String.utf8EncodeChar
  generalize c.val.toNat = v at hlt
  generalize d.val.toNat = w at hlt hd
  dsimp only
  split_ifs
  all_goals simp only [List.cons_append, List.nil_append, List.cons_lt_cons_iff,
    UInt8.lt_iff_toNat_lt, ← UInt8.toNat_inj, UInt8.toNat_ofNat', h2, h3]
  all_goals simp (disch := omega) only [Nat.mod_eq_of_lt]
  all_goals omega

lemma nil_lt {α : Type} [LT α] {as : List α} (h : as ≠ []) : [] < as := by
  cases as with
  | nil => exact absurd rfl h
  | cons a as => exact List.nil_lt_cons a as

lemma flatMap_utf8EncodeChar_lt {cs ds : List Char} (h : cs < ds) :
    cs.flatMap String.utf8EncodeChar < ds.flatMap String.utf8EncodeChar := by
  induction cs generalizing ds with
  | nil =>
    cases ds with
    | nil => exact absurd h (List.lt_irrefl _)
    | cons d ds =>
      rw [List.flatMap_cons]
      exact nil_lt fun he => String.utf8EncodeChar_ne_nil (List.append_eq_nil_iff.mp he).1
  | cons c cs ih =>
    cases ds with
    | nil => exact absurd h (List.not_lt_nil _)
    | cons d ds =>
      rw [List.flatMap_cons, List.flatMap_cons]
      rcases List.cons_lt_cons_iff.mp h with hc | ⟨rfl, hcs⟩
      · exact utf8EncodeChar_lt hc _ _
      · exact List.append_left_lt (ih hcs)

lemma ofText_lt_ofText {s t : String} : ofText s < ofText t ↔ s < t := by
  rw [ofText_eq_flatMap, ofText_eq_flatMap, String.lt_iff_toList_lt]
  refine ⟨fun h => ?_, flatMap_utf8EncodeChar_lt⟩
  rcases lt_trichotomy s.toList t.toList with hl | he | hg
  · exact hl
  · exact absurd (he ▸ h) (List.lt_irrefl _)
  · exact absurd h (List.lt_asymm (flatMap_utf8EncodeChar_lt hg))

lemma ofText_inj {s t : String} : ofText s = ofText t ↔ s = t := by
  refine ⟨fun h => ?_, congrArg ofText⟩
  have ht : text? (ofText s) = text? (ofText t) := congrArg text? h
  rw [text?_ofText, text?_ofText] at ht
  exact Option.some.inj ht

/-! ### Lower case -/

lemma lower_eq_self {b : Octets} (h : ∀ x ∈ b, ¬ (65 ≤ x ∧ x ≤ 90)) : lower b = b :=
  (List.map_congr_left fun x hx => if_neg (h x hx)).trans b.map_id'

lemma utf8EncodeChar_toLower (c : Char) :
    String.utf8EncodeChar c.toLower = lower (String.utf8EncodeChar c) := by
  unfold Char.toLower
  split
  · rename_i h
    have hl : 65 ≤ c.val.toNat ∧ c.val.toNat ≤ 90 := h
    have hv : (c.val + ('a'.val - 'A'.val)).toNat = c.val.toNat + 32 := by
      have hd : ('a'.val - 'A'.val).toNat = 32 := rfl
      rw [UInt32.toNat_add, hd]
      omega
    unfold String.utf8EncodeChar
    dsimp only
    rw [hv, if_pos (by omega), if_pos (by omega)]
    generalize c.val.toNat = v at hl
    have hb : 65 ≤ UInt8.ofNat v ∧ UInt8.ofNat v ≤ 90 := by
      simp only [UInt8.le_iff_toNat_le, UInt8.toNat_ofNat', UInt8.toNat_ofNat]
      omega
    rw [lower, List.map_singleton, if_pos hb, UInt8.ofNat_add]
    rfl
  · rename_i h
    have hl : ¬ (65 ≤ c.val.toNat ∧ c.val.toNat ≤ 90) := h
    symm
    apply lower_eq_self
    unfold String.utf8EncodeChar
    generalize c.val.toNat = v at hl
    dsimp only
    split_ifs
    all_goals simp only [List.forall_mem_cons, List.not_mem_nil, false_imp_iff, implies_true,
      and_true, UInt8.le_iff_toNat_le, UInt8.toNat_ofNat', UInt8.toNat_ofNat]
    all_goals omega

lemma ofText_lower (s : String) : ofText (Identity.lower s) = lower (ofText s) := by
  rw [ofText_eq_flatMap, ofText_eq_flatMap, Identity.toList_lower]
  induction s.toList with
  | nil => rfl
  | cons c cs ih =>
    rw [List.map_cons, List.flatMap_cons, List.flatMap_cons, lower_append, ih,
      utf8EncodeChar_toLower]

end Octets

/-! ### Elections -/

variable {a b c : String}

lemma Identity.same_iff : same a b ↔ lower a = lower b := beq_iff_eq

lemma Identity.lower_append (a b : String) : lower (a ++ b) = lower a ++ lower b := by
  rw [← String.toList_inj, String.toList_append, toList_lower, toList_lower, toList_lower,
    String.toList_append, List.map_append]

lemma Identity.lower_eq_empty : lower a = "" ↔ a = "" := by
  rw [← String.toList_eq_nil_iff, toList_lower, List.map_eq_nil_iff, String.toList_eq_nil_iff]

lemma wonElection_iff : wonElection a b ↔ Identity.lower b < Identity.lower a := decide_eq_true_iff

lemma wonElection_ofList (l r : List Char) : wonElection (String.ofList l) (String.ofList r) =
    decide (r.map Char.toLower < l.map Char.toLower) := by
  rw [wonElection, decide_eq_decide, String.lt_iff_toList_lt, Identity.toList_lower,
    Identity.toList_lower, String.toList_ofList, String.toList_ofList]

lemma Identity.same_ofList (l r : List Char) : same (String.ofList l) (String.ofList r) =
    (l.map Char.toLower == r.map Char.toLower) := by
  rw [Bool.eq_iff_iff, same_iff, beq_iff_eq, ← String.toList_inj, toList_lower, toList_lower,
    String.toList_ofList, String.toList_ofList]

lemma lt_append {t : String} (h : t ≠ "") (s : String) : s < s ++ t := by
  rw [String.lt_iff_toList_lt, String.toList_append]
  have hn : t.toList ≠ [] := fun he => h (String.toList_eq_nil_iff.mp he)
  have hl : s.toList ++ [] < s.toList ++ t.toList := List.append_left_lt (Octets.nil_lt hn)
  rwa [List.append_nil] at hl

/-- **Elections order hosts up to ASCII case.** Hosts win and are the same by their octets in lower
case. Exactly one of two wins, or they are the same; who wins against a winner wins; nothing changes
for hosts that are the same; and a host loses to what it is a proper beginning of. -/
theorem wonElection_orders (a b c : String) :
    (wonElection a b ↔ Octets.lower (Octets.ofText b) < Octets.lower (Octets.ofText a)) ∧
    (Identity.same a b ↔ Octets.lower (Octets.ofText a) = Octets.lower (Octets.ofText b)) ∧
    (wonElection a b).toNat + (wonElection b a).toNat + (Identity.same a b).toNat = 1 ∧
    (wonElection a b → wonElection b c → wonElection a c) ∧
    (∀ a' b', Identity.same a a' → Identity.same b b' → wonElection a' b' = wonElection a b) ∧
    ∀ p t, Identity.same a p → t ≠ "" → wonElection (p ++ t) a ∧ ¬ wonElection a (p ++ t) := by
  refine ⟨?_, ?_, ?_, fun hab hbc => ?_, fun a' b' ha hb => ?_, ?_⟩
  · rw [wonElection_iff, ← Octets.ofText_lower, ← Octets.ofText_lower, Octets.ofText_lt_ofText]
  · rw [Identity.same_iff, ← Octets.ofText_lower, ← Octets.ofText_lower, Octets.ofText_inj]
  · -- one of the three holds, and the other two do not
    rcases lt_trichotomy (Identity.lower a) (Identity.lower b) with hl | he | hg
    · simp [wonElection, Identity.same, hl, String.lt_asymm hl, hl.ne]
    · simp [wonElection, Identity.same, he]
    · simp [wonElection, Identity.same, hg, String.lt_asymm hg, hg.ne']
  · rw [wonElection_iff] at hab hbc ⊢
    exact String.lt_trans hbc hab
  · rw [Identity.same_iff] at ha hb
    rw [wonElection, wonElection, ha, hb]
  · -- a name is before each longer one that it begins
    intro p t ha ht
    rw [Identity.same_iff] at ha
    have hl : Identity.lower a < Identity.lower (p ++ t) := by
      rw [ha, Identity.lower_append]
      exact lt_append (mt Identity.lower_eq_empty.mp ht) _
    rw [wonElection_iff, wonElection_iff]
    exact ⟨hl, String.lt_asymm hl⟩

/-- An underscore comes after capital letters, but before small ones, and so before hosts that are
written in capitals. -/
theorem wonElection_orders_underscore :
    wonElection "b" "A" ∧ wonElection "A" "_" ∧ wonElection "b" "_" ∧
      Identity.same "A" "a" ∧ wonElection "b" "a" ∧
      wonElection ("PEER" ++ ".example") "peer" ∧ ¬ wonElection "peer" ("PEER" ++ ".example") := by
  obtain ⟨-, -, -, htrans, hsame, -⟩ := wonElection_orders "b" "A" "_"
  obtain ⟨-, -, -, -, -, hprefix⟩ := wonElection_orders "peer" "A" "_"
  have hba : wonElection "b" "A" := (wonElection_ofList ['b'] ['A']).trans (by decide)
  have hau : wonElection "A" "_" := (wonElection_ofList ['A'] ['_']).trans (by decide)
  have haa : Identity.same "A" "a" := (Identity.same_ofList ['A'] ['a']).trans (by decide)
  have hbb : Identity.same "b" "b" := (Identity.same_ofList ['b'] ['b']).trans (by decide)
  have hp : Identity.same "peer" "PEER" :=
    (Identity.same_ofList ['p', 'e', 'e', 'r'] ['P', 'E', 'E', 'R']).trans (by decide)
  exact ⟨hba, hau, htrans hba hau, haa, (hsame "b" "a" hbb haa).trans hba,
    hprefix "PEER" ".example" hp (by simp)⟩

end Diameter
