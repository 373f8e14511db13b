import Diameter.Proofs.Values

/-!
The grammar of identities.

    identity ::= label ('.' label)* '.'?
    label    ::= c | c (c | '-'){0,61} c

where `c` is an ASCII letter, an ASCII digit or an underscore. The check of a text drops a dot at
the end, splits what is left at dots and looks at the pieces; it accepts what the grammar derives
and is not too long. Main statement: `Identity.isValid_iff_grammatical`.
-/

namespace Diameter

namespace Identity

/-- An ASCII letter, an ASCII digit or an underscore. -/
def IsNameChar (c : Char) : Prop :=
  ('a' ≤ c ∧ c ≤ 'z') ∨ ('A' ≤ c ∧ c ≤ 'Z') ∨ ('0' ≤ c ∧ c ≤ '9') ∨ c = '_'

instance : DecidablePred IsNameChar := fun _ => inferInstanceAs (Decidable (_ ∨ _))

inductive Label : List Char → Prop
  | single {c : Char} (h : IsNameChar c) : Label [c]
  | framed {c d : Char} {inner : List Char} (hc : IsNameChar c)
    (hi : ∀ x ∈ inner, IsNameChar x ∨ x = '-') (hl : inner.length ≤ 61) (hd : IsNameChar d) :
    Label (c :: (inner ++ [d]))

/-- Labels with dots between them, at least one. -/
inductive Labels : List Char → Prop
  | one {l : List Char} (h : Label l) : Labels l
  | more {l cs : List Char} (h : Label l) (hs : Labels cs) : Labels (l ++ '.' :: cs)

inductive Derives : List Char → Prop
  | plain {cs : List Char} (h : Labels cs) : Derives cs
  | rooted {cs : List Char} (h : Labels cs) : Derives (cs ++ ['.'])

/-- What the grammar derives, in at most 255 octets. -/
def Grammatical (s : String) : Prop := s.utf8ByteSize ≤ 255 ∧ Derives s.toList

variable {c : Char} {l r cs : List Char} {s : String}

/-! ### Labels -/

lemma isAlphanum_iff : c.isAlphanum ↔
    ('A' ≤ c ∧ c ≤ 'Z' ∨ 'a' ≤ c ∧ c ≤ 'z') ∨ '0' ≤ c ∧ c ≤ '9' := by
  have hu : c.isUpper ↔ 'A' ≤ c ∧ c ≤ 'Z' := decide_eq_true_iff
  have hl : c.isLower ↔ 'a' ≤ c ∧ c ≤ 'z' :=
    Bool.and_eq_true_iff.trans (and_congr decide_eq_true_iff decide_eq_true_iff)
  have hd : c.isDigit ↔ '0' ≤ c ∧ c ≤ '9' :=
    Bool.and_eq_true_iff.trans (and_congr decide_eq_true_iff decide_eq_true_iff)
  rw [← hu, ← hl, ← hd, ← Bool.or_eq_true_iff, ← Bool.or_eq_true_iff]
  rfl

lemma isLabelChar_iff : isLabelChar c ↔ IsNameChar c ∨ c = '-' := by
  simp only [isLabelChar, IsNameChar, isAlphanum_iff, Bool.or_eq_true, decide_eq_true_eq]
  tauto

lemma IsNameChar.ne_hyphen (h : IsNameChar c) : c ≠ '-' := by
  rintro rfl
  revert h
  decide

lemma IsNameChar.ne_dot (h : IsNameChar c) : c ≠ '.' := by
  rintro rfl
  revert h
  decide

lemma Label.ne_nil (h : Label l) : l ≠ [] := by
  cases h <;> simp

lemma Label.not_mem_dot (h : Label l) : '.' ∉ l := by
  intro hm
  cases h with
  | single h => exact h.ne_dot (List.mem_singleton.mp hm).symm
  | framed hc hi _ hd =>
    rcases List.mem_cons.mp hm with he | hm
    · exact hc.ne_dot he.symm
    · rcases List.mem_append.mp hm with hm | hm
      · rcases hi _ hm with h | h
        · exact h.ne_dot rfl
        · exact absurd h (by decide)
      · exact hd.ne_dot (List.mem_singleton.mp hm).symm

lemma IsNameChar.isLabelChar (h : IsNameChar c) : Identity.isLabelChar c :=
  isLabelChar_iff.mpr (.inl h)

lemma isNameChar_of_ne_hyphen (h : isLabelChar c) (hc : c ≠ '-') : IsNameChar c :=
  (isLabelChar_iff.mp h).resolve_right hc

lemma isLabel_iff : isLabel l ↔ Label l := by
  simp only [isLabel, Bool.and_eq_true, decide_eq_true_eq, List.all_eq_true]
  constructor
  · -- a single character, or two at the ends with others in between
    rintro ⟨⟨⟨⟨hn, hl⟩, hh⟩, ht⟩, ha⟩
    obtain ⟨c, t, rfl⟩ := List.exists_cons_of_ne_nil hn
    have hc : IsNameChar c := isNameChar_of_ne_hyphen (ha c List.mem_cons_self) (by simpa using hh)
    rcases List.eq_nil_or_concat t with rfl | ⟨inner, d, rfl⟩
    · exact .single hc
    · rw [List.concat_eq_append] at hl ht ha ⊢
      have hd : IsNameChar d := by
        refine isNameChar_of_ne_hyphen (ha d (by simp)) ?_
        rwa [← List.cons_append, List.getLast?_concat, ne_eq, Option.some.injEq] at ht
      refine .framed hc (fun x hx => isLabelChar_iff.mp (ha x (by simp [hx]))) ?_ hd
      simp only [List.length_cons, List.length_append, List.length_nil] at hl
      omega
  · intro h
    cases h with
    | single h => simp [h.ne_hyphen, h.isLabelChar]
    | @framed c d inner hc hi hl hd =>
      refine ⟨⟨⟨⟨List.cons_ne_nil _ _, ?_⟩, ?_⟩, ?_⟩, fun x hx => ?_⟩
      · simp only [List.length_cons, List.length_append, List.length_nil]
        omega
      · simpa using hc.ne_hyphen
      · rw [← List.cons_append, List.getLast?_concat]
        simpa using hd.ne_hyphen
      · -- the hyphen is allowed inside only
        rcases List.mem_cons.mp hx with rfl | hx
        · exact hc.isLabelChar
        · rcases List.mem_append.mp hx with hx | hx
          · exact isLabelChar_iff.mpr (hi x hx)
          · exact List.mem_singleton.mp hx ▸ hd.isLabelChar

/-! ### Splitting at dots -/

lemma labels_of_not_mem (h : '.' ∉ l) : labels l = [l] := by
  induction l with
  | nil => rfl
  | cons c l ih =>
    obtain ⟨hc, hl⟩ := not_or.mp (mt List.mem_cons.mpr h)
    rw [labels, if_neg (Ne.symm hc), ih hl]

lemma labels_ne_nil (cs : List Char) : labels cs ≠ [] := by
  cases cs with
  | nil => exact List.cons_ne_nil _ _
  | cons c cs =>
    unfold labels
    split
    · exact List.cons_ne_nil _ _
    · split <;> exact List.cons_ne_nil _ _

lemma labels_append (h : '.' ∉ l) (cs : List Char) : labels (l ++ '.' :: cs) = l :: labels cs := by
  induction l with
  | nil => rw [List.nil_append, labels, if_pos rfl]
  | cons c l ih =>
    obtain ⟨hc, hl⟩ := not_or.mp (mt List.mem_cons.mpr h)
    rw [List.cons_append, labels, if_neg (Ne.symm hc), ih hl]

lemma labels_all_iff : (labels cs).all isLabel ↔ Labels cs := by
  constructor
  · intro h
    induction hp : labels cs generalizing cs with
    | nil => exact absurd hp (labels_ne_nil cs)
    | cons p ps ih =>
      by_cases hd : '.' ∈ cs
      · obtain ⟨l, r, rfl, hl⟩ := List.eq_append_cons_of_mem hd
        rw [labels_append hl] at h hp
        obtain ⟨rfl, rfl⟩ := List.cons.inj hp
        rw [List.all_cons, Bool.and_eq_true] at h
        exact .more (isLabel_iff.mp h.1) (ih h.2 rfl)
      · rw [labels_of_not_mem hd, List.all_cons, Bool.and_eq_true] at h
        exact .one (isLabel_iff.mp h.1)
  · intro h
    induction h with
    | one h => simpa [labels_of_not_mem h.not_mem_dot] using isLabel_iff.mpr h
    | more h _ ih => simpa [labels_append h.not_mem_dot, isLabel_iff.mpr h] using ih

lemma Labels.ne_nil (h : Labels cs) : cs ≠ [] := by
  cases h with
  | one h => exact h.ne_nil
  | more => simp

lemma Label.getLast?_ne_dot (h : Label l) : l.getLast? ≠ some '.' := fun he =>
  h.not_mem_dot (List.mem_of_getLast? he)

lemma Labels.getLast?_ne_dot (h : Labels cs) : cs.getLast? ≠ some '.' := by
  induction h with
  | one h => exact h.getLast?_ne_dot
  | @more l cs _ hs ih =>
    obtain ⟨r, d, rfl⟩ := (List.eq_nil_or_concat cs).resolve_left hs.ne_nil
    rw [List.concat_eq_append] at ih ⊢
    have he : l ++ '.' :: (r ++ [d]) = (l ++ '.' :: r) ++ [d] := by simp
    rw [List.getLast?_concat] at ih
    rwa [he, List.getLast?_concat]

/-- A dot at the very end may be there or not. -/
lemma derives_iff : Derives cs ↔ Labels (dropRootDot cs) := by
  constructor
  · intro h
    cases h with
    | plain h => rwa [dropRootDot, if_neg h.getLast?_ne_dot]
    | rooted h => rwa [dropRootDot, if_pos List.getLast?_concat, List.dropLast_concat]
  · intro h
    unfold dropRootDot at h
    split at h
    · rename_i hd
      obtain ⟨cs, rfl⟩ := List.getLast?_eq_some_iff.mp hd
      rw [List.dropLast_concat] at h
      exact .rooted h
    · exact .plain h

lemma Derives.ne_nil (h : Derives cs) : cs ≠ [] := by
  cases h with
  | plain h => exact h.ne_nil
  | rooted => simp

/-! ### Texts and octets -/

lemma isValid_iff : isValid s ↔ Grammatical s := by
  simp only [isValid, Bool.and_eq_true, decide_eq_true_eq, labels_all_iff, ← derives_iff,
    Grammatical]
  constructor
  · rintro ⟨⟨-, hl⟩, hd⟩
    exact ⟨hl, hd⟩
  · rintro ⟨hl, hd⟩
    exact ⟨⟨fun he => hd.ne_nil (String.toList_eq_nil_iff.mpr he), hl⟩, hd⟩

lemma asIdentity_eq_error {a : Avp} (h : ∀ s, Grammatical s → a.data ≠ Octets.ofText s) :
    a.asIdentity = .error (.invalidAvp a.code .badValue) := by
  unfold Avp.asIdentity
  split
  · rename_i s hs
    exact if_neg fun hv => h s (isValid_iff.mp hv) (Octets.text?_eq_some_iff.mp hs)
  · rfl

/-- **Identities are what the grammar derives.** A text is one if the grammar derives it and it has
at most 255 octets; as an identity those octets are read that are UTF-8 of one, and all others are a
bad value. -/
theorem isValid_iff_grammatical :
    (∀ s, isValid s ↔ s.utf8ByteSize ≤ 255 ∧ Derives s.toList) ∧
    (∀ (a : Avp) s, a.asIdentity = .ok s ↔ Grammatical s ∧ a.data = Octets.ofText s) ∧
    (∀ code d v, Avp.Value.decode .diameterIdentity code d = .ok v ↔
      ∃ s, v = .diameterIdentity s ∧ Grammatical s ∧ d = Octets.ofText s) ∧
    ∀ code d, (∀ s, Grammatical s → d ≠ Octets.ofText s) →
      Avp.Value.decode .diameterIdentity code d = .error (.invalidAvp code .badValue) := by
  have hok (a : Avp) (s : String) :
      a.asIdentity = .ok s ↔ Grammatical s ∧ a.data = Octets.ofText s := by
    rw [Avp.asIdentity_eq_ok_iff, isValid_iff]
  refine ⟨fun s => isValid_iff, hok, fun code d v => ?_, fun code d h => ?_⟩
  · -- an AVP of this type decodes to the text it holds
    rw [Avp.Value.decode, Avp.value, map_eq_ok]
    simp only [hok]
    constructor
    · rintro ⟨s, hs, rfl⟩
      exact ⟨s, rfl, hs⟩
    · rintro ⟨s, rfl, hs⟩
      exact ⟨s, hs, rfl⟩
  · -- octets that are no identity's are rejected
    rw [Avp.Value.decode, Avp.value, asIdentity_eq_error h]
    rfl

/-- A dot may end an identity but not be all of it, and no octet outside of ASCII is in one. -/
theorem isValid_iff_grammatical_rooted :
    Grammatical "_a-1." ∧ isValid "_a-1." ∧ ¬ isValid "." ∧ ¬ Grammatical "." ∧
      Avp.Value.decode .diameterIdentity 264 [0x5f, 0x61, 0x2d, 0x31, 0x2e] =
        .ok (.diameterIdentity "_a-1.") ∧
      Avp.Value.decode .diameterIdentity 264 [0xc3, 0xa4] =
        .error (.invalidAvp 264 .badValue) := by
  obtain ⟨hvalid, -, hread, hrefuse⟩ := isValid_iff_grammatical
  have hi : ∀ x ∈ ['a', '-'], IsNameChar x ∨ x = '-' := by
    rw [List.forall_mem_cons, List.forall_mem_singleton]
    decide
  have hl : Label ('_' :: (['a', '-'] ++ ['1'])) :=
    .framed (by decide) hi (by decide) (by decide)
  have ht : "_a-1.".toList = '_' :: (['a', '-'] ++ ['1']) ++ ['.'] := by decide +kernel
  have hg : Grammatical "_a-1." := ⟨by decide +kernel, ht ▸ .rooted (.one hl)⟩
  have hdot : ¬ isValid "." := by decide +kernel
  refine ⟨hg, (hvalid _).mpr hg, hdot, fun h => hdot ((hvalid _).mpr h),
    (hread _ _ _).mpr ⟨_, rfl, hg, by decide +kernel⟩, hrefuse _ _ fun s hs he => ?_⟩
  have ht : Octets.text? [0xc3, 0xa4] = some s := Octets.text?_eq_some_iff.mpr he
  have hb : Octets.text? [0xc3, 0xa4] = some "ä" := by decide +kernel
  have hn : ¬ isValid "ä" := by decide +kernel
  exact hn (Option.some.inj (hb.symm.trans ht) ▸ (hvalid s).mpr hs)

end Identity

end Diameter
