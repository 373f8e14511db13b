import Mathlib.Data.List.Induction
import Mathlib.Data.List.Nodup
import Diameter.Proofs.Negotiation

/-!
Which applications a negotiation comes to.

Without relays it is local entries in local order, of each pair of vendor and id the first, if the
far end has the pair too (`firstCommon`). Nothing but the pairs of the far end counts, and the far
end comes to the same pairs. A relay takes all there is at the other end. Main statement:
`negotiate_selects`.
-/

namespace Diameter

open Application (keys)

/-- Local applications whose key the far end has, and no local one before them. -/
def firstCommon (here there : List Application) : List Application :=
  (here.zipIdx.filter fun (a, i) => a.key ∈ keys there ∧ a.key ∉ keys (here.take i)).map Prod.fst

variable {here there : List Application}

lemma firstCommon_sublist (here there : List Application) :
    (firstCommon here there).Sublist here :=
  (List.filter_sublist.map Prod.fst).trans (by rw [List.zipIdx_map_fst])

lemma firstCommon_concat (here there : List Application) (a : Application) :
    firstCommon (here ++ [a]) there = firstCommon here there ++
      if a.key ∈ keys there ∧ a.key ∉ keys here then [a] else [] := by
  -- what stands before an entry of `here` is the same with one more entry at the end
  have hp : here.zipIdx.filter (fun (b, i) => b.key ∈ keys there ∧
        b.key ∉ keys ((here ++ [a]).take i)) =
      here.zipIdx.filter fun (b, i) => b.key ∈ keys there ∧ b.key ∉ keys (here.take i) := by
    refine List.filter_congr fun (b, i) hb => ?_
    have hi : i ≤ here.length := by
      have hl := List.snd_lt_of_mem_zipIdx hb
      omega
    simp only [List.take_append_of_le_length hi]
  rw [firstCommon, List.zipIdx_append, List.filter_append, List.map_append, hp]
  congr 1
  by_cases h : a.key ∈ keys there ∧ a.key ∉ keys here <;> simp [h]

lemma commonApplications_eq (here there : List Application) :
    commonApplications here there = firstCommon here there := by
  induction here using List.reverseRecOn with
  | nil => rfl
  | append_singleton here a ih =>
    have hj : commonApplications (here ++ [a]) there =
        joinCommon there (commonApplications here there) a :=
      List.foldl_concat (joinCommon there) [] a here
    have hc : (there.any (·.same a) && !(commonApplications here there).any (·.same a)) = true ↔
        a.key ∈ keys there ∧ a.key ∉ keys here := by
      rw [Bool.and_eq_true_iff, any_same_iff, Bool.not_eq_true', ← Bool.not_eq_true, any_same_iff,
        mem_keys_commonApplications]
      tauto
    rw [hj, joinCommon, firstCommon_concat, ← ih]
    simp only [hc]
    split
    · rfl
    · rw [List.append_nil]

lemma mem_keys_firstCommon {k : UInt32 × UInt32} :
    k ∈ keys (firstCommon here there) ↔ k ∈ keys here ∧ k ∈ keys there := by
  rw [← commonApplications_eq, mem_keys_commonApplications]

lemma nodup_keys_firstCommon (here there : List Application) :
    (keys (firstCommon here there)).Nodup := by
  induction here using List.reverseRecOn with
  | nil => exact List.nodup_nil
  | append_singleton here a ih =>
    rw [firstCommon_concat]
    split
    · rename_i h
      have ha : a.key ∉ keys (firstCommon here there) := fun hm =>
        h.2 (mem_keys_firstCommon.mp hm).1
      have hk : keys (firstCommon here there ++ [a]) = keys (firstCommon here there) ++ [a.key] :=
        List.map_append
      rw [hk, List.nodup_append]
      refine ⟨ih, List.nodup_singleton _, ?_⟩
      rintro k hk l hl rfl
      exact ha (List.mem_singleton.mp hl ▸ hk)
    · rwa [List.append_nil]

lemma any_isRelay_iff (as : List Application) :
    as.any Application.isRelay ↔ ∃ k ∈ keys as, k.2 = Application.relayId := by
  simp [keys, Application.key, Application.isRelay]

/-- **What a negotiation comes to.** If the far end is a relay, to all that is here; else, if this
end is one, to all that is there; else to the first local application of each key that the far end
has too. It fails exactly if that is nothing, and for that reason. Without relays the keys in it are
distinct, it is the same for any list of the far end with the same keys, and the far end comes to
the same keys. -/
theorem negotiate_selects (here there : List Application) :
    let as := if there.any Application.isRelay then here
      else if here.any Application.isRelay then there
      else firstCommon here there
    (∀ bs, negotiate here there = .ok bs ↔ as = bs ∧ bs ≠ []) ∧
    (∀ e, negotiate here there = .error e ↔
      as = [] ∧ e = .invalidMessage .unsupportedApplication) ∧
    (¬ there.any Application.isRelay → ¬ here.any Application.isRelay →
      as.Sublist here ∧ (keys as).Nodup ∧
      (∀ there', (∀ k, k ∈ keys there' ↔ k ∈ keys there) →
        negotiate here there' = negotiate here there) ∧
      ∀ bs, negotiate here there = .ok bs →
        ∃ cs, negotiate there here = .ok cs ∧ ∀ k, k ∈ keys bs ↔ k ∈ keys cs) := by
  intro as
  have hs : shared here there = as := by
    rw [shared, commonApplications_eq]
  refine ⟨fun bs => ?_, fun e => ?_, fun ht hh => ?_⟩
  · -- it succeeds with what is shared, unless that is nothing
    rw [negotiate_eq_ok, hs]
    constructor
    · rintro ⟨hn, rfl⟩
      exact ⟨rfl, hn⟩
    · rintro ⟨rfl, hn⟩
      exact ⟨hn, rfl⟩
  · -- and fails otherwise
    rw [negotiate_eq, hs]
    split
    · rename_i hn
      simp [hn, eq_comm]
    · rename_i hn
      simp [hn]
  · -- without relays, what is shared is the first of each key that both have
    have ha : as = firstCommon here there := by simp [as, ht, hh]
    rw [ha]
    refine ⟨firstCommon_sublist _ _, nodup_keys_firstCommon _ _, fun there' hk => ?_,
      fun bs hb => ?_⟩
    · -- the order and the kinds on the far side do not matter
      have ht' : ¬ there'.any Application.isRelay := by
        simp only [any_isRelay_iff, hk] at ht ⊢
        exact ht
      have hf : firstCommon here there' = firstCommon here there := by
        simp only [firstCommon, hk]
      rw [negotiate_eq, negotiate_eq, shared, shared, if_neg ht, if_neg ht', if_neg hh, if_neg hh,
        commonApplications_eq, commonApplications_eq, hf]
    · -- the far side finds the same keys
      obtain ⟨cs, hc⟩ := negotiate_symm hb
      exact ⟨cs, hc, mem_keys_negotiate hb hc fun h => hh h.1⟩

/-- Application 4 is supported twice here, and application 7 of a vendor is twice at the far end. -/
theorem negotiate_selects_repeated :
    let here : List Application := [.vendorAuth 10415 7, .auth 4, .acct 0 4, .auth 9]
    let there : List Application := [.acct 0 4, .auth 1, .acct 10415 7, .vendorAuth 10415 7]
    ¬ there.any Application.isRelay ∧ ¬ here.any Application.isRelay ∧
      negotiate here there = .ok [.vendorAuth 10415 7, .auth 4] ∧
      negotiate here there.reverse = negotiate here there ∧
      ∃ cs, negotiate there here = .ok cs ∧
        ∀ k, k ∈ keys [.vendorAuth 10415 7, .auth 4] ↔ k ∈ keys cs := by
  intro here there
  have ht : ¬ there.any Application.isRelay := by decide
  have hh : ¬ here.any Application.isRelay := by decide
  obtain ⟨hok, -, hall⟩ := negotiate_selects here there
  obtain ⟨-, -, hsame, hback⟩ := hall ht hh
  have hn : negotiate here there = .ok [.vendorAuth 10415 7, .auth 4] :=
    (hok _).mpr ⟨by decide, by decide⟩
  exact ⟨ht, hh, hn, hsame _ fun k => by simp [keys], hback _ hn⟩

end Diameter
