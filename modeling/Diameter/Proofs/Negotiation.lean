import Mathlib.Tactic.Common
import Diameter.Capabilities

/-!
What two lists of applications come to, whichever end compares them.

Applications are told apart by their keys, pairs of vendor and id. Without relays the common keys
are those that both lists have (`mem_keys_commonApplications`). Negotiation fails for one reason
only (`negotiate_eq_error`), it succeeds at both ends or at neither (`negotiate_ok_iff`), and unless
both ends are relays it finds the same keys at both (`mem_keys_negotiate`).
-/

namespace Diameter

/-- What is told apart of applications. -/
def Application.keys (as : List Application) : List (UInt32 × UInt32) := as.map Application.key

open Application (keys)

section Common

variable {here there : List Application} {k : UInt32 × UInt32}

lemma any_same_iff (as : List Application) (a : Application) :
    as.any (·.same a) = true ↔ a.key ∈ keys as := by
  simp only [List.any_eq_true, Application.same, beq_iff_eq, keys, List.mem_map]

/-- One more local application is looked at. -/
def joinCommon (there common : List Application) (a : Application) : List Application :=
  if there.any (·.same a) && !common.any (·.same a) then common ++ [a] else common

lemma mem_keys_joinCommon (common : List Application) (a : Application) :
    k ∈ keys (joinCommon there common a) ↔ k ∈ keys common ∨ k = a.key ∧ a.key ∈ keys there := by
  unfold joinCommon
  split
  · rename_i h
    have ht : a.key ∈ keys there := (any_same_iff there a).mp (Bool.and_eq_true_iff.mp h).1
    simp [keys] at ht ⊢
    simp [ht]
  · rename_i h
    -- What is passed over is not common, or its key has been found before.
    have hn : a.key ∈ keys there → a.key ∈ keys common := by
      intro ht
      rw [(any_same_iff there a).mpr ht, Bool.true_and, Bool.not_eq_true', Bool.not_eq_false] at h
      exact (any_same_iff common a).mp h
    constructor
    · exact .inl
    · rintro (h | ⟨rfl, h⟩)
      · exact h
      · exact hn h

lemma mem_keys_foldl_joinCommon (as common : List Application) :
    k ∈ keys (as.foldl (joinCommon there) common) ↔
      k ∈ keys common ∨ k ∈ keys as ∧ k ∈ keys there := by
  induction as generalizing common with
  | nil => simp [keys]
  | cons a as ih =>
    have hc : k ∈ keys (a :: as) ↔ k = a.key ∨ k ∈ keys as := List.mem_cons
    rw [List.foldl_cons, ih, mem_keys_joinCommon, hc]
    constructor
    · rintro ((h | ⟨rfl, h⟩) | ⟨ha, ht⟩)
      · exact .inl h
      · exact .inr ⟨.inl rfl, h⟩
      · exact .inr ⟨.inr ha, ht⟩
    · rintro (h | ⟨rfl | ha, ht⟩)
      · exact .inl (.inl h)
      · exact .inl (.inr ⟨rfl, ht⟩)
      · exact .inr ⟨ha, ht⟩

/-- The common keys are those that both ends have. -/
lemma mem_keys_commonApplications :
    k ∈ keys (commonApplications here there) ↔ k ∈ keys here ∧ k ∈ keys there := by
  have h : commonApplications here there = here.foldl (joinCommon there) [] := rfl
  rw [h, mem_keys_foldl_joinCommon]
  simp [keys]

lemma commonApplications_ne_nil :
    commonApplications here there ≠ [] ↔ ∃ a ∈ here, ∃ b ∈ there, a.key = b.key := by
  constructor
  · intro h
    obtain ⟨c, hc⟩ := List.exists_mem_of_ne_nil _ h
    obtain ⟨ha, hb⟩ := mem_keys_commonApplications.mp (List.mem_map_of_mem hc)
    obtain ⟨a, ha, hac⟩ := List.mem_map.mp ha
    obtain ⟨b, hb, hbc⟩ := List.mem_map.mp hb
    exact ⟨a, ha, b, hb, hac.trans hbc.symm⟩
  · rintro ⟨a, ha, b, hb, hab⟩ h
    have hk : a.key ∈ keys (commonApplications here there) :=
      mem_keys_commonApplications.mpr ⟨List.mem_map_of_mem ha, hab ▸ List.mem_map_of_mem hb⟩
    rw [h] at hk
    cases hk

end Common

section Negotiate

variable {here there as bs : List Application}

/-- Two ends can agree: one is a relay and the other has anything, or both have some pair of vendor
and id. -/
def Compatible (here there : List Application) : Prop :=
  there.any Application.isRelay ∧ here ≠ [] ∨ here.any Application.isRelay ∧ there ≠ [] ∨
    ∃ a ∈ here, ∃ b ∈ there, a.key = b.key

lemma Compatible.symm (h : Compatible here there) : Compatible there here := by
  rcases h with h | h | ⟨a, ha, b, hb, hab⟩
  · exact .inr (.inl h)
  · exact .inl h
  · exact .inr (.inr ⟨b, hb, a, ha, hab.symm⟩)

/-- What negotiation comes to, unless there is nothing. -/
def shared (here there : List Application) : List Application :=
  if there.any Application.isRelay then here
  else if here.any Application.isRelay then there
  else commonApplications here there

lemma negotiate_eq (here there : List Application) : negotiate here there =
    if shared here there = [] then .error (.invalidMessage .unsupportedApplication)
    else .ok (shared here there) := rfl

lemma negotiate_eq_ok : negotiate here there = .ok as ↔ shared here there ≠ [] ∧
    shared here there = as := by
  rw [negotiate_eq]
  split <;> simp [*]

/-- There is one reason not to agree. -/
lemma negotiate_eq_error {e : Failure} (h : negotiate here there = .error e) :
    e = .invalidMessage .unsupportedApplication := by
  rw [negotiate_eq] at h
  split at h
  · exact (Except.error.inj h).symm
  · cases h

lemma shared_ne_nil : shared here there ≠ [] ↔ Compatible here there := by
  unfold shared Compatible
  split
  · -- the remote side is a relay
    rename_i ht
    constructor
    · exact fun h => .inl ⟨ht, h⟩
    · rintro (h | ⟨h, -⟩ | ⟨a, ha, -⟩)
      · exact h.2
      · rintro rfl
        cases h
      · exact List.ne_nil_of_mem ha
  · rename_i ht
    split
    · -- this side is a relay
      rename_i hh
      constructor
      · exact fun h => .inr (.inl ⟨hh, h⟩)
      · rintro (⟨h, -⟩ | h | ⟨-, -, b, hb, -⟩)
        · exact absurd h ht
        · exact h.2
        · exact List.ne_nil_of_mem hb
    · -- neither is
      rename_i hh
      simp only [ht, hh, Bool.false_eq_true, false_and, false_or]
      exact commonApplications_ne_nil

/-- Negotiation succeeds exactly at ends that can agree. -/
lemma negotiate_ok_iff : (∃ as, negotiate here there = .ok as) ↔ Compatible here there := by
  rw [← shared_ne_nil]
  constructor
  · rintro ⟨as, h⟩
    exact (negotiate_eq_ok.mp h).1
  · exact fun h => ⟨_, negotiate_eq_ok.mpr ⟨h, rfl⟩⟩

lemma negotiate_symm (h : negotiate here there = .ok as) : ∃ bs, negotiate there here = .ok bs :=
  negotiate_ok_iff.mpr (negotiate_ok_iff.mp ⟨as, h⟩).symm

/-- Unless both ends are relays they find the same. -/
lemma mem_keys_negotiate (h : negotiate here there = .ok as) (h' : negotiate there here = .ok bs)
    (hr : ¬ (here.any Application.isRelay ∧ there.any Application.isRelay)) (k : UInt32 × UInt32) :
    k ∈ keys as ↔ k ∈ keys bs := by
  rw [← (negotiate_eq_ok.mp h).2, ← (negotiate_eq_ok.mp h').2, shared, shared]
  by_cases hh : here.any Application.isRelay <;> by_cases ht : there.any Application.isRelay
  · exact absurd ⟨hh, ht⟩ hr
  · rw [if_neg ht, if_pos hh, if_pos hh]
  · rw [if_pos ht, if_neg hh, if_pos ht]
  · rw [if_neg ht, if_neg hh, if_neg hh, if_neg ht, mem_keys_commonApplications,
      mem_keys_commonApplications]
    exact and_comm

end Negotiate

end Diameter
