import Mathlib.Data.List.Nodup
import Diameter.Exchange

/-!
The table of pending requests: what entering and erasing an identifier do to it.
-/

namespace Diameter

namespace Pending

variable {p : Pending} {k l : UInt32} {x y : Exchange}

def keys (p : Pending) : List UInt32 := p.entries.map Exchange.key

def waiters (p : Pending) : List Nat := p.entries.map (·.waiter)

@[simp] lemma find?_empty : find? {} k = none := rfl

lemma key_of_find? (h : p.find? k = some x) : x.key = k := by
  simpa using List.find?_some h

lemma mem_of_find? (h : p.find? k = some x) : x ∈ p.entries := List.mem_of_find?_eq_some h

lemma find?_eq_none : p.find? k = none ↔ k ∉ p.keys := by
  simp [find?, keys]

@[simp] lemma find?_erase_self : (p.erase k).find? k = none := by
  simp [find?, erase]

lemma find?_erase (h : k ≠ l) : (p.erase l).find? k = p.find? k := by
  rw [find?, find?, erase, List.find?_filter]
  congr 1
  funext x
  by_cases hx : x.key = k
  · simp [hx, h]
  · simp [hx]

lemma erase_of_find? (h : p.find? k = none) : p.erase k = p := by
  rw [erase, List.filter_eq_self.mpr]
  intro x hx
  have hk : x.key ≠ k := by
    rintro rfl
    exact find?_eq_none.mp h (List.mem_map_of_mem hx)
  simpa using hk

lemma find?_insert (h : k ≠ x.key) : (p.insert x).2.find? k = p.find? k := by
  have hx : [x].find? (·.key == k) = none := by simpa using h.symm
  rw [insert, find?, List.find?_append, hx, Option.or_none]
  exact find?_erase h

lemma find?_insert_self (h : (p.insert x).2.find? x.key = some y) : y = x := by
  have he : (p.erase x.key).entries.find? (·.key == x.key) = none := find?_erase_self
  rw [insert, find?, List.find?_append, he] at h
  simpa using h.symm

lemma perm_erase (hn : p.keys.Nodup) (hx : p.find? k = some x) :
    p.entries.Perm (x :: (p.erase k).entries) := by
  have hm := mem_of_find? hx
  have hd : p.entries.Nodup := List.Nodup.of_map _ hn
  have he : p.entries.erase x = (p.erase k).entries := by
    rw [hd.erase_eq_filter]
    refine List.filter_congr fun y hy => ?_
    have hi : y = x ↔ y.key = k := by
      rw [← key_of_find? hx]
      exact ⟨congrArg _, List.inj_on_of_nodup_map hn hy hm⟩
    rw [Bool.eq_iff_iff, bne_iff_ne, bne_iff_ne]
    exact not_congr hi
  rw [← he]
  exact List.perm_cons_erase hm

lemma nodup_keys_erase (h : p.keys.Nodup) (k : UInt32) : (p.erase k).keys.Nodup :=
  h.sublist (List.filter_sublist.map _)

lemma nodup_keys_insert (h : p.keys.Nodup) (x : Exchange) : (p.insert x).2.keys.Nodup := by
  have hx : x.key ∉ (p.erase x.key).keys := find?_eq_none.mp find?_erase_self
  rw [keys, insert, List.map_append, List.nodup_append]
  refine ⟨nodup_keys_erase h x.key, List.nodup_singleton _, ?_⟩
  intro l hl m hm
  obtain rfl : m = x.key := by simpa using hm
  rintro rfl
  exact hx hl

end Pending

end Diameter
