/-!
Octet strings, the big-endian words written in them, and UTF-8 text.

A word of `n` octets is written by `Octets.ofNat n` and read back by `Octets.toNat`.
-/

namespace Diameter

abbrev Octets := List UInt8

namespace Octets

/-- The `n` low octets of `v`, most significant first. -/
def ofNat : Nat → Nat → Octets
  | 0, _ => []
  | n + 1, v => UInt8.ofNat (v >>> (8 * n)) :: ofNat n v

/-- The number that octets spell, most significant first. -/
def toNat (b : Octets) : Nat := b.foldl (fun v x => 256 * v + x.toNat) 0

@[simp] theorem length_ofNat (n v : Nat) : (ofNat n v).length = n := by
  induction n with
  | zero => rfl
  | succ n ih => simp [ofNat, ih]

/-- A 32-bit word. -/
def ofWord (w : UInt32) : Octets := ofNat 4 w.toNat

/-- A 64-bit word. -/
def ofLongWord (w : UInt64) : Octets := ofNat 8 w.toNat

def toWord (b : Octets) : UInt32 := UInt32.ofNat (toNat b)

def toLongWord (b : Octets) : UInt64 := UInt64.ofNat (toNat b)

@[simp] theorem length_ofWord (w : UInt32) : (ofWord w).length = 4 := length_ofNat 4 _

@[simp] theorem length_ofLongWord (w : UInt64) : (ofLongWord w).length = 8 := length_ofNat 8 _

/-- The UTF-8 encoding of a text. -/
def ofText (s : String) : Octets := s.toUTF8.data.toList

/-- The text that octets encode, if they are UTF-8. -/
def text? (b : Octets) : Option String := String.fromUTF8? ⟨b.toArray⟩

theorem text?_ofText (s : String) : text? (ofText s) = some s := by
  have h : (⟨(ofText s).toArray⟩ : ByteArray) = s.toUTF8 := rfl
  have hv : s.toUTF8.IsValidUTF8 := s.isValidUTF8
  simp only [text?, h, String.fromUTF8?, hv, dite_true]
  rfl

/-- The first `n` octets and the rest, if there are that many. -/
def split? (n : Nat) (b : Octets) : Option (Octets × Octets) :=
  let p := b.take n
  if p.length = n then some (p, b.drop n) else none

theorem split?_eq_some {n : Nat} {b p r : Octets} :
    split? n b = some (p, r) ↔ p.length = n ∧ b = p ++ r := by
  unfold split?
  dsimp only
  constructor
  · intro h
    split at h
    · rename_i hl
      simp only [Option.some.injEq, Prod.mk.injEq] at h
      obtain ⟨rfl, rfl⟩ := h
      exact ⟨hl, (List.take_append_drop n b).symm⟩
    · exact absurd h (by simp)
  · rintro ⟨rfl, rfl⟩
    simp

theorem split?_eq_none {n : Nat} {b : Octets} : split? n b = none ↔ b.length < n := by
  simp only [split?, List.length_take]
  split <;> simp <;> omega

/-- Lengths on the wire are rounded up to a multiple of four. -/
def padded (n : Nat) : Nat := (n + 3) / 4 * 4

theorem le_padded (n : Nat) : n ≤ padded n := by unfold padded; omega

theorem padded_mod_four (n : Nat) : padded n % 4 = 0 := by unfold padded; omega

end Octets

end Diameter
