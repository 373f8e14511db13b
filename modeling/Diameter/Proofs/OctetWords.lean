import Mathlib.Algebra.Group.Nat.Defs
import Diameter.Octets

/-!
Words of octets: what is written is read back.

`Octets.toNat_ofNat` and `Octets.ofNat_toNat` say that writing and reading a number are inverse on
words of one width, `Octets.toWord_ofWord` and `Octets.ofWord_toWord` that they are on 32-bit words.
-/

namespace Diameter

namespace Octets

lemma ofNat_succ (n v : Nat) : ofNat (n + 1) v = UInt8.ofNat (v / 256 ^ n) :: ofNat n v := by
  rw [ofNat, Nat.shiftRight_eq_div_pow, Nat.pow_mul]

theorem foldl_eq (b : Octets) (v : Nat) :
    b.foldl (fun v x => 256 * v + x.toNat) v = v * 256 ^ b.length + toNat b := by
  induction b generalizing v with
  | nil => simp [toNat]
  | cons x b ih =>
    simp only [List.foldl_cons, List.length_cons, toNat]
    rw [ih, ih (256 * 0 + x.toNat)]
    simp only [Nat.mul_zero, Nat.zero_add, Nat.pow_succ, Nat.add_mul]
    rw [Nat.mul_comm (256 ^ b.length) 256, ← Nat.mul_assoc, Nat.mul_comm v 256, Nat.add_assoc]

@[simp] theorem toNat_nil : toNat [] = 0 := rfl

theorem toNat_cons (x : UInt8) (b : Octets) :
    toNat (x :: b) = x.toNat * 256 ^ b.length + toNat b := by
  simp [toNat, foldl_eq b x.toNat]

/-- Reading a written word gives it back modulo the width. -/
theorem toNat_ofNat (n v : Nat) : toNat (ofNat n v) = v % 256 ^ n := by
  induction n with
  | zero => simp [ofNat, Nat.mod_one]
  | succ n ih =>
    rw [ofNat_succ, toNat_cons, ih, length_ofNat, UInt8.toNat_ofNat', Nat.pow_succ 256 n,
      Nat.mod_mul, Nat.mul_comm, Nat.add_comm]

theorem toNat_lt (b : Octets) : toNat b < 256 ^ b.length := by
  induction b with
  | nil => simp
  | cons x b ih =>
    have hx := x.toNat_lt
    rw [toNat_cons, List.length_cons, Nat.pow_succ]
    have : x.toNat * 256 ^ b.length ≤ 255 * 256 ^ b.length := Nat.mul_le_mul_right _ (by omega)
    omega

/-- Octets are the writing of the number they spell. -/
theorem ofNat_toNat (b : Octets) : ofNat b.length (toNat b) = b := by
  suffices h : ∀ (b : Octets) (k : Nat), ofNat b.length (k * 256 ^ b.length + toNat b) = b by
    simpa using h b 0
  intro b
  induction b with
  | nil => intro k; rfl
  | cons x b ih =>
    intro k
    have hb := toNat_lt b
    have hx := x.toNat_lt
    have e : k * 256 ^ (x :: b).length + toNat (x :: b) =
        (k * 256 + x.toNat) * 256 ^ b.length + toNat b := by
      rw [toNat_cons, List.length_cons, Nat.pow_succ, Nat.add_mul]
      rw [Nat.mul_assoc, Nat.mul_comm 256 (256 ^ b.length), ← Nat.add_assoc]
    rw [e, List.length_cons, ofNat_succ, ih]
    congr 1
    rw [Nat.add_comm, Nat.add_mul_div_right _ _ (Nat.pow_pos (by omega)), Nat.div_eq_of_lt hb,
      Nat.zero_add]
    apply UInt8.toNat_inj.mp
    rw [UInt8.toNat_ofNat']
    omega

@[simp] theorem toWord_ofWord (w : UInt32) : toWord (ofWord w) = w := by
  apply UInt32.toNat_inj.mp
  rw [toWord, ofWord, toNat_ofNat, UInt32.toNat_ofNat']
  have := w.toNat_lt
  omega

lemma toNat_toWord {b : Octets} (h : b.length ≤ 4) : (toWord b).toNat = toNat b := by
  have hb : toNat b < 256 ^ 4 :=
    Nat.lt_of_lt_of_le (toNat_lt b) (Nat.pow_le_pow_right (by omega) h)
  rw [toWord, UInt32.toNat_ofNat']
  exact Nat.mod_eq_of_lt hb

lemma ofWord_toWord {b : Octets} (h : b.length = 4) : ofWord (toWord b) = b := by
  rw [ofWord, toNat_toWord (Nat.le_of_eq h), ← h, ofNat_toNat]

@[simp] theorem toLongWord_ofLongWord (w : UInt64) : toLongWord (ofLongWord w) = w := by
  apply UInt64.toNat_inj.mp
  rw [toLongWord, ofLongWord, toNat_ofNat, UInt64.toNat_ofNat']
  have := w.toNat_lt
  omega

lemma ofLongWord_toLongWord {b : Octets} (h : b.length = 8) : ofLongWord (toLongWord b) = b := by
  have hb : toNat b < 2 ^ 64 := by
    have hlt := toNat_lt b
    rwa [h, ← Nat.pow_mul 2 8 8] at hlt
  rw [ofLongWord, toLongWord, UInt64.toNat_ofNat', Nat.mod_eq_of_lt hb, ← h, ofNat_toNat]

end Octets

end Diameter
