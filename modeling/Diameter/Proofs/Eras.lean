import Mathlib.Data.Int.ModEq
import Mathlib.Tactic.Common
import Diameter.PointInTime

/-!
Which points in time the seconds field tells apart.

The field is the number of whole seconds from the start of 1900, modulo 2^32 (`toNat_toNtp`), and
every value of it stands for one whole second of a window that begins in 1968 and ends in 2104
(`ofNtp_eq`). So a field is always given back, and of all points those of the window. The field can
be worked out in signed words of 64 bits up to 2^62 seconds away from 1970
(`toNtpInWords?_eq`). Main statement: `PointInTime.ntp_exact`.
-/

namespace Diameter

namespace PointInTime

/-- An integer as a signed word of 64 bits, if it fits. -/
def signed? (x : Int) : Option Int64 :=
  if -2 ^ 63 ≤ x ∧ x < 2 ^ 63 then some (Int64.ofInt x) else none

/-- The field worked out in signed words of 64 bits, if everything on the way fits: the whole
seconds between the point and the start of 1970, before 1970 with a minus sign, counted from the
start of 1900. The low half of that is kept. -/
def toNtpInWords? (t : PointInTime) : Option UInt32 := do
  let distance ← signed? (t.nanos.natAbs / 1000000000 : Nat)
  let unix ← signed? (if t.nanos < 0 then -distance.toInt else distance.toInt)
  let ntp ← signed? (unix.toInt + epochOffset)
  return ntp.toUInt64.toUInt32

/-- The first second of the window, in 1968. -/
def firstSecond : Int := -61505152

/-- The last second of the window, in 2104. -/
def lastSecond : Int := 4233462143

variable {t : PointInTime} {n : UInt32} {s : Int}

lemma seconds_eq (t : PointInTime) : t.seconds =
    if t.nanos < 0 then -((t.nanos.natAbs / 1000000000 : Nat) : Int)
    else ((t.nanos.natAbs / 1000000000 : Nat) : Int) := by
  have hs : Int.sign 1000000000 = 1 := rfl
  rw [seconds, nanosPerSecond, Int.tdiv_eq_ediv, hs]
  split <;> split <;> omega

lemma seconds_ofSeconds (s : Int) : (ofSeconds s).seconds = s := by
  rw [seconds, ofSeconds]
  exact Int.mul_tdiv_cancel s (by decide)

lemma toNat_ofInt (x : Int) : ((UInt32.ofInt x).toNat : Int) = x % 2 ^ 32 := by
  rw [UInt32.ofInt, UInt32.toNat_ofNat']
  omega

/-- The field is what is left of the seconds since 1900 modulo 2^32. -/
lemma toNat_toNtp (t : PointInTime) :
    (t.toNtp.toNat : Int) = (t.seconds + epochOffset) % 2 ^ 32 := toNat_ofInt _

/-- Read back, a field is the one second of the window that it stands for. -/
lemma ofNtp_eq (n : UInt32) : ∃ s, ofNtp n = ofSeconds s ∧ firstSecond ≤ s ∧ s ≤ lastSecond ∧
    (n.toNat : Int) = (s + epochOffset) % 2 ^ 32 := by
  have hn := n.toNat_lt
  refine ⟨_, rfl, ?_⟩
  simp only [UInt32.size, epochOffset, firstSecond, lastSecond]
  split <;> omega

lemma toNtp_ofNtp (n : UInt32) : (ofNtp n).toNtp = n := by
  obtain ⟨s, hs, -, -, hn⟩ := ofNtp_eq n
  apply UInt32.toNat_inj.mp
  have h := toNat_toNtp (ofNtp n)
  rw [hs, seconds_ofSeconds, ← hn] at h
  rw [hs]
  exact_mod_cast h

lemma ofNtp_toNtp_ofSeconds (hl : firstSecond ≤ s) (hu : s ≤ lastSecond) :
    ofNtp (ofSeconds s).toNtp = ofSeconds s := by
  obtain ⟨r, hr, hrl, hru, hn⟩ := ofNtp_eq (ofSeconds s).toNtp
  rw [toNat_toNtp, seconds_ofSeconds] at hn
  have he : r = s := by
    simp only [epochOffset, firstSecond, lastSecond] at *
    omega
  rw [hr, he]

/-! ### Words of 64 bits -/

lemma signed?_of_fits {x : Int} (hl : -2 ^ 63 ≤ x) (hu : x < 2 ^ 63) :
    signed? x = some (Int64.ofInt x) ∧ (Int64.ofInt x).toInt = x :=
  ⟨if_pos ⟨hl, hu⟩, Int64.toInt_ofInt_of_le hl hu⟩

lemma toUInt32_ofInt (x : Int) : (Int64.ofInt x).toUInt64.toUInt32 = UInt32.ofInt x := by
  have hw : (Int64.ofInt x).toUInt64.toNat = (x % 2 ^ 64).toNat := by
    show (Int64.ofInt x).toBitVec.toNat = _
    rw [Int64.toBitVec_ofInt, BitVec.toNat_ofInt]
    rfl
  have hr := toNat_ofInt x
  apply UInt32.toNat_inj.mp
  rw [UInt64.toNat_toUInt32, hw]
  omega

/-- Up to 2^62 seconds from 1970 no step leaves the words. -/
lemma toNtpInWords?_eq (h : t.nanos.natAbs < 2 ^ 62 * 1000000000) :
    t.toNtpInWords? = some t.toNtp := by
  have hd : t.nanos.natAbs / 1000000000 < 2 ^ 62 := by omega
  have hs := seconds_eq t
  obtain ⟨h₁, e₁⟩ := signed?_of_fits (x := (t.nanos.natAbs / 1000000000 : Nat)) (by omega)
    (by omega)
  obtain ⟨h₂, e₂⟩ := signed?_of_fits (x := t.seconds) (by split at hs <;> omega)
    (by split at hs <;> omega)
  obtain ⟨h₃, -⟩ := signed?_of_fits (x := t.seconds + epochOffset)
    (by simp only [epochOffset]; split at hs <;> omega)
    (by simp only [epochOffset]; split at hs <;> omega)
  rw [toNtpInWords?, h₁]
  simp only [bind, Option.bind, e₁]
  rw [← hs, h₂]
  simp only [e₂, h₃, toUInt32_ofInt]
  rfl

/-- **The seconds field is exact in its window and wraps outside.** A field that is read as a point
in time is written again as it was. A point is given back by its field exactly if it is a whole
second of the window. Every point has for its field the seconds from 1900, truncated toward 1970,
modulo 2^32, and up to 2^62 seconds from 1970 words of 64 bits do to work it out. -/
theorem ntp_exact :
    (∀ n, (ofNtp n).toNtp = n) ∧
    (∀ t, ofNtp t.toNtp = t ↔ ∃ s : Int, t = ofSeconds s ∧ -61505152 ≤ s ∧ s ≤ 4233462143) ∧
    (∀ t : PointInTime,
      (t.toNtp.toNat : Int) ≡ 2208988800 + t.nanos.tdiv 1000000000 [ZMOD 2 ^ 32]) ∧
    ∀ t : PointInTime, t.nanos.natAbs < 2 ^ 62 * 1000000000 → t.toNtpInWords? = some t.toNtp := by
  refine ⟨toNtp_ofNtp, fun t => ⟨fun h => ?_, ?_⟩, fun t => ?_, fun t => toNtpInWords?_eq⟩
  · obtain ⟨s, hs, hl, hu, -⟩ := ofNtp_eq t.toNtp
    exact ⟨s, h.symm.trans hs, hl, hu⟩
  · rintro ⟨s, rfl, hl, hu⟩
    exact ofNtp_toNtp_ofSeconds hl hu
  · rw [toNat_toNtp, add_comm]
    exact Int.mod_modEq _ _

/-- A nanosecond before 1970 is written as the first second of 1970, and the first second after the
window as the first of it. -/
theorem ntp_exact_outside :
    let before : PointInTime := ⟨-1⟩
    let after := ofSeconds 4233462144
    before.toNtpInWords? = some 2208988800 ∧ ofNtp before.toNtp ≠ before ∧
      after.toNtpInWords? = some 2147483648 ∧ ofNtp after.toNtp = ofSeconds (-61505152) := by
  intro before after
  obtain ⟨-, hw, -, hf⟩ := ntp_exact
  refine ⟨(hf before (by decide)).trans (by decide), ?_, (hf after (by decide)).trans (by decide),
    by decide⟩
  rw [Ne, hw]
  rintro ⟨s, hs, -⟩
  have hn : (-1 : Int) = s * 1000000000 := congrArg nanos hs
  omega

end PointInTime

end Diameter
