import BatteryTelemetry.Proofs.Number.Dyadic
import Mathlib.Data.Int.Cast.Lemmas

/-!
# Signs through rounding

A rounded product or quotient has the sign of the exact one unless it is rounded to zero. A number
is therefore described by an integer that has its sign and by two bounds of its magnitude
(`Signed`). Negatives, products and quotients of such numbers are such numbers again if the new
bounds are values of the format. The magnitude says nothing where the integer is zero.
-/

namespace BatteryTelemetry.Single

variable {x y : Single} {m n : ℤ} {magnitude low high : ℚ}

def IsZero (x : Single) : Prop := x ≤ 0 ∧ 0 ≤ x

instance (x : Single) : Decidable x.IsZero := inferInstanceAs (Decidable (_ ∧ _))

/-- Two numbers are both positive, both negative or both zero. -/
def SameSign (x y : Single) : Prop :=
  0 < x ∧ 0 < y ∨ x < 0 ∧ y < 0 ∨ x.IsZero ∧ y.IsZero

/-- A finite number with the sign of an integer and, unless that is zero, a magnitude between two
bounds. -/
structure Signed (n : ℤ) (low high : ℚ) (x : Single) : Prop where
  isFinite : x.isFinite
  exists_value : ∃ magnitude, low ≤ magnitude ∧ magnitude ≤ high ∧ x.value = n.sign * magnitude

/-- An integer is its sign times a magnitude of at least one. -/
theorem exists_eq_sign_mul (n : ℤ) (bound : ℕ) (hn : n.natAbs ≤ bound) (hbound : 1 ≤ bound) :
    ∃ magnitude : ℚ, 1 ≤ magnitude ∧ magnitude ≤ bound ∧ (n : ℚ) = n.sign * magnitude := by
  rcases eq_or_ne n 0 with rfl | hne
  · exact ⟨1, le_rfl, Nat.one_le_cast.mpr hbound, by simp⟩
  · refine ⟨n.natAbs, ?_, Nat.cast_le.mpr hn, ?_⟩
    · exact Nat.one_le_cast.mpr (Int.natAbs_pos.mpr hne)
    · rw [Nat.cast_natAbs, ← Int.cast_mul, Int.sign_mul_abs]

/-- Bounds that numbers of the format have themselves are kept by rounding. -/
theorem IsNearest.signed (h : x.IsNearest (n.sign * magnitude)) (hlow : Representable low)
    (hhigh : Representable high) (hle : low ≤ magnitude) (hge : magnitude ≤ high) :
    x.Signed n low high := by
  rcases lt_trichotomy n 0 with hn | rfl | hn
  · rw [Int.sign_eq_neg_one_of_neg hn, Int.cast_neg, Int.cast_one, neg_one_mul] at h
    have hwithin := h.within hhigh.neg hlow.neg (neg_le_neg hge) (neg_le_neg hle)
    refine ⟨hwithin.isFinite, -x.value, le_neg.mp hwithin.le_high, neg_le.mp hwithin.low_le, ?_⟩
    rw [Int.sign_eq_neg_one_of_neg hn]
    simp
  · rw [Int.sign_zero, Int.cast_zero, zero_mul] at h
    have hzero := h.denotes (representable_intCast 0 (by decide))
    exact ⟨hzero.isFinite, magnitude, hle, hge, by simp [hzero.value_eq]⟩
  · rw [Int.sign_eq_one_of_pos hn, Int.cast_one, one_mul] at h
    have hwithin := h.within hlow hhigh hle hge
    refine ⟨hwithin.isFinite, x.value, hwithin.low_le, hwithin.le_high, ?_⟩
    rw [Int.sign_eq_one_of_pos hn, Int.cast_one, one_mul]

theorem Signed.neg (h : x.Signed n low high) : (-x).Signed (-n) low high := by
  obtain ⟨hx, magnitude, hle, hge, hvalue⟩ := h
  refine ⟨isFinite_neg hx, magnitude, hle, hge, ?_⟩
  rw [value_neg, hvalue, Int.sign_neg, Int.cast_neg, neg_mul]

/-- The sign of a product is that of the product of two integers. -/
theorem Signed.mul {a b c d : ℚ} (hx : x.Signed m a b) (hy : y.Signed n c d) (ha : 0 ≤ a)
    (hc : 0 ≤ c) (hlow : Representable low) (hhigh : Representable high) (hle : low ≤ a * c)
    (hge : b * d ≤ high) : (x * y).Signed (m * n) low high := by
  obtain ⟨hxfin, p, hap, hpb, hxvalue⟩ := hx
  obtain ⟨hyfin, q, hcq, hqd, hyvalue⟩ := hy
  have hproduct := (denotes_value hxfin).mul (denotes_value hyfin)
  have hvalue : x.value * y.value = (m * n).sign * (p * q) := by
    rw [hxvalue, hyvalue, Int.sign_mul]
    push_cast
    ring
  rw [hvalue] at hproduct
  apply hproduct.signed hlow hhigh
  · exact hle.trans (mul_le_mul hap hcq hc (ha.trans hap))
  · exact (mul_le_mul hpb hqd (hc.trans hcq) ((ha.trans hap).trans hpb)).trans hge

/-- Dividing by a positive number keeps the sign. -/
theorem Signed.div {a b d : ℚ} (hx : x.Signed n a b) (hy : y.Denotes d) (hd : 0 < d)
    (hlow : Representable low) (hhigh : Representable high) (hle : low * d ≤ a)
    (hge : b ≤ high * d) : (x / y).Signed n low high := by
  obtain ⟨hxfin, p, hap, hpb, hvalue⟩ := hx
  have hquotient := (denotes_value hxfin).div hy hd.ne'
  rw [hvalue, mul_div_assoc] at hquotient
  apply hquotient.signed hlow hhigh
  · rw [le_div_iff₀ hd]
    exact hle.trans hap
  · rw [div_le_iff₀ hd]
    exact hpb.trans hge

theorem value_zero : (0 : Single).value = 0 := by
  rw [(denotes_literal 0 (by decide)).value_eq, Nat.cast_zero]

namespace Signed

theorem zero_lt_iff (h : x.Signed n low high) (hlow : 0 < low) : 0 < x ↔ 0 < n := by
  obtain ⟨hx, magnitude, hle, -, hvalue⟩ := h
  rw [lt_iff_value_lt rfl hx, value_zero, hvalue, mul_pos_iff_of_pos_right (hlow.trans_le hle),
    Int.cast_pos, Int.sign_pos_iff]

theorem lt_zero_iff (h : x.Signed n low high) (hlow : 0 < low) : x < 0 ↔ n < 0 := by
  obtain ⟨hx, magnitude, hle, -, hvalue⟩ := h
  rw [lt_iff_value_lt hx rfl, value_zero, hvalue,
    Rat.mul_neg_iff_of_pos_right (hlow.trans_le hle), Int.cast_lt_zero, Int.sign_neg_iff]

/-- A lower bound above zero keeps every other number from being rounded to zero. -/
theorem isZero_iff (h : x.Signed n low high) (hlow : 0 < low) : x.IsZero ↔ n = 0 := by
  have hx : x ≠ nan := by
    rintro rfl
    exact Bool.false_ne_true h.isFinite
  have hzero : (0 : Single) ≠ nan := ofNat_ne_nan 0
  rw [IsZero, ← not_lt_iff hzero hx, ← not_lt_iff hx hzero, h.zero_lt_iff hlow,
    h.lt_zero_iff hlow]
  omega

/-- Integers of one sign stand for numbers of one sign. -/
theorem sameSign {a b c d : ℚ} (hx : x.Signed m a b) (hy : y.Signed n c d) (ha : 0 < a)
    (hc : 0 < c) (h : m.sign = n.sign) : x.SameSign y := by
  rw [SameSign, hx.zero_lt_iff ha, hy.zero_lt_iff hc, hx.lt_zero_iff ha, hy.lt_zero_iff hc,
    hx.isZero_iff ha, hy.isZero_iff hc]
  rcases lt_trichotomy n 0 with hn | rfl | hn
  · rw [Int.sign_eq_neg_one_of_neg hn, Int.sign_eq_neg_one_iff_neg] at h
    exact .inr (.inl ⟨h, hn⟩)
  · rw [Int.sign_zero, Int.sign_eq_zero_iff_zero] at h
    exact .inr (.inr ⟨h, rfl⟩)
  · rw [Int.sign_eq_one_of_pos hn, Int.sign_eq_one_iff_pos] at h
    exact .inl ⟨h, hn⟩

end Signed

end BatteryTelemetry.Single
