import BatteryTelemetry.Number.Single
import BatteryTelemetry.Proofs.Number.Nearest
import Mathlib.Algebra.Order.Field.Rat
import Mathlib.Data.Rat.Lemmas
import Mathlib.Tactic.FieldSimp
import Mathlib.Tactic.Ring

/-!
# Single-precision arithmetic as rounded exact arithmetic

A finite number has an exact value, and the key of a sum, a product or a quotient is the key
nearest to the exact result (`key_add`, `key_mul`, `key_div`). `nearestKey` is monotone, and it
takes the value of a number back to the number's own key. An overflow has the key of an infinity,
so the statements hold for every pair of finite numbers.
-/

namespace BatteryTelemetry.Single

/-- How many least positive values make up one, as a rational number. -/
def unitsPerOne : ℚ := BinaryFormat.single.one

theorem one_pos : 0 < BinaryFormat.single.one := by
  rw [BinaryFormat.one, Nat.one_shiftLeft]
  exact Nat.two_pow_pos _

theorem unitsPerOne_pos : 0 < unitsPerOne := Nat.cast_pos.mpr one_pos

/-- The exact value of a finite number; zero stands for the others. -/
def value : Single → ℚ
  | finite negative code => signedUnits negative code / unitsPerOne
  | _ => 0

def nearestKey (x : ℚ) : ℤ :=
  let magnitude : ℤ := min (BinaryFormat.single.nearest
    (x.num.natAbs * BinaryFormat.single.one) x.den) BinaryFormat.single.finiteCount
  if x < 0 then -magnitude else magnitude

theorem abs_eq_div (x : ℚ) : |x| = (x.num.natAbs : ℚ) / x.den := by
  rw [Rat.abs_def, Rat.divInt_eq_div]
  simp

/-- The nearest key of a quotient of naturals, however it is written. -/
theorem nearestKey_div (num : ℕ) {den : ℕ} (hden : 0 < den) :
    nearestKey (num / den / unitsPerOne) =
      min (BinaryFormat.single.nearest num den : ℤ) BinaryFormat.single.finiteCount := by
  have hden' : (0 : ℚ) < den := Nat.cast_pos.mpr hden
  have hnonneg : (0 : ℚ) ≤ num / den / unitsPerOne :=
    div_nonneg (div_nonneg (Nat.cast_nonneg _) hden'.le) unitsPerOne_pos.le
  generalize hx : (num / den / unitsPerOne : ℚ) = x at hnonneg ⊢
  have hxden : (0 : ℚ) < x.den := Nat.cast_pos.mpr x.den_pos
  have habs := abs_eq_div x
  rw [abs_of_nonneg hnonneg] at habs
  have hratio := hx.trans habs
  rw [div_div, div_eq_div_iff (mul_pos hden' unitsPerOne_pos).ne' hxden.ne', unitsPerOne]
    at hratio
  have hcross : x.num.natAbs * BinaryFormat.single.one * den = num * x.den := by
    have hcast : ((x.num.natAbs * BinaryFormat.single.one * den : ℕ) : ℚ) =
        (num * x.den : ℕ) := by
      rw [Nat.cast_mul, Nat.cast_mul, Nat.cast_mul, hratio]
      ring
    exact Nat.cast_injective hcast
  rw [nearestKey, if_neg (not_lt.mpr hnonneg),
    BinaryFormat.single.nearest_congr x.den_pos hden hcross]

theorem nearest_zero {den : ℕ} (hden : 0 < den) : BinaryFormat.single.nearest 0 den = 0 := by
  have hunits := BinaryFormat.single.nearest_units 0
  rw [BinaryFormat.units_zero] at hunits
  exact (BinaryFormat.single.nearest_congr hden Nat.one_pos (by simp)).trans hunits

@[simp]
theorem nearestKey_zero : nearestKey 0 = 0 := by
  simp [nearestKey, nearest_zero]

/-- Rounding goes the same way on both sides of zero. -/
theorem nearestKey_neg (x : ℚ) : nearestKey (-x) = -nearestKey x := by
  rcases lt_trichotomy x 0 with h | rfl | h
  · simp [nearestKey, h, h.le]
  · simp
  · simp [nearestKey, h, h.le]

theorem nearestKey_nonneg {x : ℚ} (h : 0 ≤ x) : 0 ≤ nearestKey x := by
  rw [nearestKey, if_neg (not_lt.mpr h)]
  exact le_min (Int.natCast_nonneg _) (Int.natCast_nonneg _)

theorem nearestKey_mono_of_nonneg {x y : ℚ} (hx : 0 ≤ x) (h : x ≤ y) :
    nearestKey x ≤ nearestKey y := by
  have hcross : x.num.natAbs * BinaryFormat.single.one * y.den ≤
      y.num.natAbs * BinaryFormat.single.one * x.den := by
    have habs := abs_eq_div x
    have habs' := abs_eq_div y
    rw [abs_of_nonneg hx] at habs
    rw [abs_of_nonneg (hx.trans h)] at habs'
    rw [habs, habs', div_le_div_iff₀ (Nat.cast_pos.mpr x.den_pos)
      (Nat.cast_pos.mpr y.den_pos)] at h
    have hnat : x.num.natAbs * y.den ≤ y.num.natAbs * x.den := by exact_mod_cast h
    calc
      _ = x.num.natAbs * y.den * BinaryFormat.single.one := by ring
      _ ≤ y.num.natAbs * x.den * BinaryFormat.single.one := Nat.mul_le_mul_right _ hnat
      _ = _ := by ring
  rw [nearestKey, nearestKey, if_neg (not_lt.mpr hx), if_neg (not_lt.mpr (hx.trans h))]
  have hnearest := BinaryFormat.single.nearest_mono x.den_pos y.den_pos hcross
  exact min_le_min_right _ (Int.ofNat_le.mpr hnearest)

/-- Rounding keeps the order of exact values. -/
theorem nearestKey_mono {x y : ℚ} (h : x ≤ y) : nearestKey x ≤ nearestKey y := by
  rcases le_or_gt 0 x with hx | hx
  · exact nearestKey_mono_of_nonneg hx h
  · rcases le_or_gt 0 y with hy | hy
    · have hneg := nearestKey_nonneg (neg_nonneg.mpr hx.le)
      rw [nearestKey_neg] at hneg
      have hnonneg := nearestKey_nonneg hy
      omega
    · have hneg := nearestKey_mono_of_nonneg (neg_nonneg.mpr hy.le) (neg_le_neg h)
      rw [nearestKey_neg, nearestKey_neg] at hneg
      omega

theorem round_of_lt {negative : Bool} {num den : ℕ}
    (h : BinaryFormat.single.nearest num den < BinaryFormat.single.finiteCount) :
    round negative num den = finite negative ⟨_, h⟩ := dif_pos h

theorem round_of_le {negative : Bool} {num den : ℕ}
    (h : BinaryFormat.single.finiteCount ≤ BinaryFormat.single.nearest num den) :
    round negative num den = infinite negative := dif_neg (not_lt.mpr h)

/-- The key of a rounded quotient depends on its value only. -/
theorem key_round (negative : Bool) (num : ℕ) {den : ℕ} (hden : 0 < den) :
    (round negative num den).key =
      nearestKey ((if negative then -1 else 1) * (num / den / unitsPerOne)) := by
  have hkey : (round negative num den).key = if negative then
      -min (BinaryFormat.single.nearest num den : ℤ) BinaryFormat.single.finiteCount else
      min (BinaryFormat.single.nearest num den : ℤ) BinaryFormat.single.finiteCount := by
    rcases lt_or_ge (BinaryFormat.single.nearest num den) BinaryFormat.single.finiteCount
      with h | h
    · rw [round_of_lt h, key, min_eq_left (Int.ofNat_le.mpr h.le)]
    · rw [round_of_le h, key, min_eq_right (Int.ofNat_le.mpr h)]
  rw [hkey, ← nearestKey_div _ hden]
  cases negative <;> simp [nearestKey_neg]

/-- No quotient of naturals is rounded to NaN. -/
theorem round_ne_nan (negative : Bool) (num den : ℕ) : round negative num den ≠ nan := by
  rcases lt_or_ge (BinaryFormat.single.nearest num den) BinaryFormat.single.finiteCount with h | h
  · simp [round_of_lt h]
  · simp [round_of_le h]

theorem ofNat_ne_nan (n : ℕ) : ofNat n ≠ nan := round_ne_nan _ _ _

theorem key_ofNat (n : ℕ) : (ofNat n).key = nearestKey n := by
  rw [ofNat, ofRatio, key_round _ _ Nat.one_pos, Nat.cast_mul, ← unitsPerOne]
  congr 1
  simp [unitsPerOne_pos.ne']

theorem isFinite_iff {x : Single} : x.isFinite ↔ ∃ negative code, x = finite negative code := by
  cases x <;> simp [isFinite]

theorem value_finite (negative : Bool) (code : Fin BinaryFormat.single.finiteCount) :
    (finite negative code).value =
      (if negative then -1 else 1) * BinaryFormat.single.units code / unitsPerOne := by
  cases negative <;> simp [value, signedUnits]

/-- A finite number is the one nearest to its own value. -/
theorem nearestKey_value {x : Single} (h : x.isFinite) : nearestKey x.value = x.key := by
  obtain ⟨negative, code, rfl⟩ := isFinite_iff.mp h
  have hround := nearestKey_div (BinaryFormat.single.units code) Nat.one_pos
  rw [BinaryFormat.nearest_units, Nat.cast_one, div_one,
    min_eq_left (Int.ofNat_le.mpr code.isLt.le)] at hround
  rw [value_finite, mul_div_assoc]
  cases negative
  · rw [if_neg Bool.false_ne_true, one_mul, hround]
    rfl
  · rw [if_pos rfl, neg_one_mul, nearestKey_neg, hround]
    rfl

/-- The rounded sum of two finite numbers is the number nearest to the exact sum. -/
theorem key_add {x y : Single} (hx : x.isFinite) (hy : y.isFinite) :
    (x + y).key = nearestKey (x.value + y.value) := by
  obtain ⟨s, a, rfl⟩ := isFinite_iff.mp hx
  obtain ⟨t, b, rfl⟩ := isFinite_iff.mp hy
  change (Single.add _ _).key = _
  rw [value, value, ← add_div, ← Int.cast_add]
  simp only [Single.add]
  generalize signedUnits s a + signedUnits t b = sum
  rcases lt_trichotomy sum 0 with h | rfl | h
  · rw [if_neg h.ne, key_round _ _ Nat.one_pos, decide_eq_true h, if_pos rfl, Nat.cast_natAbs,
      abs_of_neg h]
    simp [neg_div]
  · simp [key, zeroCode]
  · rw [if_neg h.ne', key_round _ _ Nat.one_pos, decide_eq_false (not_lt.mpr h.le),
      if_neg Bool.false_ne_true, Nat.cast_natAbs, abs_of_pos h]
    simp

theorem sign_xor (s t : Bool) :
    (if s ^^ t then (-1 : ℚ) else 1) = (if s then -1 else 1) * (if t then -1 else 1) := by
  cases s <;> cases t <;> norm_num

theorem key_mul {x y : Single} (hx : x.isFinite) (hy : y.isFinite) :
    (x * y).key = nearestKey (x.value * y.value) := by
  obtain ⟨s, a, rfl⟩ := isFinite_iff.mp hx
  obtain ⟨t, b, rfl⟩ := isFinite_iff.mp hy
  have hunits := unitsPerOne_pos.ne'
  change (Single.mul _ _).key = _
  rw [Single.mul, key_round _ _ one_pos, Nat.cast_mul, ← unitsPerOne, value_finite, value_finite,
    sign_xor]
  congr 1
  field_simp

theorem units_ne_zero {negative : Bool} {code : Fin BinaryFormat.single.finiteCount}
    (h : (finite negative code).value ≠ 0) : BinaryFormat.single.units code ≠ 0 := by
  intro hzero
  rw [value_finite, hzero] at h
  simp at h

theorem sign_xor_eq_div (s t : Bool) :
    (if s ^^ t then (-1 : ℚ) else 1) = (if s then -1 else 1) / (if t then -1 else 1) := by
  cases s <;> cases t <;> norm_num

theorem key_div {x y : Single} (hx : x.isFinite) (hy : y.isFinite) (hne : y.value ≠ 0) :
    (x / y).key = nearestKey (x.value / y.value) := by
  obtain ⟨s, a, rfl⟩ := isFinite_iff.mp hx
  obtain ⟨t, b, rfl⟩ := isFinite_iff.mp hy
  have hunits := unitsPerOne_pos.ne'
  have hb := units_ne_zero hne
  have hb' : (BinaryFormat.single.units b : ℚ) ≠ 0 := Nat.cast_ne_zero.mpr hb
  have hcode : b ≠ zeroCode := by
    rintro rfl
    exact hb BinaryFormat.single.units_zero
  change (Single.div _ _).key = _
  rw [Single.div, if_neg hcode, key_round _ _ (Nat.pos_of_ne_zero hb), Nat.cast_mul,
    ← unitsPerOne, value_finite, value_finite, sign_xor_eq_div]
  congr 1
  field_simp

end BatteryTelemetry.Single
