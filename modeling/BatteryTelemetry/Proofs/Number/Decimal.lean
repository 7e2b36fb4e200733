import BatteryTelemetry.Number.Shortest
import BatteryTelemetry.Proofs.Number.Rounded
import Mathlib.Algebra.Order.Field.Power
import Mathlib.Data.Nat.Cast.Order.Field

/-!
# Shortest decimals read back

A decimal that is close to a value of a format reads back as the value: neighbouring values are at
least one part in twice the number of significands apart (`units_le_mul_abs_sub`), so an error of
one part in twice ten to the sixteenth is less than half a gap (`read_eq_of_close`). On the grid of
seventeen digits the nearer neighbour of a value is that close. The search for the fewest digits
therefore ends, and what it finds reads back (`read_shortest`). Reading depends on the value of a
decimal alone, so trailing zeros do not matter.
-/

namespace BatteryTelemetry

namespace BinaryFormat

variable (format : BinaryFormat) {code other num den : ℕ}

/-- A code by the significand and the binade of its value. -/
theorem exists_significand (code : ℕ) : ∃ shift significand,
    code = shift * format.binadeSize + significand ∧
      (0 < shift → format.binadeSize ≤ significand) ∧ significand < 2 * format.binadeSize := by
  have hpos := format.binadeSize_pos
  rcases lt_or_ge code format.binadeSize with hlt | hge
  · exact ⟨0, code, by simp, by simp, by omega⟩
  · have hsplit := Nat.div_add_mod' (code - format.binadeSize) format.binadeSize
    have hmod := Nat.mod_lt (code - format.binadeSize) hpos
    exact ⟨(code - format.binadeSize) / format.binadeSize,
      (code - format.binadeSize) % format.binadeSize + format.binadeSize, by omega, by omega,
      by omega⟩

/-- The gap behind a value is a power of two, and both its ends are within the significands of this
spacing. -/
theorem exists_units_succ_eq (code : ℕ) : ∃ shift,
    format.units (code + 1) = format.units code + 2 ^ shift ∧
      format.units (code + 1) ≤ 2 * format.binadeSize * 2 ^ shift := by
  obtain ⟨shift, significand, rfl, hlow, hhigh⟩ := format.exists_significand code
  have hunits := format.units_shift hlow hhigh.le
  have hlowNext (hshift : 0 < shift) : format.binadeSize ≤ significand + 1 :=
    (hlow hshift).trans (Nat.le_succ _)
  have hnext := format.units_shift hlowNext hhigh
  rw [← Nat.add_assoc] at hnext
  refine ⟨shift, ?_, ?_⟩
  · rw [hnext, hunits, Nat.succ_mul]
  · rw [hnext]
    exact Nat.mul_le_mul_right _ hhigh

/-- Other values are not much nearer to a value than its own spacing. -/
theorem units_le_mul_abs_sub (h : other ≠ code) :
    (format.units code : ℤ) ≤
      2 * format.binadeSize * |(format.units other : ℤ) - format.units code| := by
  have hmono {low high : ℕ} (hle : low ≤ high) :
      (format.units low : ℤ) ≤ format.units high := by
    rcases hle.eq_or_lt with rfl | hlt
    · exact le_rfl
    · exact_mod_cast (format.units_lt_units_iff.mpr hlt).le
  have hscale {shift : ℕ} {gap : ℤ} (hgap : (2 ^ shift : ℤ) ≤ gap) :
      (2 * format.binadeSize * 2 ^ shift : ℤ) ≤ 2 * format.binadeSize * gap :=
    mul_le_mul_of_nonneg_left hgap (by positivity)
  rcases lt_or_gt_of_ne h with hlt | hgt
  · obtain ⟨low, rfl⟩ : ∃ low, code = low + 1 := ⟨code - 1, by omega⟩
    obtain ⟨shift, hsucc, hbound⟩ := format.exists_units_succ_eq low
    have hother := hmono (Nat.lt_succ_iff.mp hlt)
    have hstep : (format.units (low + 1) : ℤ) = format.units low + 2 ^ shift := by
      exact_mod_cast hsucc
    have hgap : (2 ^ shift : ℤ) ≤ |(format.units other : ℤ) - format.units (low + 1)| := by
      rw [abs_sub_comm]
      exact le_trans (by omega) (le_abs_self _)
    exact le_trans (by exact_mod_cast hbound) (hscale hgap)
  · obtain ⟨shift, hsucc, hbound⟩ := format.exists_units_succ_eq code
    have hother := hmono (show code + 1 ≤ other from hgt)
    have hstep : (format.units (code + 1) : ℤ) = format.units code + 2 ^ shift := by
      exact_mod_cast hsucc
    have hgap : (2 ^ shift : ℤ) ≤ |(format.units other : ℤ) - format.units code| :=
      le_trans (by omega) (le_abs_self _)
    exact (hmono (Nat.le_add_right code 1)).trans (le_trans (by exact_mod_cast hbound) (hscale hgap))

/-- A format whose values seventeen decimal digits tell apart. -/
structure IsDecimal : Prop where
  even : format.binadeSize % 2 = 0
  lt : 2 * format.binadeSize < 10 ^ 16

theorem isDecimal_single : single.IsDecimal := ⟨by decide, by decide⟩

theorem isDecimal_double : double.IsDecimal := ⟨by decide, by decide⟩

variable {format}

/-- No other value is as near to a quotient that is this close to a value. -/
theorem IsDecimal.nearest_eq_of_distance (h : format.IsDecimal) (hden : 0 < den)
    (hpos : 0 < format.units code)
    (hclose : 2 * 10 ^ 16 * format.distance code num den ≤ format.units code * den) :
    format.nearest num den = code := by
  by_contra hne
  have hnearest := (format.isNearestCode_nearest h.even num hden).le code
  have hspacing := format.units_le_mul_abs_sub hne
  have htriangle : |(format.units (format.nearest num den) : ℤ) - format.units code| * den ≤
      2 * format.distance code num den := by
    have hden' : (0 : ℤ) ≤ den := Int.natCast_nonneg den
    rw [← abs_of_nonneg hden', ← abs_mul, sub_mul, Int.abs_eq_natAbs]
    unfold distance at hnearest ⊢
    omega
  have hcode : (format.units code * den : ℤ) ≤
      2 * format.binadeSize * (2 * format.distance code num den) := by
    calc
      (format.units code * den : ℤ) ≤ 2 * format.binadeSize *
          |(format.units (format.nearest num den) : ℤ) - format.units code| * den :=
        mul_le_mul_of_nonneg_right hspacing (Int.natCast_nonneg den)
      _ ≤ 2 * format.binadeSize * (2 * format.distance code num den) := by
        rw [mul_assoc]
        exact mul_le_mul_of_nonneg_left htriangle (by positivity)
  have hcode' : format.units code * den ≤
      2 * format.binadeSize * (2 * format.distance code num den) := by exact_mod_cast hcode
  have hbase : 2 * format.binadeSize * (2 * format.distance code num den) ≤
      (10 ^ 16 - 1) * (2 * format.distance code num den) :=
    Nat.mul_le_mul_right _ (Nat.le_sub_one_of_lt h.lt)
  have hproduct := Nat.mul_pos hpos hden
  omega

end BinaryFormat

namespace Decimal

variable {format : BinaryFormat} {decimal other : Decimal} {code num den : ℕ} {exponent : ℤ}

def value (decimal : Decimal) : ℚ := decimal.digits * 10 ^ decimal.exponent

theorem ratio_pos (decimal : Decimal) : 0 < decimal.ratio.2 := by
  unfold ratio
  split_ifs
  · exact Nat.one_pos
  · exact Nat.pow_pos (by decide)

theorem zpow_eq_pow_toNat (h : 0 ≤ exponent) : (10 : ℚ) ^ exponent = 10 ^ exponent.toNat := by
  rw [← zpow_natCast, Int.toNat_of_nonneg h]

theorem zpow_eq_inv_pow_toNat (h : exponent < 0) :
    (10 : ℚ) ^ exponent = (10 ^ (-exponent).toNat)⁻¹ := by
  rw [← zpow_natCast, Int.toNat_of_nonneg (by omega), ← zpow_neg, neg_neg]

/-- The quotient by which a decimal is rounded is its value. -/
theorem value_eq_ratio (decimal : Decimal) : decimal.value = decimal.ratio.1 / decimal.ratio.2 := by
  unfold value ratio
  split_ifs with h
  · rw [zpow_eq_pow_toNat h]
    simp
  · rw [zpow_eq_inv_pow_toNat (not_le.mp h), ← div_eq_mul_inv]
    simp

/-- Reading depends on the value of a decimal alone. -/
theorem read_congr (h : decimal.value = other.value) :
    decimal.read format = other.read format := by
  rw [value_eq_ratio, value_eq_ratio, div_eq_div_iff (Nat.cast_ne_zero.mpr decimal.ratio_pos.ne')
    (Nat.cast_ne_zero.mpr other.ratio_pos.ne')] at h
  have hcross : decimal.ratio.1 * other.ratio.2 = other.ratio.1 * decimal.ratio.2 := by
    exact_mod_cast h
  apply format.nearest_congr decimal.ratio_pos other.ratio_pos
  rw [mul_right_comm, hcross, mul_right_comm]

theorem value_strip (fuel : ℕ) (decimal : Decimal) : (strip fuel decimal).value = decimal.value := by
  induction fuel generalizing decimal with
  | zero => rfl
  | succ fuel ih =>
    rw [strip]
    split_ifs with h
    · have hdigits : (decimal.digits : ℚ) = 10 * (decimal.digits / 10 : ℕ) := by
        exact_mod_cast (Nat.mul_div_cancel' (Nat.dvd_of_mod_eq_zero h.2)).symm
      rw [ih, value, value, hdigits, zpow_add_one₀ (by norm_num)]
      ring
    · rfl

theorem read_of_digits_eq_zero (h : decimal.digits = 0) : decimal.read format = 0 := by
  have hratio : decimal.ratio.1 = 0 := by
    unfold ratio
    split_ifs <;> simp [h]
  have hunits := format.nearest_units 0
  rw [BinaryFormat.units_zero] at hunits
  rw [read, hratio, zero_mul]
  exact (format.nearest_congr decimal.ratio_pos Nat.one_pos (by simp)).trans hunits

/-- A decimal this close to a value reads back as the value. -/
theorem read_eq_of_close (hformat : format.IsDecimal) (hpos : 0 < format.units code)
    (hclose : 2 * 10 ^ 16 * |decimal.value * format.one - format.units code| ≤
      format.units code) : decimal.read format = code := by
  have hden : (0 : ℚ) < decimal.ratio.2 := Nat.cast_pos.mpr decimal.ratio_pos
  have hdistance : (format.distance code (decimal.ratio.1 * format.one) decimal.ratio.2 : ℚ) =
      |decimal.value * format.one - format.units code| * decimal.ratio.2 := by
    rw [BinaryFormat.distance, Nat.cast_natAbs, value_eq_ratio, ← abs_of_pos hden, ← abs_mul,
      abs_of_pos hden, abs_sub_comm]
    push_cast
    congr 1
    field_simp
  apply hformat.nearest_eq_of_distance decimal.ratio_pos hpos
  have hscaled := mul_le_mul_of_nonneg_right hclose hden.le
  rw [mul_assoc, ← hdistance] at hscaled
  exact_mod_cast hscaled

theorem lt_pow_length (n : ℕ) : n < 10 ^ length n :=
  (Nat.length_toDigits_le_iff (by decide) Nat.length_toDigits_pos).mp le_rfl

/-- The length counts digits, so the power of ten below it is not too large. -/
theorem pow_length_le {n : ℕ} (h : 0 < n) : 10 ^ (length n - 1) ≤ n := by
  have hlength : 0 < length n := Nat.length_toDigits_pos
  rcases Nat.eq_zero_or_pos (length n - 1) with hone | hmore
  · rw [hone, pow_zero]
    exact h
  · by_contra hlt
    have hle := (Nat.length_toDigits_le_iff (by decide) hmore).mpr (not_le.mp hlt)
    change length n ≤ length n - 1 at hle
    omega

/-- The power of ten is at or below the quotient. -/
theorem zpow_magnitude_le (hnum : 0 < num) (hden : 0 < den) :
    (10 : ℚ) ^ magnitude num den ≤ num / den := by
  have hden' : (0 : ℚ) < den := Nat.cast_pos.mpr hden
  unfold magnitude
  split_ifs with h
  · have hlength : 0 < length (num / den) := Nat.length_toDigits_pos
    have hpow : 10 ^ (length (num / den) - 1) * den ≤ num := by
      rw [← Nat.le_div_iff_mul_le hden]
      exact pow_length_le (Nat.div_pos h hden)
    rw [zpow_eq_pow_toNat (by omega), le_div_iff₀ hden']
    have hnat : ((length (num / den) : ℤ) - 1).toNat = length (num / den) - 1 := by omega
    rw [hnat]
    exact_mod_cast hpow
  · have hlt := lt_pow_length ((den - 1) / num)
    rw [Nat.div_lt_iff_lt_mul hnum] at hlt
    have hpow : den ≤ num * 10 ^ length ((den - 1) / num) := by
      rw [Nat.mul_comm]
      omega
    rw [zpow_neg, zpow_natCast, inv_le_comm₀ (by positivity)
      (div_pos (Nat.cast_pos.mpr hnum) hden'), inv_div, div_le_iff₀' (Nat.cast_pos.mpr hnum)]
    exact_mod_cast hpow

/-- A quotient is between its whole part and the next natural. -/
theorem cast_div_bounds (num : ℕ) (hden : 0 < den) :
    ((num / den : ℕ) : ℚ) ≤ num / den ∧ (num / den : ℚ) < (num / den : ℕ) + 1 := by
  refine ⟨Nat.cast_div_le, ?_⟩
  rw [div_lt_iff₀ (Nat.cast_pos.mpr hden), mul_comm]
  exact_mod_cast Nat.lt_mul_div_succ num hden

/-- A quotient lies between two neighbours on a grid. -/
theorem floorOn_bounds (num : ℕ) (hden : 0 < den) (exponent : ℤ) :
    (floorOn num den exponent : ℚ) * 10 ^ exponent ≤ num / den ∧
      (num / den : ℚ) < (floorOn num den exponent + 1) * 10 ^ exponent := by
  have hstep : (0 : ℚ) < 10 ^ exponent := zpow_pos (by norm_num) exponent
  rw [← le_div_iff₀ hstep, ← div_lt_iff₀ hstep]
  unfold floorOn
  split_ifs with h
  · have hbounds := cast_div_bounds num (Nat.mul_pos hden (Nat.pow_pos (n := exponent.toNat)
      (show 0 < 10 by decide)))
    rw [zpow_eq_pow_toNat h, div_div]
    push_cast at hbounds
    exact hbounds
  · have hbounds := cast_div_bounds (num * 10 ^ (-exponent).toNat) hden
    rw [zpow_eq_inv_pow_toNat (not_le.mp h), div_inv_eq_mul, div_mul_eq_mul_div]
    push_cast at hbounds
    exact hbounds

/-- On the grid of seventeen digits a neighbour of a value reads back. -/
theorem isSome_shortestOn (hformat : format.IsDecimal) (tie : Tie) (hpos : 0 < format.units code) :
    (shortestOn format tie code (magnitude (format.units code) format.one - 16)).isSome := by
  have hone : 0 < format.one := by
    rw [BinaryFormat.one, Nat.one_shiftLeft]
    exact Nat.two_pow_pos _
  have hone' : (0 : ℚ) < format.one := Nat.cast_pos.mpr hone
  generalize hgrid : magnitude (format.units code) format.one - 16 = exponent
  have hstep : 10 ^ 16 * (10 : ℚ) ^ exponent * format.one ≤ format.units code := by
    have hmagnitude := zpow_magnitude_le hpos hone
    rwa [show magnitude (format.units code) format.one = 16 + exponent by omega,
      zpow_add₀ (by norm_num), le_div_iff₀ hone'] at hmagnitude
  obtain ⟨hlow, hhigh⟩ := floorOn_bounds (format.units code) hone exponent
  rw [le_div_iff₀ hone'] at hlow
  rw [div_lt_iff₀ hone'] at hhigh
  have hneighbour : (⟨floorOn (format.units code) format.one exponent, exponent⟩ : Decimal).read
        format = code ∨
      (⟨floorOn (format.units code) format.one exponent + 1, exponent⟩ : Decimal).read
        format = code := by
    rcases le_or_gt (2 * ((format.units code : ℚ) - floorOn (format.units code) format.one exponent *
        10 ^ exponent * format.one)) (10 ^ exponent * format.one) with hnear | hfar
    · refine .inl (read_eq_of_close hformat hpos ?_)
      rw [value, abs_sub_comm, abs_of_nonneg (sub_nonneg.mpr hlow)]
      linarith
    · refine .inr (read_eq_of_close hformat hpos ?_)
      rw [value, Nat.cast_add_one, abs_of_nonneg (sub_nonneg.mpr hhigh.le)]
      linarith
  unfold shortestOn
  rcases hneighbour with h | h <;> simp only [h, decide_true] <;> split <;> simp_all

/-- The shortest decimal of a value reads back as the value. -/
theorem read_shortest (hformat : format.IsDecimal) (tie : Tie) (hpos : 0 < format.units code) :
    (shortest format tie code).read format = code := by
  unfold shortest
  dsimp only
  cases hfound : (List.range 17).findSome? fun count : ℕ ↦ shortestOn format tie code
      (magnitude (format.units code) format.one - count) with
  | none =>
    have hlast := List.findSome?_eq_none_iff.mp hfound 16 (by simp)
    have hsome := isSome_shortestOn hformat tie hpos
    rw [Nat.cast_ofNat] at hlast
    rw [hlast] at hsome
    cases hsome
  | some decimal =>
    obtain ⟨count, -, hcount⟩ := List.exists_of_findSome?_eq_some hfound
    exact shortestOn_reads_back hcount

end Decimal

end BatteryTelemetry
