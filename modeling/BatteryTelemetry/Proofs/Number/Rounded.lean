import BatteryTelemetry.Proofs.Number.Dyadic
import Mathlib.Algebra.Order.Field.Basic
import Mathlib.Data.Rat.Floor

/-!
# Rounding is to the nearest value

The code to which a quotient is rounded has the nearest value of the format, and where two values
are equally near it is the even one of their codes (`isNearestCode_nearest`). The result of a
single-precision operation is rounded in this sense unless it overflows (`IsNearest.isRounded`).
Exact values that are two steps of a grid of the format apart are not rounded to one number
(`nearestKey_lt_of_steps`). Distances are compared as integers, after multiplying by denominators.
-/

namespace BatteryTelemetry

/-- The nearest natural is at most a half away, and at a half it is even. -/
theorem two_mul_natAbs_roundQuotient_sub_le (num : ℕ) {den : ℕ} (hden : 0 < den) :
    2 * (roundQuotient .toEven num den * den - num : ℤ).natAbs ≤ den ∧
      (2 * (roundQuotient .toEven num den * den - num : ℤ).natAbs = den →
        roundQuotient .toEven num den % 2 = 0) := by
  have hsplit : ((num / den : ℕ) * den + (num % den : ℕ) : ℤ) = num := by
    exact_mod_cast Nat.div_add_mod' num den
  have hlt := Nat.mod_lt num hden
  rw [roundQuotient_toEven]
  split_ifs with hup
  · have hdiff : ((num / den + 1 : ℕ) * den - num : ℤ) = den - (num % den : ℕ) := by
      rw [Nat.cast_add, add_mul]
      omega
    rw [hdiff]
    omega
  · have hdiff : ((num / den + 0 : ℕ) * den - num : ℤ) = -(num % den : ℕ) := by
      rw [add_zero]
      omega
    rw [hdiff]
    omega

namespace BinaryFormat

variable (format : BinaryFormat)

/-- How far the value of a code is from `num / den` units, times `den`. -/
def distance (code num den : ℕ) : ℕ := (format.units code * den - num : ℤ).natAbs

/-- The code of a value to which none is nearer; of two that are equally near the even one. -/
structure IsNearestCode (code num den : ℕ) : Prop where
  le (other : ℕ) : format.distance code num den ≤ format.distance other num den
  even {other : ℕ} : other ≠ code →
    format.distance other num den = format.distance code num den → code % 2 = 0

theorem units_mul_lt_units_mul {code other den : ℕ} (hden : 0 < den) (h : code < other) :
    (format.units code * den : ℤ) < format.units other * den := by
  have hunits := format.units_lt_units_iff.mpr h
  exact mul_lt_mul_of_pos_right (Int.ofNat_lt.mpr hunits) (Int.natCast_pos.mpr hden)

/-- Of the two codes around a quotient the one at most half their gap away is the nearest of all,
because the others lie behind these two. -/
theorem isNearestCode_of_neighbours (low : ℕ) {code num den : ℕ} (hden : 0 < den)
    (hlow : (format.units low * den : ℤ) ≤ num) (hhigh : (num : ℤ) < format.units (low + 1) * den)
    (hcode : code = low ∨ code = low + 1)
    (hhalf : 2 * format.distance code num den ≤
      (format.units (low + 1) * den - format.units low * den : ℤ))
    (heven : 2 * format.distance code num den =
      (format.units (low + 1) * den - format.units low * den : ℤ) → code % 2 = 0) :
    format.IsNearestCode code num den := by
  unfold distance at hhalf heven
  have hother (other : ℕ) : format.distance code num den ≤ format.distance other num den ∧
      (other ≠ code → format.distance other num den = format.distance code num den →
        2 * format.distance code num den =
          (format.units (low + 1) * den - format.units low * den : ℤ)) := by
    unfold distance
    rcases lt_trichotomy other low with hlt | rfl | hgt
    · have hbehind := format.units_mul_lt_units_mul hden hlt
      rcases hcode with rfl | rfl <;> omega
    · rcases hcode with rfl | rfl <;> omega
    · have hle : low + 1 ≤ other := hgt
      rcases hle.eq_or_lt with rfl | hlt
      · rcases hcode with rfl | rfl <;> omega
      · have hbehind := format.units_mul_lt_units_mul hden hlt
        rcases hcode with rfl | rfl <;> omega
  exact ⟨fun other ↦ (hother other).1, fun hne htie ↦ heven ((hother _).2 hne htie)⟩

/-- The code is nearest by the way it is found, and even if there are two. -/
theorem isNearestCode_nearest (heven : format.binadeSize % 2 = 0) (num : ℕ) {den : ℕ}
    (hden : 0 < den) : format.IsNearestCode (format.nearest num den) num den := by
  have hfloor := format.shifted_lt num den
  have hlow := format.le_shifted num den
  rw [nearest_eq]
  generalize format.shiftOf (num / den) = shift at hfloor hlow ⊢
  have hscaled : 0 < den <<< shift := by
    rw [Nat.shiftLeft_eq]
    exact Nat.mul_pos hden (Nat.two_pow_pos _)
  have hpick := roundQuotient_eq_or .toEven num (den <<< shift)
  have hhalf := two_mul_natAbs_roundQuotient_sub_le num hscaled
  have hunits (significand : ℕ) (hge : num / (den <<< shift) ≤ significand)
      (hle : significand ≤ num / (den <<< shift) + 1) :
      (format.units (shift * format.binadeSize + significand) * den : ℤ) =
        significand * (den <<< shift : ℕ) := by
    rw [format.units_shift (fun h ↦ (hlow h).trans hge) (by omega), Nat.shiftLeft_eq]
    push_cast
    ring
  have hsplit : ((num / (den <<< shift) : ℕ) * (den <<< shift : ℕ) +
      (num % (den <<< shift) : ℕ) : ℤ) = num := by
    exact_mod_cast Nat.div_add_mod' num _
  have hmod := Nat.mod_lt num hscaled
  have hround := hunits (roundQuotient .toEven num (den <<< shift)) (by omega) (by omega)
  have hbelow := hunits _ le_rfl (Nat.le_add_right _ 1)
  have habove := hunits _ (Nat.le_add_right _ 1) le_rfl
  rw [Nat.cast_add_one, add_one_mul] at habove
  have hbase : shift * format.binadeSize % 2 = 0 := by
    rw [Nat.mul_mod, heven, mul_zero, Nat.zero_mod]
  apply format.isNearestCode_of_neighbours
    (shift * format.binadeSize + num / (den <<< shift)) hden
  · omega
  · rw [Nat.add_assoc]
    omega
  · omega
  · rw [distance, hround, Nat.add_assoc]
    omega
  · rw [distance, hround, Nat.add_assoc]
    omega

end BinaryFormat

namespace Single

variable {x y : Single} {p q : ℚ}

/-- The number to which an exact value is rounded: no finite number is nearer to the value, and
where another one is equally near, it is the one with the even code. -/
structure IsRounded (x : Single) (q : ℚ) : Prop where
  isFinite : x.isFinite
  le {y : Single} : y.isFinite → |x.value - q| ≤ |y.value - q|
  even {y : Single} : y.isFinite → y.value ≠ x.value → |y.value - q| = |x.value - q| →
    x.key % 2 = 0

theorem key_neg (x : Single) : (-x).key = -x.key := by
  cases x with
  | nan => rfl
  | infinite negative | finite negative code =>
    cases negative
    · rfl
    · exact (neg_neg _).symm

theorem neg_ne_nan (h : x ≠ nan) : -x ≠ nan := by
  cases x with
  | nan => exact absurd rfl h
  | infinite | finite => exact Single.noConfusion

theorem IsNearest.neg (h : x.IsNearest q) : (-x).IsNearest (-q) :=
  ⟨neg_ne_nan h.ne_nan, by rw [key_neg, h.key_eq, nearestKey_neg]⟩

theorem value_of_key_nonneg (hx : x.isFinite) (h : 0 ≤ x.key) :
    x.value = BinaryFormat.single.units x.key.natAbs / unitsPerOne := by
  rw [value_eq_of_isFinite hx]
  rcases h.eq_or_lt with hzero | hpos
  · rw [← hzero, Int.natAbs_zero, BinaryFormat.units_zero, Nat.cast_zero, mul_zero]
  · rw [Int.sign_eq_one_of_pos hpos, Int.cast_one, one_mul]

theorem value_neg_of_key_neg (hx : x.isFinite) (h : x.key < 0) : x.value < 0 := by
  have hpos := value_pos (isFinite_neg hx) (by rw [key_neg]; omega)
  rw [value_neg] at hpos
  exact neg_pos.mp hpos

/-- The distance of a value from an exact one is that of its code. -/
theorem abs_units_div_sub (code num : ℕ) {den : ℕ} (hden : 0 < den) :
    |BinaryFormat.single.units code / unitsPerOne - num / den / unitsPerOne| =
      BinaryFormat.single.distance code num den / (den * unitsPerOne) := by
  have hunits := unitsPerOne_pos
  have hden' : (0 : ℚ) < den := Nat.cast_pos.mpr hden
  calc
    _ = |(BinaryFormat.single.units code * den - num) / (den * unitsPerOne)| := by
      congr 1
      field_simp
    _ = |(BinaryFormat.single.units code * den - num : ℚ)| / (den * unitsPerOne) := by
      rw [abs_div, abs_of_pos (mul_pos hden' hunits)]
    _ = _ := by
      rw [BinaryFormat.distance, Nat.cast_natAbs]
      push_cast
      rfl

/-- For quotients that are not negative the code is that of the format. -/
theorem isRounded_div {num den : ℕ} (hden : 0 < den)
    (h : x.IsNearest (num / den / unitsPerOne)) (hx : x.isFinite) :
    x.IsRounded (num / den / unitsPerOne) := by
  have hscale : (0 : ℚ) < den * unitsPerOne := mul_pos (Nat.cast_pos.mpr hden) unitsPerOne_pos
  have hq : (0 : ℚ) ≤ num / den / unitsPerOne :=
    div_nonneg (div_nonneg (Nat.cast_nonneg _) (Nat.cast_nonneg _)) unitsPerOne_pos.le
  have hcode := BinaryFormat.single.isNearestCode_nearest (by decide) num hden
  have hkey : x.key = BinaryFormat.single.nearest num den := by
    have hlt := (abs_lt.mp (abs_key_lt_of_isFinite hx)).2
    have hmin := h.key_eq.trans (nearestKey_div num hden)
    omega
  have hvalue := value_of_key_nonneg hx (hkey ▸ Int.natCast_nonneg _)
  rw [hkey, Int.natAbs_natCast] at hvalue
  have hle (code : ℕ) : |x.value - num / den / unitsPerOne| ≤
      |BinaryFormat.single.units code / unitsPerOne - num / den / unitsPerOne| := by
    rw [hvalue, abs_units_div_sub _ _ hden, abs_units_div_sub _ _ hden]
    exact div_le_div_of_nonneg_right (Nat.cast_le.mpr (hcode.le code)) hscale.le
  -- A negative number lies behind zero, and zero is no nearer than the result.
  have hbehind {y : Single} (hy : y.isFinite) (hneg : y.key < 0) :
      |x.value - num / den / unitsPerOne| < |y.value - num / den / unitsPerOne| := by
    have hzero := hle 0
    have hyneg := value_neg_of_key_neg hy hneg
    rw [BinaryFormat.units_zero, Nat.cast_zero, zero_div, zero_sub, abs_neg, abs_of_nonneg hq]
      at hzero
    rw [abs_of_nonpos (a := y.value - _) (by linarith)]
    linarith
  refine ⟨hx, fun {y} hy ↦ ?_, fun {y} hy hne htie ↦ ?_⟩
  · rcases lt_or_ge y.key 0 with hneg | hpos
    · exact (hbehind hy hneg).le
    · rw [value_of_key_nonneg hy hpos]
      exact hle _
  · rcases lt_or_ge y.key 0 with hneg | hpos
    · exact absurd htie (hbehind hy hneg).ne'
    · have hother := value_of_key_nonneg hy hpos
      have hne' : y.key.natAbs ≠ BinaryFormat.single.nearest num den := by
        intro heq
        rw [heq] at hother
        exact hne (hother.trans hvalue.symm)
      rw [hother, hvalue, abs_units_div_sub _ _ hden, abs_units_div_sub _ _ hden,
        div_left_inj' hscale.ne', Nat.cast_inj] at htie
      have heven := hcode.even hne' htie
      omega

theorem exists_eq_div_unitsPerOne (hq : 0 ≤ q) :
    ∃ num den : ℕ, 0 < den ∧ q = num / den / unitsPerOne := by
  refine ⟨q.num.natAbs * BinaryFormat.single.one, q.den, q.den_pos, ?_⟩
  have hvalue : q = q.num.natAbs / q.den := (abs_of_nonneg hq).symm.trans (abs_eq_div q)
  rw [Nat.cast_mul, mul_div_right_comm, ← hvalue, ← unitsPerOne,
    mul_div_cancel_right₀ _ unitsPerOne_pos.ne']

theorem IsRounded.of_neg (h : (-x).IsRounded (-q)) : x.IsRounded q := by
  have hdistance (z : Single) : |(-z).value - -q| = |z.value - q| := by
    rw [value_neg, neg_sub_neg, abs_sub_comm]
  have hx : x.isFinite := by
    cases x with
    | finite => rfl
    | nan | infinite => exact h.isFinite
  refine ⟨hx, fun {y} hy ↦ ?_, fun {y} hy hne htie ↦ ?_⟩
  · rw [← hdistance x, ← hdistance y]
    exact h.le (isFinite_neg hy)
  · rw [← hdistance x, ← hdistance y] at htie
    have heven := h.even (isFinite_neg hy) (by rwa [value_neg, value_neg, Ne, neg_inj]) htie
    rw [key_neg] at heven
    omega

/-- A result that is not an overflow is the rounded exact one. -/
theorem IsNearest.isRounded (h : x.IsNearest q) (hx : x.isFinite) : x.IsRounded q := by
  rcases le_total 0 q with hq | hq
  · obtain ⟨num, den, hden, rfl⟩ := exists_eq_div_unitsPerOne hq
    exact isRounded_div hden h hx
  · obtain ⟨num, den, hden, hneg⟩ := exists_eq_div_unitsPerOne (neg_nonneg.mpr hq)
    have hnearest := h.neg
    apply IsRounded.of_neg
    rw [hneg] at hnearest ⊢
    exact isRounded_div hden hnearest (isFinite_neg hx)

/-- But for zero an exact value has one number. -/
theorem Denotes.eq_of_ne_zero (hx : x.Denotes q) (hy : y.Denotes q) (hq : q ≠ 0) : x = y := by
  have hne {z : Single} (hz : z.Denotes q) : z ≠ nan ∧ z ≠ finite true zeroCode := by
    constructor
    · rintro rfl
      exact hq hz.value_eq.symm
    · rintro rfl
      rw [← hz.value_eq] at hq
      exact units_ne_zero hq BinaryFormat.single.units_zero
  apply eq_of_key_eq (hne hx).1 (hne hy).1 (hne hx).2 (hne hy).2
  rw [← nearestKey_value hx.isFinite, ← nearestKey_value hy.isFinite, hx.value_eq, hy.value_eq]

theorem Denotes.key_pos (h : x.Denotes q) (hq : 0 < q) : 0 < x.key := by
  have hzero := denotes_literal 0 (by decide)
  apply key_lt_key hzero.isFinite h.isFinite
  rwa [hzero.value_eq, h.value_eq, Nat.cast_zero]

/-- Between exact values two steps of a grid apart lie two points of the grid. If these have less
than 24 bits they are values of the format, and rounding crosses neither. -/
theorem nearestKey_lt_of_steps {k : ℕ} (hk : k ≤ 149) (hlow : -2 ^ 24 < p * 2 ^ k)
    (hhigh : q * 2 ^ k < 2 ^ 24) (hsteps : p * 2 ^ k + 2 ≤ q * 2 ^ k) :
    nearestKey p < nearestKey q := by
  have hpow : (0 : ℚ) < 2 ^ k := pow_pos two_pos k
  have hle := Int.le_ceil (p * 2 ^ k)
  have hlt := Int.ceil_lt_add_one (p * 2 ^ k)
  generalize ⌈p * 2 ^ k⌉ = step at hle hlt
  have hleast : (-2 ^ 24 : ℤ) < step := by
    have : ((-2 ^ 24 : ℤ) : ℚ) < step := by push_cast; linarith
    exact_mod_cast this
  have hgreatest : step + 1 < (2 ^ 24 : ℤ) := by
    have : ((step + 1 : ℤ) : ℚ) < (2 ^ 24 : ℤ) := by push_cast; linarith
    exact_mod_cast this
  obtain ⟨y, hy, hyvalue⟩ := representable_div_two_pow step k (by omega) hk
  obtain ⟨z, hz, hzvalue⟩ := representable_div_two_pow (step + 1) k (by omega) hk
  calc
    nearestKey p ≤ nearestKey y.value := by
      apply nearestKey_mono
      rw [hyvalue, le_div_iff₀ hpow]
      exact hle
    _ = y.key := nearestKey_value hy
    _ < z.key := by
      apply key_lt_key hy hz
      rw [hyvalue, hzvalue, div_lt_div_iff_of_pos_right hpow]
      push_cast
      linarith
    _ = nearestKey z.value := (nearestKey_value hz).symm
    _ ≤ nearestKey q := by
      apply nearestKey_mono
      rw [hzvalue, div_le_iff₀ hpow]
      push_cast
      linarith

end Single

end BatteryTelemetry
