import BatteryTelemetry.Proofs.Number.Order
import Mathlib.Tactic.Linarith
import Mathlib.Tactic.NormNum

/-!
# Exact results and bounds in single precision

A whole number of less than 24 bits over a power of two is a value of the format
(`representable_div_two_pow`). An operation on finite numbers gives the number nearest to the
exact result; it is exact if the result is such a value (`IsNearest.denotes`), and it stays
between two such values if the exact result lies between them (`IsNearest.within`). The bounds of
a rounded computation are thus carried from step to step in exact arithmetic.
-/

namespace BatteryTelemetry

namespace BinaryFormat

variable (format : BinaryFormat)

/-- A code in terms of the significand and the binade of its value. -/
theorem units_shift {shift significand : ℕ} (hlow : 0 < shift → format.binadeSize ≤ significand)
    (hhigh : significand ≤ 2 * format.binadeSize) :
    format.units (shift * format.binadeSize + significand) = significand * 2 ^ shift := by
  have hpos := format.binadeSize_pos
  rcases lt_or_ge significand format.binadeSize with hlt | hge
  · obtain rfl : shift = 0 := by omega
    rw [zero_mul, zero_add, units_of_lt hlt, pow_zero, mul_one]
  · obtain ⟨fraction, rfl⟩ := Nat.exists_eq_add_of_le hge
    have hcode : shift * format.binadeSize + (format.binadeSize + fraction) =
        fraction + format.binadeSize * (shift + 1) := by ring
    rcases lt_or_ge fraction format.binadeSize with hfraction | hfraction
    · have hdiv : (fraction + format.binadeSize * (shift + 1)) / format.binadeSize = shift + 1 := by
        rw [Nat.add_mul_div_left _ _ hpos, Nat.div_eq_of_lt hfraction, zero_add]
      rw [hcode, units_of_div_eq hdiv, Nat.add_mul_mod_self_left, Nat.mod_eq_of_lt hfraction,
        Nat.shiftLeft_eq]
    · obtain rfl : fraction = format.binadeSize := by omega
      have hdiv : (format.binadeSize + format.binadeSize * (shift + 1)) / format.binadeSize =
          shift + 1 + 1 := by
        rw [Nat.add_mul_div_left _ _ hpos, Nat.div_self hpos, Nat.add_comm]
      rw [hcode, units_of_div_eq hdiv, Nat.add_mul_mod_self_left, Nat.mod_self, Nat.shiftLeft_eq,
        pow_succ]
      ring

/-- A significand with at most one bit before its fraction is a value in every binade. -/
theorem exists_units_eq (significand shift : ℕ) (h : significand < 2 * format.binadeSize) :
    ∃ code, format.units code = significand <<< shift := by
  induction shift generalizing significand with
  | zero =>
    have hunits := format.units_shift (fun hpos ↦ absurd hpos (lt_irrefl 0)) h.le
    exact ⟨_, hunits.trans (Nat.shiftLeft_eq significand 0).symm⟩
  | succ shift ih =>
    rcases lt_or_ge significand format.binadeSize with hlt | hge
    · obtain ⟨code, hcode⟩ := ih (2 * significand) (by omega)
      refine ⟨code, hcode.trans ?_⟩
      rw [Nat.shiftLeft_eq, Nat.shiftLeft_eq, pow_succ]
      ring
    · have hunits := format.units_shift (fun _ : 0 < shift + 1 ↦ hge) h.le
      exact ⟨_, hunits.trans (Nat.shiftLeft_eq significand (shift + 1)).symm⟩

end BinaryFormat

namespace Single

/-- A finite number with a given value. -/
structure Denotes (x : Single) (q : ℚ) : Prop where
  isFinite : x.isFinite
  value_eq : x.value = q

/-- Some finite number has this value. -/
def Representable (q : ℚ) : Prop := ∃ x : Single, x.Denotes q

theorem representable_units {code : ℕ} (negative : Bool)
    (h : BinaryFormat.single.units code < 2 ^ 173) :
    Representable
      ((if negative then -1 else 1) * BinaryFormat.single.units code / unitsPerOne) := by
  have hcode : code < BinaryFormat.single.finiteCount := by
    rw [← BinaryFormat.single.units_lt_units_iff]
    exact h.trans_le (by decide +kernel)
  exact ⟨finite negative ⟨code, hcode⟩, rfl, value_finite negative ⟨code, hcode⟩⟩

theorem sign_mul_natAbs (n : ℤ) :
    (if decide (n < 0) then -1 else 1) * (n.natAbs : ℚ) = n := by
  rw [Nat.cast_natAbs]
  rcases lt_or_ge n 0 with h | h
  · rw [decide_eq_true h, if_pos rfl, abs_of_neg h, Int.cast_neg, neg_one_mul, neg_neg]
  · rw [decide_eq_false (not_lt.mpr h), if_neg Bool.false_ne_true, abs_of_nonneg h, one_mul]

/-- Whole numbers of less than 24 bits over a power of two are values of the format. -/
theorem representable_div_two_pow (n : ℤ) (k : ℕ) (hn : n.natAbs < 2 ^ 24) (hk : k ≤ 149) :
    Representable (n / 2 ^ k) := by
  obtain ⟨code, hcode⟩ := BinaryFormat.single.exists_units_eq n.natAbs (149 - k) hn
  have hbound : BinaryFormat.single.units code < 2 ^ 173 := by
    rw [hcode, Nat.shiftLeft_eq]
    calc
      n.natAbs * 2 ^ (149 - k) < 2 ^ 24 * 2 ^ (149 - k) :=
        Nat.mul_lt_mul_of_pos_right hn (Nat.two_pow_pos _)
      _ = 2 ^ (24 + (149 - k)) := (pow_add 2 24 (149 - k)).symm
      _ ≤ 2 ^ 173 := Nat.pow_le_pow_right (by omega) (by omega)
  have hunits : unitsPerOne = 2 ^ (149 - k) * 2 ^ k := by
    rw [← pow_add, Nat.sub_add_cancel hk, unitsPerOne, BinaryFormat.one, Nat.one_shiftLeft]
    norm_num [BinaryFormat.single]
  have hvalue : (n / 2 ^ k : ℚ) = (if decide (n < 0) then -1 else 1) *
      BinaryFormat.single.units code / unitsPerOne := by
    have hpow : (2 ^ (149 - k) : ℚ) ≠ 0 := pow_ne_zero _ two_ne_zero
    calc
      (n / 2 ^ k : ℚ) = 2 ^ (149 - k) * n / (2 ^ (149 - k) * 2 ^ k) :=
        (mul_div_mul_left _ _ hpow).symm
      _ = 2 ^ (149 - k) * ((if decide (n < 0) then -1 else 1) * n.natAbs) / unitsPerOne := by
        rw [sign_mul_natAbs, hunits]
      _ = _ := by
        rw [hcode, Nat.shiftLeft_eq]
        push_cast
        ring
  rw [hvalue]
  exact representable_units _ hbound

/-- Significands of 24 bits are exact as far down as the least positive value. -/
theorem representable_of_mul_two_pow {q : ℚ} {n : ℤ} (k : ℕ) (h : q * 2 ^ k = n)
    (hn : n.natAbs < 2 ^ 24) (hk : k ≤ 149) : Representable q := by
  have hpow : (2 ^ k : ℚ) ≠ 0 := pow_ne_zero _ two_ne_zero
  rw [eq_div_of_mul_eq hpow h]
  exact representable_div_two_pow n k hn hk

/-- Integers of 24 bits are exact. -/
theorem representable_intCast (n : ℤ) (hn : n.natAbs < 2 ^ 24) : Representable n :=
  representable_of_mul_two_pow 0 (by simp) hn (by omega)

theorem representable_ofNat (n : ℕ) [n.AtLeastTwo] (hn : n < 2 ^ 24) :
    Representable (OfNat.ofNat n) := by
  exact_mod_cast representable_intCast n hn

theorem denotes_value {x : Single} (h : x.isFinite) : x.Denotes x.value := ⟨h, rfl⟩

theorem value_neg (x : Single) : (-x).value = -x.value := by
  cases x with
  | nan | infinite => exact neg_zero.symm
  | finite negative code =>
    change (finite (!negative) code).value = _
    rw [value_finite, value_finite]
    cases negative <;> simp [neg_div]

theorem Denotes.neg {x : Single} {q : ℚ} (h : x.Denotes q) : (-x).Denotes (-q) :=
  ⟨isFinite_neg h.isFinite, by rw [value_neg, h.value_eq]⟩

theorem Representable.neg {q : ℚ} (h : Representable q) : Representable (-q) := by
  obtain ⟨x, hx⟩ := h
  exact ⟨-x, hx.neg⟩

/-- A number is the one nearest to an exact value. -/
structure IsNearest (x : Single) (q : ℚ) : Prop where
  ne_nan : x ≠ nan
  key_eq : x.key = nearestKey q

/-- A value of the format is kept. -/
theorem IsNearest.denotes {x : Single} {q : ℚ} (h : x.IsNearest q) (hq : Representable q) :
    x.Denotes q := by
  obtain ⟨y, hy, hvalue⟩ := hq
  have hkey : x.key = y.key := by rw [h.key_eq, ← hvalue, nearestKey_value hy]
  have habs := abs_key_lt_of_isFinite hy
  rw [← hkey] at habs
  have hx : x.isFinite := by
    cases x with
    | nan => exact absurd rfl h.ne_nan
    | infinite negative =>
      have heq : |(infinite negative).key| = BinaryFormat.single.finiteCount := by
        cases negative <;> decide
      exact absurd habs heq.not_lt
    | finite negative code => rfl
  refine ⟨hx, ?_⟩
  rw [← hvalue, value_eq_of_isFinite hx, value_eq_of_isFinite hy, hkey]

/-- A finite number between two bounds. -/
structure Within (low high : ℚ) (x : Single) : Prop where
  isFinite : x.isFinite
  low_le : low ≤ x.value
  le_high : x.value ≤ high

/-- An exact number is between any bounds of its value. -/
theorem Denotes.within {x : Single} {q low high : ℚ} (h : x.Denotes q) (hlow : low ≤ q)
    (hhigh : q ≤ high) : x.Within low high :=
  ⟨h.isFinite, hlow.trans_eq h.value_eq.symm, h.value_eq.trans_le hhigh⟩

/-- Rounding does not cross a value of the format. -/
theorem IsNearest.within {x : Single} {q low high : ℚ} (h : x.IsNearest q)
    (hlow : Representable low) (hhigh : Representable high) (hle : low ≤ q) (hge : q ≤ high) :
    x.Within low high := by
  obtain ⟨y, hy, rfl⟩ := hlow
  obtain ⟨z, hz, rfl⟩ := hhigh
  have hyx : y.key ≤ x.key := by
    rw [h.key_eq, ← nearestKey_value hy]
    exact nearestKey_mono hle
  have hxz : x.key ≤ z.key := by
    rw [h.key_eq, ← nearestKey_value hz]
    exact nearestKey_mono hge
  have hx : x.isFinite := by
    have hlow := (abs_lt.mp (abs_key_lt_of_isFinite hy)).1
    have hhigh := (abs_lt.mp (abs_key_lt_of_isFinite hz)).2
    cases x with
    | nan => exact absurd rfl h.ne_nan
    | infinite negative =>
      cases negative
      · exact absurd (hxz.trans_lt hhigh) (lt_irrefl _)
      · exact absurd (hlow.trans_le hyx) (lt_irrefl _)
    | finite negative code => rfl
  exact ⟨hx, value_le_value hy hx hyx, value_le_value hx hz hxz⟩

theorem Within.neg {x : Single} {low high : ℚ} (h : x.Within low high) :
    (-x).Within (-high) (-low) := by
  refine ⟨isFinite_neg h.isFinite, ?_, ?_⟩ <;> rw [value_neg]
  · exact neg_le_neg h.le_high
  · exact neg_le_neg h.low_le

/-! ## Operations -/

/-- Rounding a quotient of units gives the nearest number. -/
theorem isNearest_round (negative : Bool) (num : ℕ) {den : ℕ} (hden : 0 < den) :
    (round negative num den).IsNearest
      ((if negative then -1 else 1) * (num / den / unitsPerOne)) :=
  ⟨round_ne_nan _ _ _, key_round negative num hden⟩

theorem isNearest_ofRatio (num : ℕ) {den : ℕ} (hden : 0 < den) :
    (ofRatio num den).IsNearest (num / den) := by
  have hunits := unitsPerOne_pos.ne'
  have hround := isNearest_round false (num * BinaryFormat.single.one) hden
  rw [Nat.cast_mul, ← unitsPerOne, if_neg Bool.false_ne_true, one_mul] at hround
  have hvalue : (num * unitsPerOne / den / unitsPerOne : ℚ) = num / den := by field_simp
  rwa [hvalue] at hround

/-- A quotient by a power of two only shifts the point. -/
theorem denotes_ofRatio_two_pow (num k : ℕ) (hnum : num < 2 ^ 24) (hk : k ≤ 149) :
    (ofRatio num (2 ^ k)).Denotes (num / 2 ^ k) := by
  have hnearest := isNearest_ofRatio num (Nat.two_pow_pos k)
  rw [Nat.cast_pow, Nat.cast_ofNat] at hnearest
  exact hnearest.denotes (representable_div_two_pow num k hnum hk)

theorem isNearest_ofInt (n : ℤ) : (ofInt n).IsNearest n := by
  have hunits := unitsPerOne_pos.ne'
  have hround := isNearest_round (decide (n < 0)) (n.natAbs * BinaryFormat.single.one) Nat.one_pos
  have hvalue : (if decide (n < 0) then (-1 : ℚ) else 1) *
      (((n.natAbs * BinaryFormat.single.one : ℕ) : ℚ) / (1 : ℕ) / unitsPerOne) = n := by
    rw [Nat.cast_mul, ← unitsPerOne, Nat.cast_one, div_one, mul_div_cancel_right₀ _ hunits,
      sign_mul_natAbs]
  rwa [hvalue] at hround

theorem denotes_ofInt {n : ℤ} (hn : n.natAbs < 2 ^ 24) : (ofInt n).Denotes n :=
  (isNearest_ofInt n).denotes (representable_intCast n hn)

theorem denotes_ofNat {n : ℕ} (hn : n < 2 ^ 24) : (ofNat n).Denotes n := by
  have hnearest : (ofNat n).IsNearest n := ⟨ofNat_ne_nan n, key_ofNat n⟩
  exact hnearest.denotes (representable_intCast n hn)

/-- A number of less than 24 bits that stands in a formula. -/
theorem denotes_literal (n : ℕ) (hn : n < 2 ^ 24) : (OfNat.ofNat n : Single).Denotes n :=
  denotes_ofNat hn

variable {x y : Single} {p q : ℚ}

/-- A sum is rounded once. -/
theorem Denotes.add (hx : x.Denotes p) (hy : y.Denotes q) : (x + y).IsNearest (p + q) := by
  refine ⟨add_ne_nan ?_ hy.isFinite, ?_⟩
  · rintro rfl
    exact absurd hx.isFinite Bool.false_ne_true
  · rw [key_add hx.isFinite hy.isFinite, hx.value_eq, hy.value_eq]

theorem Denotes.sub (hx : x.Denotes p) (hy : y.Denotes q) : (x - y).IsNearest (p - q) := by
  rw [sub_eq_add_neg]
  exact hx.add hy.neg

theorem Denotes.mul (hx : x.Denotes p) (hy : y.Denotes q) : (x * y).IsNearest (p * q) := by
  constructor
  · obtain ⟨s, a, rfl⟩ := isFinite_iff.mp hx.isFinite
    obtain ⟨t, b, rfl⟩ := isFinite_iff.mp hy.isFinite
    exact round_ne_nan _ _ _
  · rw [key_mul hx.isFinite hy.isFinite, hx.value_eq, hy.value_eq]

theorem Denotes.div (hx : x.Denotes p) (hy : y.Denotes q) (hq : q ≠ 0) :
    (x / y).IsNearest (p / q) := by
  rw [← hy.value_eq] at hq
  constructor
  · obtain ⟨s, a, rfl⟩ := isFinite_iff.mp hx.isFinite
    obtain ⟨t, b, rfl⟩ := isFinite_iff.mp hy.isFinite
    have hcode : b ≠ zeroCode := by
      rintro rfl
      exact units_ne_zero hq BinaryFormat.single.units_zero
    change Single.div _ _ ≠ nan
    rw [Single.div, if_neg hcode]
    exact round_ne_nan _ _ _
  · rw [key_div hx.isFinite hy.isFinite hq, hx.value_eq, hy.value_eq]

end Single

end BatteryTelemetry
