import BatteryTelemetry.Number.BinaryFormat
import Mathlib.Data.Nat.Log
import Mathlib.Tactic.Linarith
import Mathlib.Tactic.Ring

/-!
# Rounding is monotone

Rounding a quotient to the nearest value of a format never turns the order of two quotients round
(`nearest_mono`). The quotients are compared by their cross products, so the result also says that
rounding depends on the quotient alone. Since a value of the format is kept, values are in the
order of their codes (`units_lt_units_iff`), and a quotient on one side of a value is rounded to
the same side of it.
-/

namespace BatteryTelemetry

/-- The floor of a quotient is monotone in the quotient. -/
theorem div_le_div_of_cross {num den num' den' : ℕ} (hden : 0 < den) (hden' : 0 < den')
    (h : num * den' ≤ num' * den) : num / den ≤ num' / den' := by
  rw [Nat.le_div_iff_mul_le hden']
  refine Nat.le_of_mul_le_mul_right ?_ hden
  calc
    num / den * den' * den = num / den * den * den' := by ring
    _ ≤ num * den' := Nat.mul_le_mul_right den' (Nat.div_mul_le_self num den)
    _ ≤ num' * den := h

/-- Quotients with one floor are in the order of their remainders. -/
theorem mod_mul_le_of_cross {num den num' den' : ℕ} (hfloor : num / den = num' / den')
    (h : num * den' ≤ num' * den) : num % den * den' ≤ num' % den' * den := by
  have hsplit := Nat.div_add_mod num den
  have hsplit' := Nat.div_add_mod num' den'
  rw [← hfloor] at hsplit'
  rw [← hsplit, ← hsplit'] at h
  simp only [add_mul] at h
  have hwhole : den * (num / den) * den' = den' * (num / den) * den := by ring
  omega

/-- A quotient goes up from more than half way above its floor, and from half way if the floor is
odd. -/
theorem roundQuotient_toEven (num den : ℕ) :
    roundQuotient .toEven num den = num / den +
      if den < 2 * (num % den) ∨ den ≤ 2 * (num % den) ∧ num / den % 2 = 1 then 1 else 0 := by
  simp only [roundQuotient, Tie.raises, beq_iff_eq]
  split_ifs <;> omega

/-- Rounding to a natural keeps the order of quotients. -/
theorem roundQuotient_mono {num den num' den' : ℕ} (hden : 0 < den) (hden' : 0 < den')
    (h : num * den' ≤ num' * den) :
    roundQuotient .toEven num den ≤ roundQuotient .toEven num' den' := by
  rcases (div_le_div_of_cross hden hden' h).lt_or_eq with hlt | hfloor
  · have hleft := roundQuotient_eq_or .toEven num den
    have hright := roundQuotient_eq_or .toEven num' den'
    omega
  · have hcross := mod_mul_le_of_cross hfloor h
    have habove (hr : den < 2 * (num % den)) : den' < 2 * (num' % den') := by
      by_contra hle
      have hsmall : 2 * (num' % den') * den ≤ den' * den := Nat.mul_le_mul_right den (by omega)
      have hlarge : den * den' < 2 * (num % den) * den' := Nat.mul_lt_mul_of_pos_right hr hden'
      nlinarith only [hcross, hsmall, hlarge]
    have hhalf (hr : den ≤ 2 * (num % den)) : den' ≤ 2 * (num' % den') := by
      by_contra hle
      have hsmall : 2 * (num' % den') * den < den' * den :=
        Nat.mul_lt_mul_of_pos_right (by omega) hden
      have hlarge : den * den' ≤ 2 * (num % den) * den' := Nat.mul_le_mul_right den' hr
      nlinarith only [hcross, hsmall, hlarge]
    rw [roundQuotient_toEven, roundQuotient_toEven, hfloor]
    refine Nat.add_le_add_left ?_ _
    split_ifs with hup hup'
    · rfl
    · exact absurd (hup.imp habove (And.imp_left hhalf)) hup'
    · exact Nat.zero_le _
    · rfl

namespace BinaryFormat

variable (format : BinaryFormat)

/-- How far a whole number of units is shifted before it is rounded. -/
def shiftOf (floor : ℕ) : ℕ := Nat.log2 floor - format.fractionBits

/-- The quotient is shifted into the precision of its magnitude and rounded there. -/
theorem nearest_eq (num den : ℕ) :
    format.nearest num den = format.shiftOf (num / den) * format.binadeSize +
      roundQuotient .toEven num (den <<< format.shiftOf (num / den)) := rfl

theorem shiftOf_mono {floor floor' : ℕ} (h : floor ≤ floor') :
    format.shiftOf floor ≤ format.shiftOf floor' := by
  unfold shiftOf
  rw [Nat.log2_eq_log_two, Nat.log2_eq_log_two]
  exact Nat.sub_le_sub_right (Nat.log_mono_right h) _

/-- A shifted quotient has at most one bit before its fraction. -/
theorem shifted_lt (num den : ℕ) :
    num / (den <<< format.shiftOf (num / den)) < 2 * format.binadeSize := by
  rw [Nat.shiftLeft_eq, ← Nat.div_div_eq_div_mul, Nat.div_lt_iff_lt_mul (Nat.two_pow_pos _),
    binadeSize, Nat.one_shiftLeft]
  calc
    num / den < 2 ^ (Nat.log2 (num / den) + 1) := Nat.lt_log2_self
    _ ≤ 2 ^ (format.fractionBits + 1 + format.shiftOf (num / den)) :=
      Nat.pow_le_pow_right (by omega) (by unfold shiftOf; omega)
    _ = 2 * 2 ^ format.fractionBits * 2 ^ format.shiftOf (num / den) := by
      rw [pow_add, pow_succ]
      ring

/-- A quotient that is shifted at all has its leading bit before the fraction. -/
theorem le_shifted (num den : ℕ) (h : 0 < format.shiftOf (num / den)) :
    format.binadeSize ≤ num / (den <<< format.shiftOf (num / den)) := by
  have hlog : Nat.log2 (num / den) = format.fractionBits + format.shiftOf (num / den) := by
    unfold shiftOf at *
    omega
  have hpos : num / den ≠ 0 := by
    intro hzero
    simp [shiftOf, hzero] at h
  rw [Nat.shiftLeft_eq, ← Nat.div_div_eq_div_mul, Nat.le_div_iff_mul_le (Nat.two_pow_pos _),
    binadeSize, Nat.one_shiftLeft, ← pow_add, ← hlog]
  exact Nat.log2_self_le hpos

/-- By the magnitudes of both quotients: within one the rounding keeps the order, and between two
the codes do. -/
theorem nearest_mono {num den num' den' : ℕ} (hden : 0 < den) (hden' : 0 < den')
    (h : num * den' ≤ num' * den) : format.nearest num den ≤ format.nearest num' den' := by
  have hshift := format.shiftOf_mono (div_le_div_of_cross hden hden' h)
  rw [nearest_eq, nearest_eq]
  rcases hshift.lt_or_eq with hlt | heq
  · have hleft := roundQuotient_eq_or .toEven num (den <<< format.shiftOf (num / den))
    have hright := roundQuotient_eq_or .toEven num' (den' <<< format.shiftOf (num' / den'))
    have hlow := format.shifted_lt num den
    have hhigh := format.le_shifted num' den' (by omega)
    have hbinades := Nat.mul_le_mul_right format.binadeSize hlt
    rw [Nat.succ_mul] at hbinades
    omega
  · rw [← heq]
    refine Nat.add_le_add_left (roundQuotient_mono ?_ ?_ ?_) _
    · rw [Nat.shiftLeft_eq]
      exact Nat.mul_pos hden (Nat.two_pow_pos _)
    · rw [Nat.shiftLeft_eq]
      exact Nat.mul_pos hden' (Nat.two_pow_pos _)
    · simp only [Nat.shiftLeft_eq]
      nlinarith only [Nat.mul_le_mul_right (2 ^ format.shiftOf (num / den)) h]

/-- Rounding depends on the quotient, not on how it is written. -/
theorem nearest_congr {num den num' den' : ℕ} (hden : 0 < den) (hden' : 0 < den')
    (h : num * den' = num' * den) : format.nearest num den = format.nearest num' den' :=
  le_antisymm (format.nearest_mono hden hden' h.le) (format.nearest_mono hden' hden h.ge)

/-- Values are in the order of their codes. -/
theorem units_lt_units_iff {code code' : ℕ} :
    format.units code < format.units code' ↔ code < code' := by
  have hmono {c c' : ℕ} (h : format.units c ≤ format.units c') : c ≤ c' := by
    rw [← format.nearest_units c, ← format.nearest_units c']
    exact format.nearest_mono one_pos one_pos (by omega)
  constructor
  · intro h
    apply (hmono h.le).lt_of_ne
    rintro rfl
    exact lt_irrefl _ h
  · intro h
    by_contra hle
    exact absurd (hmono (not_lt.mp hle)) (not_le.mpr h)

end BinaryFormat

end BatteryTelemetry
