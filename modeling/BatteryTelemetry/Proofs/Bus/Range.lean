import BatteryTelemetry.Bus.Reading
import BatteryTelemetry.Proofs.Number.Dyadic

/-!
# Ranges of readings

Raw numbers of two bytes have fewer bits than a single-precision number, so quarters of a volt and
half degrees are exact. Currents, cell voltages, tenths and hundredths are quotients that are
rounded once or twice; since the ends of their ranges are values of the format, rounding keeps
them between these ends. The same holds for the power of any voltage and any current that can be
read.
-/

namespace BatteryTelemetry.Reading

open Single

theorem toNat_word_le (raw : UInt16) : (raw.toNat : ℚ) ≤ 65535 := by
  exact_mod_cast Nat.le_of_lt_succ raw.toNat_lt

theorem toNat_byte_le (raw : UInt8) : (raw.toNat : ℚ) ≤ 255 := by
  exact_mod_cast Nat.le_of_lt_succ raw.toNat_lt

theorem denotes_ofWord (raw : UInt16) : (ofWord raw).Denotes raw.toNat :=
  denotes_ofNat (raw.toNat_lt.trans (by decide))

theorem denotes_ofByte (raw : UInt8) : (ofByte raw).Denotes raw.toNat :=
  denotes_ofNat (raw.toNat_lt.trans (by decide))

theorem denotes_quarter : (ofRatio 1 4).Denotes (1 / 4) := by
  have hquarter := denotes_ofRatio_two_pow 1 2 (by decide) (by decide)
  norm_num at hquarter
  exact hquarter

theorem denotes_half : (ofRatio 1 2).Denotes (1 / 2) := by
  have hhalf := denotes_ofRatio_two_pow 1 1 (by decide) (by decide)
  norm_num at hhalf
  exact hhalf

/-- Quarters of a volt are exact in single precision. -/
theorem denotes_quarterVolts (raw : UInt16) : (quarterVolts raw).Denotes (raw.toNat / 4) := by
  have hproduct := (denotes_ofWord raw).mul denotes_quarter
  rw [mul_one_div] at hproduct
  apply hproduct.denotes
  apply representable_of_mul_two_pow (n := raw.toNat) 2
  · push_cast
    ring
  · exact raw.toNat_lt.trans (by decide)
  · decide

/-- Half degrees are exact in single precision, the shift by forty included. -/
theorem denotes_halfDegrees (raw : UInt8) : (halfDegrees raw).Denotes (raw.toNat / 2 - 40) := by
  have hlt := raw.toNat_lt
  have hproduct := (denotes_ofByte raw).mul denotes_half
  rw [mul_one_div] at hproduct
  have hhalves : (ofByte raw * ofRatio 1 2).Denotes (raw.toNat / 2) := by
    apply hproduct.denotes
    apply representable_of_mul_two_pow (n := raw.toNat) 1
    · push_cast
      ring
    · exact hlt.trans (by decide)
    · decide
  apply (hhalves.sub (denotes_literal 40 (by decide))).denotes
  apply representable_of_mul_two_pow (n := raw.toNat - 80) 1
  · push_cast
    ring
  · omega
  · decide

theorem within_quarterVolts (raw : UInt16) : (quarterVolts raw).Within 0 16383.75 := by
  have hle := toNat_word_le raw
  have hnonneg : (0 : ℚ) ≤ raw.toNat := Nat.cast_nonneg _
  apply (denotes_quarterVolts raw).within <;> linarith

theorem within_halfDegrees (raw : UInt8) : (halfDegrees raw).Within (-40) 87.5 := by
  have hle := toNat_byte_le raw
  have hnonneg : (0 : ℚ) ≤ raw.toNat := Nat.cast_nonneg _
  apply (denotes_halfDegrees raw).within <;> linarith

/-- The amperes before the last division are exact. -/
theorem isNearest_amperes (raw : UInt16) :
    (amperes raw).IsNearest ((raw.toNat - 40000) / 40) := by
  have hlt := raw.toNat_lt
  have hoffset : (ofInt (raw.toNat - zeroCurrent)).Denotes ((raw.toNat - 40000 : ℤ) : ℚ) :=
    denotes_ofInt (by simp only [zeroCurrent]; omega)
  have hproduct := hoffset.mul denotes_quarter
  have hquarters : (ofInt (raw.toNat - zeroCurrent) * ofRatio 1 4).Denotes
      (((raw.toNat - 40000 : ℤ) : ℚ) * (1 / 4)) := by
    apply hproduct.denotes
    apply representable_of_mul_two_pow (n := raw.toNat - 40000) 2
    · ring
    · omega
    · decide
  have hquotient := hquarters.div (denotes_literal 10 (by decide)) (by norm_num)
  have hvalue : ((raw.toNat - 40000 : ℤ) : ℚ) * (1 / 4) / (10 : ℕ) = (raw.toNat - 40000) / 40 := by
    push_cast
    ring
  rwa [hvalue] at hquotient

theorem within_amperes (raw : UInt16) : (amperes raw).Within (-1000) 638.375 := by
  have hle := toNat_word_le raw
  have hnonneg : (0 : ℚ) ≤ raw.toNat := Nat.cast_nonneg _
  apply (isNearest_amperes raw).within
  · exact (representable_ofNat 1000 (by decide)).neg
  · exact representable_of_mul_two_pow (n := 5107) 3 (by norm_num) (by decide) (by decide)
  · linarith
  · linarith

/-- The product may be rounded, but to no more than the product of the greatest magnitudes. -/
theorem within_kilowatts {volts current : Single} (hvolts : volts.Within 0 16383.75)
    (hcurrent : current.Within (-1000) 638.375) :
    (kilowatts volts current).Within (-16383.75) 16383.75 := by
  have hlow : -16383750 ≤ volts.value * current.value := by
    nlinarith [hvolts.low_le, hvolts.le_high, hcurrent.low_le]
  have hhigh : volts.value * current.value ≤ 16383750 := by
    nlinarith [hvolts.low_le, hvolts.le_high, hcurrent.le_high]
  have hproduct : (volts * current).Within (-16383750) 16383750 := by
    apply ((denotes_value hvolts.isFinite).mul (denotes_value hcurrent.isFinite)).within
    · exact (representable_ofNat 16383750 (by decide)).neg
    · exact representable_ofNat 16383750 (by decide)
    · exact hlow
    · exact hhigh
  have hneg := hproduct.neg
  have hneglow := hneg.low_le
  have hneghigh := hneg.le_high
  apply ((denotes_value hneg.isFinite).div (denotes_literal 1000 (by decide)) (by norm_num)).within
  · exact representable_of_mul_two_pow (n := -65535) 2 (by norm_num) (by decide) (by decide)
  · exact representable_of_mul_two_pow (n := 65535) 2 (by norm_num) (by decide) (by decide)
  · push_cast
    linarith
  · push_cast
    linarith

/-- A raw number over a positive one stays below any bound that the greatest raw number keeps. -/
theorem within_ofWord_div (raw : UInt16) {divisor : Single} {d high : ℚ}
    (hdivisor : divisor.Denotes d) (hpos : 0 < d) (hhigh : Representable high)
    (hle : 65535 ≤ high * d) : (ofWord raw / divisor).Within 0 high := by
  apply ((denotes_ofWord raw).div hdivisor hpos.ne').within
  · exact representable_of_mul_two_pow (n := 0) 0 (by norm_num) (by decide) (by decide)
  · exact hhigh
  · exact div_nonneg (Nat.cast_nonneg _) hpos.le
  · rw [div_le_iff₀ hpos]
    exact (toNat_word_le raw).trans hle

/-- The bounds are at or outside those of the raw numbers, which need not be exact. -/
theorem within_cellVolts (raw : UInt16) : (cellVolts raw).Within 1 34 := by
  have hquotient : (ofWord raw / 2000).Within 0 33 := by
    apply within_ofWord_div raw (denotes_literal 2000 (by decide)) (by norm_num)
    · exact representable_ofNat 33 (by decide)
    · norm_num
  have hlow := hquotient.low_le
  have hhigh := hquotient.le_high
  apply ((denotes_value hquotient.isFinite).add (denotes_literal 1 (by decide))).within
  · exact representable_of_mul_two_pow (n := 1) 0 (by norm_num) (by decide) (by decide)
  · exact representable_ofNat 34 (by decide)
  · push_cast
    linarith
  · push_cast
    linarith

theorem within_tenths (raw : UInt16) : (tenths raw).Within 0 6553.5 := by
  apply within_ofWord_div raw (denotes_literal 10 (by decide)) (by norm_num)
  · exact representable_of_mul_two_pow (n := 13107) 1 (by norm_num) (by decide) (by decide)
  · norm_num

theorem within_hundredths (raw : UInt16) : (hundredths raw).Within 0 656 := by
  apply within_ofWord_div raw (denotes_literal 100 (by decide)) (by norm_num)
  · exact representable_ofNat 656 (by decide)
  · norm_num

end BatteryTelemetry.Reading
