import BatteryTelemetry.Charge.Window
import BatteryTelemetry.Proofs.Bus.Range

/-!
# Percentages as rounded quotients

Raw readings and their differences are small whole numbers, so a percentage is rounded only once,
in the division by the width of the window (`isNearest_scale`). The two windows in use and the
range of raw readings bound the percentages, and these bound the range of the vehicle.
-/

namespace BatteryTelemetry

open Single

namespace ChargeWindow

theorem denotes_ofWord_sub (a b : UInt16) :
    (Reading.ofWord a - Reading.ofWord b).Denotes ((a.toNat - b.toNat : ℤ) : ℚ) := by
  have ha := a.toNat_lt
  have hb := b.toNat_lt
  have hnearest := (Reading.denotes_ofWord a).sub (Reading.denotes_ofWord b)
  have hvalue : (a.toNat - b.toNat : ℚ) = ((a.toNat - b.toNat : ℤ) : ℚ) := by push_cast; rfl
  rw [hvalue] at hnearest
  exact hnearest.denotes (representable_intCast _ (by omega))

/-- A difference of raw numbers and its hundredfold need fewer than 24 bits. -/
theorem denotes_hundredfold_sub (a b : UInt16) :
    ((Reading.ofWord a - Reading.ofWord b) * 100).Denotes
      (((a.toNat - b.toNat : ℤ) : ℚ) * (100 : ℕ)) := by
  have ha := a.toNat_lt
  have hb := b.toNat_lt
  apply ((denotes_ofWord_sub a b).mul (denotes_literal 100 (by decide))).denotes
  apply representable_of_mul_two_pow (n := (a.toNat - b.toNat) * 100) 0
  · push_cast
    ring
  · omega
  · decide

/-- Scaling onto a window that is not empty rounds the exact percentage. -/
theorem isNearest_scale {window : ChargeWindow} (h : window.lower < window.upper) (raw : UInt16) :
    (window.scale raw).IsNearest
      ((raw.toNat - window.lower.toNat) * 100 / (window.upper.toNat - window.lower.toNat)) := by
  have hlt := UInt16.lt_iff_toNat_lt.mp h
  have hwidth : ((window.upper.toNat - window.lower.toNat : ℤ) : ℚ) ≠ 0 :=
    Int.cast_ne_zero.mpr (by omega)
  have hquotient := (denotes_hundredfold_sub raw window.lower).div
    (denotes_ofWord_sub window.upper window.lower) hwidth
  push_cast at hquotient
  exact hquotient

/-- What bounds the percentages of the least and the greatest raw number bounds all others. -/
theorem within_scale_of_ends {window : ChargeWindow} (h : window.lower < window.upper)
    {low high : ℚ} (hlow : Representable low) (hhigh : Representable high)
    (hleast : low ≤ (0 - window.lower.toNat) * 100 / (window.upper.toNat - window.lower.toNat))
    (hgreatest :
      (65535 - window.lower.toNat) * 100 / (window.upper.toNat - window.lower.toNat) ≤ high)
    (raw : UInt16) : (window.scale raw).Within low high := by
  have hlt : (window.lower.toNat : ℚ) < window.upper.toNat :=
    Nat.cast_lt.mpr (UInt16.lt_iff_toNat_lt.mp h)
  have hwidth : (0 : ℚ) ≤ window.upper.toNat - window.lower.toNat := by linarith
  have hle := Reading.toNat_word_le raw
  have hnonneg : (0 : ℚ) ≤ raw.toNat := Nat.cast_nonneg _
  apply (isNearest_scale h raw).within hlow hhigh
  · apply hleast.trans
    apply div_le_div_of_nonneg_right _ hwidth
    linarith
  · refine le_trans ?_ hgreatest
    apply div_le_div_of_nonneg_right _ hwidth
    linarith

/-- Both windows keep every reading between these percentages. -/
theorem within_scale (parameters : Parameters) (raw : UInt16) :
    ((ofParameters parameters).scale raw).Within (-7) 7200 := by
  have hlow : Representable (-7) := (representable_ofNat 7 (by decide)).neg
  have hhigh : Representable 7200 := representable_ofNat 7200 (by decide)
  unfold ofParameters
  split_ifs
  · exact within_scale_of_ends (by decide) hlow hhigh (by decide +kernel) (by decide +kernel) raw
  · exact within_scale_of_ends (by decide) hlow hhigh (by decide +kernel) (by decide +kernel) raw

end ChargeWindow

/-- The range is the percentage of a constant, so bounds of one are bounds of the other. -/
theorem within_idealRange {percentage : Single} (h : percentage.Within (-7) 7200) :
    (idealRange percentage).Within (-19) 18864 := by
  have hlow := h.low_le
  have hhigh := h.le_high
  have hshare : (percentage / 100).Within (-9 / 128) 72 := by
    apply ((denotes_value h.isFinite).div (denotes_literal 100 (by decide))
      (by norm_num)).within
    · exact representable_of_mul_two_pow (n := -9) 7 (by norm_num) (by decide) (by decide)
    · exact representable_ofNat 72 (by decide)
    · push_cast
      linarith
    · push_cast
      linarith
  have hsharelow := hshare.low_le
  have hsharehigh := hshare.le_high
  apply ((denotes_literal 262 (by decide)).mul (denotes_value hshare.isFinite)).within
  · exact (representable_ofNat 19 (by decide)).neg
  · exact representable_ofNat 18864 (by decide)
  · push_cast
    linarith
  · push_cast
    linarith

end BatteryTelemetry
