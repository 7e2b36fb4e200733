import BatteryTelemetry.Charge.State
import BatteryTelemetry.Charge.Window
import BatteryTelemetry.Proofs.Bus.Reading

/-!
# Raw thresholds of a charge

The percentages that decide the state of a charge are compared after scaling and rounding. Scaling
keeps the order of raw readings, so each comparison has one raw reading from which on it succeeds
(`topsOffFrom_le_scale_iff`, `doneFrom_le_scale_iff`). Which one it is depends on the window of
the firmware.
-/

namespace BatteryTelemetry

namespace Parameters

/-- The least raw reading at which a charge in progress tops off. -/
def toppingOffFrom (parameters : Parameters) : Nat :=
  if parameters.get updatedFirmware true then 936 else 966

def doneFrom (parameters : Parameters) : Nat :=
  if parameters.get updatedFirmware true then 913 else 943

end Parameters

namespace ChargeWindow

theorem scale_le_scale_of_span {window : ChargeWindow} {a b : UInt16}
    (hlower : (Reading.ofWord window.lower).isFinite)
    (hspan : (Reading.ofWord window.upper - Reading.ofWord window.lower).isFinite)
    (hpos : 0 < (Reading.ofWord window.upper - Reading.ofWord window.lower).key) (h : a ≤ b) :
    window.scale a ≤ window.scale b := by
  apply Single.div_le_div_right hspan hpos
  apply Single.mul_le_mul_right (by decide) (by decide)
  apply Single.sub_le_sub_right hlower
  exact Reading.ofWord_le_ofWord h

/-- A higher reading is never shown as a lower percentage. -/
theorem scale_le_scale (parameters : Parameters) {a b : UInt16} (h : a ≤ b) :
    (ofParameters parameters).scale a ≤ (ofParameters parameters).scale b := by
  unfold ofParameters
  split_ifs
  · exact scale_le_scale_of_span (by decide) (by decide) (by decide) h
  · exact scale_le_scale_of_span (by decide) (by decide) (by decide) h

theorem scale_ne_nan (parameters : Parameters) (raw : UInt16) :
    (ofParameters parameters).scale raw ≠ .nan :=
  (scale_le_scale parameters (UInt16.le_refl raw)).1

/-- A threshold between the percentages of two neighbouring readings is reached from the second
reading on. -/
theorem le_scale_iff_of_between (parameters : Parameters) {threshold : Single}
    (below first : UInt16) (hnext : first.toNat = below.toNat + 1)
    (hbelow : (ofParameters parameters).scale below < threshold)
    (hfirst : threshold ≤ (ofParameters parameters).scale first) (raw : UInt16) :
    threshold ≤ (ofParameters parameters).scale raw ↔ first.toNat ≤ raw.toNat := by
  constructor
  · intro h
    by_contra hlt
    have hraw : raw ≤ below := UInt16.le_iff_toNat_le.mpr (by omega)
    have hscaled := Single.lt_of_le_of_lt (scale_le_scale parameters hraw) hbelow
    exact (Single.not_lt_iff (scale_ne_nan parameters raw) h.1).mpr h hscaled
  · intro h
    exact Single.le_trans hfirst (scale_le_scale parameters (UInt16.le_iff_toNat_le.mpr h))

/-- The rounded percentage is compared, yet the answer depends on the raw reading only. -/
theorem topsOffFrom_le_scale_iff (parameters : Parameters) (raw : UInt16) :
    ChargeState.topsOffFrom ≤ (ofParameters parameters).scale raw ↔
      parameters.toppingOffFrom ≤ raw.toNat := by
  by_cases h : parameters.get Parameters.updatedFirmware true
  · have hwindow : ofParameters parameters = updated := if_pos h
    rw [Parameters.toppingOffFrom, if_pos h]
    exact le_scale_iff_of_between parameters 935 936 rfl (by rw [hwindow]; decide)
      (by rw [hwindow]; decide) raw
  · have hwindow : ofParameters parameters = initial := if_neg h
    rw [Parameters.toppingOffFrom, if_neg h]
    exact le_scale_iff_of_between parameters 965 966 rfl (by rw [hwindow]; decide)
      (by rw [hwindow]; decide) raw

theorem doneFrom_le_scale_iff (parameters : Parameters) (raw : UInt16) :
    ChargeState.doneFrom ≤ (ofParameters parameters).scale raw ↔
      parameters.doneFrom ≤ raw.toNat := by
  by_cases h : parameters.get Parameters.updatedFirmware true
  · have hwindow : ofParameters parameters = updated := if_pos h
    rw [Parameters.doneFrom, if_pos h]
    exact le_scale_iff_of_between parameters 912 913 rfl (by rw [hwindow]; decide)
      (by rw [hwindow]; decide) raw
  · have hwindow : ofParameters parameters = initial := if_neg h
    rw [Parameters.doneFrom, if_neg h]
    exact le_scale_iff_of_between parameters 942 943 rfl (by rw [hwindow]; decide)
      (by rw [hwindow]; decide) raw

end ChargeWindow

namespace ChargeState

theorem whileCharging_scale (parameters : Parameters) (raw : UInt16) :
    whileCharging ((ChargeWindow.ofParameters parameters).scale raw) =
      if parameters.toppingOffFrom ≤ raw.toNat then toppingOff else charging := by
  have hlt := Single.not_lt_iff (ChargeWindow.scale_ne_nan parameters raw)
    (show topsOffFrom ≠ .nan by decide)
  rw [ChargeWindow.topsOffFrom_le_scale_iff] at hlt
  rw [whileCharging, ← ite_not]
  simp only [hlt]

/-- How a charge ends, by the raw reading. -/
theorem afterCharge_scale (parameters : Parameters) (raw : UInt16) :
    afterCharge ((ChargeWindow.ofParameters parameters).scale raw) =
      if parameters.doneFrom ≤ raw.toNat then done else stopped := by
  simp only [afterCharge, ChargeWindow.doneFrom_le_scale_iff]

end ChargeState

end BatteryTelemetry
