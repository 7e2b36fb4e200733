import BatteryTelemetry.Proofs.Charge.Scale
import BatteryTelemetry.Proofs.Number.Rounded

/-!
# Percentages of any window

On a window that is not empty the percentage of a raw reading is the exact one, rounded once:
everything before the division is exact. Let `2 ^ k` be the greatest power of two that does not
exceed the width of the window. Neighbouring readings have exact percentages that differ by at
least two multiples of `1 / 2 ^ k`, and those multiples are values of the format as far as
percentages go, so no two readings share a percentage (`nearestKey_exactPercentage_lt`). The ends
of the window are shown as exactly 0 % and 100 %, and readings outside it lie outside these.
-/

namespace BatteryTelemetry.ChargeWindow

open Single

variable {window : ChargeWindow}

/-- The percentage of a raw reading before it is rounded. -/
def exactPercentage (window : ChargeWindow) (raw : UInt16) : ℚ :=
  100 * (raw.toNat - window.lower.toNat) / (window.upper.toNat - window.lower.toNat)

theorem one_le_width (h : window.lower < window.upper) :
    1 ≤ (window.upper.toNat - window.lower.toNat : ℚ) := by
  have hlt : window.lower.toNat + 1 ≤ window.upper.toNat := UInt16.lt_iff_toNat_lt.mp h
  have hcast : (window.lower.toNat + 1 : ℚ) ≤ window.upper.toNat := by exact_mod_cast hlt
  linarith

/-- Of the four operations only the division rounds. -/
theorem isNearest_exactPercentage (h : window.lower < window.upper) (raw : UInt16) :
    (window.scale raw).IsNearest (window.exactPercentage raw) := by
  rw [exactPercentage, mul_comm]
  exact isNearest_scale h raw

/-- Multiplied by no more than the width, an exact percentage stays below a hundred times the
greatest reading. -/
theorem abs_exactPercentage_mul_le (h : window.lower < window.upper) (raw : UInt16) {c : ℚ}
    (hc : 0 ≤ c) (hle : c ≤ window.upper.toNat - window.lower.toNat) :
    |window.exactPercentage raw * c| ≤ 6553500 := by
  have hwidth := one_le_width h
  have hraw := Reading.toNat_word_le raw
  have hlower := Reading.toNat_word_le window.lower
  have hraw' : (0 : ℚ) ≤ raw.toNat := Nat.cast_nonneg _
  have hlower' : (0 : ℚ) ≤ window.lower.toNat := Nat.cast_nonneg _
  have hshare : c / (window.upper.toNat - window.lower.toNat) ≤ 1 :=
    div_le_one_of_le₀ hle (by linarith)
  have hoffset : |(100 * (raw.toNat - window.lower.toNat) : ℚ)| ≤ 6553500 :=
    abs_le.mpr ⟨by linarith, by linarith⟩
  calc
    |window.exactPercentage raw * c| =
        |(100 * (raw.toNat - window.lower.toNat) : ℚ)| *
          (c / (window.upper.toNat - window.lower.toNat)) := by
      rw [exactPercentage, div_mul_eq_mul_div, ← mul_div_assoc', abs_mul, abs_of_nonneg (a := c / _)
        (div_nonneg hc (by linarith))]
    _ ≤ 6553500 * 1 := mul_le_mul hoffset hshare (div_nonneg hc (by linarith)) (by norm_num)
    _ = 6553500 := mul_one _

theorem isFinite_scale (h : window.lower < window.upper) (raw : UInt16) :
    (window.scale raw).isFinite := by
  have hbound := abs_exactPercentage_mul_le h raw zero_le_one (one_le_width h)
  rw [mul_one, abs_le] at hbound
  have hhigh : Representable 6553500 := representable_ofNat 6553500 (by decide)
  have hwithin := (isNearest_exactPercentage h raw).within hhigh.neg hhigh hbound.1 hbound.2
  exact hwithin.isFinite

/-- The width lies between a power of two and twice that power. -/
theorem exists_two_pow_le_width (h : window.lower < window.upper) :
    ∃ k ≤ 15, (2 ^ k : ℚ) ≤ window.upper.toNat - window.lower.toNat ∧
      (window.upper.toNat - window.lower.toNat : ℚ) ≤ 2 * 2 ^ k := by
  have hlt := UInt16.lt_iff_toNat_lt.mp h
  have hupper := window.upper.toNat_lt
  rw [← Nat.cast_sub hlt.le]
  refine ⟨Nat.log 2 (window.upper.toNat - window.lower.toNat), ?_, ?_, ?_⟩
  · exact Nat.le_of_lt_succ (Nat.log_lt_of_lt_pow (by omega) (by omega))
  · exact_mod_cast Nat.pow_log_le_self 2 (by omega)
  · rw [← pow_succ']
    exact_mod_cast (Nat.lt_pow_succ_log_self Nat.one_lt_two _).le

/-- The exact percentages of two readings are further apart than the spacing of the numbers around
them. -/
theorem nearestKey_exactPercentage_lt (h : window.lower < window.upper) {a b : UInt16}
    (hab : a < b) :
    nearestKey (window.exactPercentage a) < nearestKey (window.exactPercentage b) := by
  have hwidth := one_le_width h
  have hstep : (a.toNat + 1 : ℚ) ≤ b.toNat := by exact_mod_cast UInt16.lt_iff_toNat_lt.mp hab
  obtain ⟨k, hk, hle, hle'⟩ := exists_two_pow_le_width h
  have hnonneg : (0 : ℚ) ≤ 2 ^ k := pow_nonneg two_pos.le k
  have hlow := abs_le.mp (abs_exactPercentage_mul_le h a hnonneg hle)
  have hhigh := abs_le.mp (abs_exactPercentage_mul_le h b hnonneg hle)
  have hdiff : window.exactPercentage b * 2 ^ k - window.exactPercentage a * 2 ^ k =
      100 * (b.toNat - a.toNat) * 2 ^ k / (window.upper.toNat - window.lower.toNat) := by
    unfold exactPercentage
    field_simp
    ring
  -- Neighbours are at least `100 * 2 ^ k` over the width apart, and the width is at most `2 * 2 ^ k`.
  have hgap : 2 ≤ 100 * (b.toNat - a.toNat) * 2 ^ k /
      (window.upper.toNat - window.lower.toNat : ℚ) := by
    rw [le_div_iff₀ (by linarith)]
    nlinarith
  apply nearestKey_lt_of_steps (by omega : k ≤ 149)
  · linarith
  · linarith
  · linarith

/-- Rounding does not bring the percentages of two readings together. -/
theorem scale_lt_scale (h : window.lower < window.upper) {a b : UInt16} (hab : a < b) :
    window.scale a < window.scale b := by
  have hlow := isNearest_exactPercentage h a
  have hhigh := isNearest_exactPercentage h b
  refine ⟨hlow.ne_nan, hhigh.ne_nan, ?_⟩
  rw [hlow.key_eq, hhigh.key_eq]
  exact nearestKey_exactPercentage_lt h hab

theorem scale_lt_scale_iff (h : window.lower < window.upper) {a b : UInt16} :
    window.scale a < window.scale b ↔ a < b := by
  refine ⟨fun hlt ↦ ?_, scale_lt_scale h⟩
  rcases lt_trichotomy a.toNat b.toNat with hab | heq | hba
  · exact UInt16.lt_iff_toNat_lt.mpr hab
  · rw [UInt16.toNat_inj.mp heq] at hlt
    exact absurd hlt.2.2 (lt_irrefl _)
  · exact absurd hlt.2.2 (scale_lt_scale h (UInt16.lt_iff_toNat_lt.mpr hba)).2.2.not_gt

theorem scale_lower (h : window.lower < window.upper) : window.scale window.lower = 0 := by
  have hwidth := one_le_width h
  have hdenotes := denotes_ofWord_sub window.upper window.lower
  have hpos : (0 : ℚ) < ((window.upper.toNat - window.lower.toNat : ℤ) : ℚ) := by
    push_cast
    linarith
  rw [scale, Single.sub_self (Reading.denotes_ofWord _).isFinite,
    show (0 : Single) * 100 = 0 by decide]
  exact Single.zero_div hdenotes.isFinite (hdenotes.key_pos hpos)

/-- The upper end is shown as exactly 100, which is no result of rounding. -/
theorem scale_upper (h : window.lower < window.upper) : window.scale window.upper = 100 := by
  have hwidth := one_le_width h
  have hexact : window.exactPercentage window.upper = (100 : ℕ) := by
    rw [exactPercentage, mul_div_cancel_right₀ _ (by linarith)]
    rfl
  have hnearest := isNearest_exactPercentage h window.upper
  rw [hexact] at hnearest
  have hdenotes := hnearest.denotes (representable_intCast 100 (by decide))
  exact hdenotes.eq_of_ne_zero (denotes_literal 100 (by decide)) (by norm_num)

/-- The percentages of a window: every step before the division is exact, the division rounds the
exact percentage to the nearest number, and the numbers keep the order of the readings. -/
structure IsScale (window : ChargeWindow) : Prop where
  word (raw : UInt16) : (Reading.ofWord raw).Denotes raw.toNat
  offset (raw : UInt16) : (Reading.ofWord raw - Reading.ofWord window.lower).Denotes
    ((raw.toNat - window.lower.toNat : ℤ) : ℚ)
  hundredfold (raw : UInt16) : ((Reading.ofWord raw - Reading.ofWord window.lower) * 100).Denotes
    (((raw.toNat - window.lower.toNat : ℤ) : ℚ) * (100 : ℕ))
  width : (Reading.ofWord window.upper - Reading.ofWord window.lower).Denotes
    ((window.upper.toNat - window.lower.toNat : ℤ) : ℚ)
  rounded (raw : UInt16) : (window.scale raw).IsRounded (window.exactPercentage raw)
  lower : window.scale window.lower = 0
  upper : window.scale window.upper = 100
  increasing (a b : UInt16) : window.scale a < window.scale b ↔ a < b
  below (raw : UInt16) : window.scale raw < 0 ↔ raw < window.lower
  above (raw : UInt16) : 100 < window.scale raw ↔ window.upper < raw

/-- Every window that is not empty scales its readings in this way. -/
theorem isScale (h : window.lower < window.upper) : window.IsScale where
  word := Reading.denotes_ofWord
  offset raw := denotes_ofWord_sub raw window.lower
  hundredfold raw := denotes_hundredfold_sub raw window.lower
  width := denotes_ofWord_sub window.upper window.lower
  rounded raw := (isNearest_exactPercentage h raw).isRounded (isFinite_scale h raw)
  lower := scale_lower h
  upper := scale_upper h
  increasing _ _ := scale_lt_scale_iff h
  below raw := by rw [← scale_lower h, scale_lt_scale_iff h]
  above raw := by rw [← scale_upper h, scale_lt_scale_iff h]

/-- The widest of all windows is one of them. -/
theorem isScale_widest : (⟨0, 65535⟩ : ChargeWindow).IsScale := isScale (by decide)

end BatteryTelemetry.ChargeWindow
