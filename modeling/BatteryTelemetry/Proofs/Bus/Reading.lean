import BatteryTelemetry.Bus.Reading
import BatteryTelemetry.Proofs.Number.Order

/-!
# Readings keep the order of raw numbers

A greater raw number never reads as a smaller voltage or temperature, whatever is lost to rounding
on the way (`converts_cellVolts`, `converts_halfDegrees`). No raw number reads as a negative zero,
so readings that are equal in the order are equal.
-/

namespace BatteryTelemetry

/-- A conversion of raw numbers that keeps their order. -/
structure Converts {ρ : Type} (convert : ρ → Single) (before : Single → Single → Prop)
    (rawBefore : ρ → ρ → Prop) : Prop where
  total (a b : ρ) : rawBefore a b ∨ rawBefore b a
  trans {a b c : ρ} : rawBefore a b → rawBefore b c → rawBefore a c
  mono {a b : ρ} : rawBefore a b → before (convert a) (convert b)
  antisymm {a b : ρ} : before (convert a) (convert b) → before (convert b) (convert a) →
    convert a = convert b
  ne_nan (a : ρ) : convert a ≠ .nan

/-- What keeps an order keeps the reverse one. -/
theorem Converts.flip {ρ : Type} {convert : ρ → Single} {before : Single → Single → Prop}
    {rawBefore : ρ → ρ → Prop} (h : Converts convert before rawBefore) :
    Converts convert (fun x y ↦ before y x) (fun a b ↦ rawBefore b a) where
  total a b := h.total b a
  trans hab hbc := h.trans hbc hab
  mono hab := h.mono hab
  antisymm hab hba := h.antisymm hba hab
  ne_nan := h.ne_nan

/-- Among finitely many raw numbers one comes before all others. -/
theorem Converts.exists_first {α ρ : Type} {convert : ρ → Single}
    {before : Single → Single → Prop} {rawBefore : ρ → ρ → Prop}
    (h : Converts convert before rawBefore) (raw : α → ρ) {l : List α} (hl : l ≠ []) :
    ∃ a ∈ l, ∀ b ∈ l, rawBefore (raw a) (raw b) := by
  have hrefl : ∀ a, rawBefore a a := fun a ↦ (h.total a a).elim id id
  induction l with
  | nil => exact absurd rfl hl
  | cons head rest ih =>
    rcases rest.eq_nil_or_concat with rfl | hne
    · exact ⟨head, by simp, by simp [hrefl]⟩
    · obtain ⟨a, ha, hfirst⟩ := ih (by rintro rfl; simp at hne)
      rcases h.total (raw head) (raw a) with hhead | hrest
      · refine ⟨head, by simp, fun b hb ↦ ?_⟩
        rcases List.mem_cons.mp hb with rfl | hb
        · exact hrefl _
        · exact h.trans hhead (hfirst b hb)
      · refine ⟨a, List.mem_cons_of_mem _ ha, fun b hb ↦ ?_⟩
        rcases List.mem_cons.mp hb with rfl | hb
        · exact hrest
        · exact hfirst b hb

namespace Reading

theorem ofWord_le_ofWord {a b : UInt16} (h : a ≤ b) : ofWord a ≤ ofWord b :=
  Single.ofNat_le_ofNat (UInt16.le_iff_toNat_le.mp h)

theorem ofByte_le_ofByte {a b : UInt8} (h : a ≤ b) : ofByte a ≤ ofByte b :=
  Single.ofNat_le_ofNat (UInt8.le_iff_toNat_le.mp h)

/-- Rounding each step keeps the order of the raw numbers. -/
theorem cellVolts_le_cellVolts {a b : UInt16} (h : a ≤ b) : cellVolts a ≤ cellVolts b := by
  apply Single.add_le_add_right (by decide)
  apply Single.div_le_div_right (by decide) (by decide)
  exact ofWord_le_ofWord h

theorem halfDegrees_le_halfDegrees {a b : UInt8} (h : a ≤ b) : halfDegrees a ≤ halfDegrees b := by
  apply Single.sub_le_sub_right (by decide)
  apply Single.mul_le_mul_right (by decide) (by decide)
  exact ofByte_le_ofByte h

/-- The two zeros are equal but not the same, so the minimum of readings could depend on their order
if a reading were the negative one. -/
theorem cellVolts_ne_negative_zero (raw : UInt16) : cellVolts raw ≠ .finite true Single.zeroCode := by
  intro h
  have hone := (Single.isNegative_of_add_eq h).2
  exact absurd hone (by decide)

theorem halfDegrees_ne_negative_zero (raw : UInt8) :
    halfDegrees raw ≠ .finite true Single.zeroCode := by
  intro h
  have hfactor := (Single.isNegative_of_add_eq h).1
  have hproduct : (ofByte raw * .ofRatio 1 2).isNegative = false :=
    Single.isNegative_mul (Single.isNegative_ofNat _) (Single.isNegative_ofRatio _ _)
  simp [hproduct] at hfactor

/-- Cell voltages rise with their raw numbers. -/
theorem converts_cellVolts : Converts cellVolts (· ≤ ·) (· ≤ ·) where
  total a b := by simpa [UInt16.le_iff_toNat_le] using Nat.le_total a.toNat b.toNat
  trans hab hbc := UInt16.le_trans hab hbc
  mono := cellVolts_le_cellVolts
  antisymm hab hba := Single.eq_of_key_eq hab.1 hab.2.1 (cellVolts_ne_negative_zero _)
    (cellVolts_ne_negative_zero _) (le_antisymm hab.2.2 hba.2.2)
  ne_nan a := (cellVolts_le_cellVolts (UInt16.le_refl a)).1

theorem converts_halfDegrees : Converts halfDegrees (· ≤ ·) (· ≤ ·) where
  total a b := by simpa [UInt8.le_iff_toNat_le] using Nat.le_total a.toNat b.toNat
  trans hab hbc := UInt8.le_trans hab hbc
  mono := halfDegrees_le_halfDegrees
  antisymm hab hba := Single.eq_of_key_eq hab.1 hab.2.1 (halfDegrees_ne_negative_zero _)
    (halfDegrees_ne_negative_zero _) (le_antisymm hab.2.2 hba.2.2)
  ne_nan a := (halfDegrees_le_halfDegrees (UInt8.le_refl a)).1

end Reading

end BatteryTelemetry
