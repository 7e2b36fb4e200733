import BatteryTelemetry.Proofs.Number.DecimalText

/-!
# Numbers are read back from their texts

The layouts of a style put the same digits down with zeros and powers that leave their value alone,
so the text of a finite number reads back as the number (`Single.ofText_text`), with its sign and
also if it is zero. A text with a given number of places is a numeral of the nearest decimal with so
many places (`Single.isRounding_fixed`).
-/

namespace BatteryTelemetry

namespace NumberStyle

open Decimal

variable {digits : List Char} {point exponent : ℤ} {keepsFraction : Bool} {n : ℕ}

theorem pointed_of_ne_nil {fraction : List Char} (h : fraction ≠ []) :
    pointed fraction = '.' :: fraction := by
  cases fraction with
  | nil => exact absurd rfl h
  | cons c others => rfl

/-- Zeros between the point and the digits move these down. -/
theorem exists_ofText_layPoint_of_nonpos (h : IsSignificant digits) (hpoint : point ≤ 0)
    (keepsFraction : Bool) : ∃ decimal,
      ofText? (layPoint digits point keepsFraction) = some decimal ∧
        decimal.value = ofDigits digits * 10 ^ (point - digits.length) := by
  have hzero : isWhole ['0'] := by decide
  have hfraction : (zeros (-point).toNat ++ digits).all Char.isDigit := by
    rw [List.all_append, isDigit_zeros, h.isDigit]
    rfl
  obtain ⟨decimal, htext, hvalue⟩ := exists_ofText_pointed hzero hfraction
  refine ⟨decimal, ?_, hvalue.trans ?_⟩
  · rw [← htext, pointed_of_ne_nil (by simp [h.ne_nil]), layPoint, if_pos hpoint]
    rfl
  · have hzeros : ofDigits (['0'] ++ (zeros (-point).toNat ++ digits)) = ofDigits digits :=
      ofDigits_zeros_append ((-point).toNat + 1) digits
    rw [hzeros, List.length_append, zeros, List.length_replicate]
    congr 2
    omega

/-- Zeros behind the digits move these up to the point. -/
theorem exists_ofText_layPoint_of_length_le (h : IsSignificant digits) (hpoint : 0 < point)
    (hlength : digits.length ≤ point.toNat) (keepsFraction : Bool) : ∃ decimal,
      ofText? (layPoint digits point keepsFraction) = some decimal ∧
        decimal.value = ofDigits digits * 10 ^ (point - digits.length) := by
  have hten : (10 : ℚ) ≠ 0 := by norm_num
  have hwhole := (h.append_zeros (point.toNat - digits.length)).isWhole
  have hfraction : (zeros keepsFraction.toNat).all Char.isDigit := isDigit_zeros _
  obtain ⟨decimal, htext, hvalue⟩ := exists_ofText_pointed hwhole hfraction
  refine ⟨decimal, ?_, hvalue.trans ?_⟩
  · rw [← htext, layPoint, if_neg (not_le.mpr hpoint)]
    dsimp only
    rw [if_pos hlength]
    cases keepsFraction <;> rfl
  · rw [List.append_assoc, zeros, zeros, ← List.replicate_add, ← zeros, ofDigits_append_zeros,
      List.length_replicate]
    push_cast
    rw [mul_assoc, ← zpow_natCast, ← zpow_add₀ hten]
    congr 2
    omega

theorem exists_ofText_layPoint_of_lt_length (h : IsSignificant digits) (hpoint : 0 < point)
    (hlength : point.toNat < digits.length) (keepsFraction : Bool) : ∃ decimal,
      ofText? (layPoint digits point keepsFraction) = some decimal ∧
        decimal.value = ofDigits digits * 10 ^ (point - digits.length) := by
  have hzero : point.toNat ≠ 0 := by omega
  have hwhole := (h.take hzero).isWhole
  have hfraction : (digits.drop point.toNat).all Char.isDigit :=
    List.all_eq_true.mpr fun c hc ↦ List.all_eq_true.mp h.isDigit c (List.mem_of_mem_drop hc)
  obtain ⟨decimal, htext, hvalue⟩ := exists_ofText_pointed hwhole hfraction
  refine ⟨decimal, ?_, hvalue.trans ?_⟩
  · rw [← htext, pointed_of_ne_nil (by simp [hlength]), layPoint, if_neg (not_le.mpr hpoint)]
    dsimp only
    rw [if_neg (not_le.mpr hlength)]
  · rw [List.take_append_drop, List.length_drop]
    congr 2
    omega

/-- A point among digits, or zeros around them, move the digits to their places. -/
theorem exists_ofText_layPoint (h : IsSignificant digits) (point : ℤ) (keepsFraction : Bool) :
    ∃ decimal, ofText? (layPoint digits point keepsFraction) = some decimal ∧
      decimal.value = ofDigits digits * 10 ^ (point - digits.length) := by
  rcases le_or_gt point 0 with hpoint | hpoint
  · exact exists_ofText_layPoint_of_nonpos h hpoint keepsFraction
  · rcases le_or_gt digits.length point.toNat with hlength | hlength
    · exact exists_ofText_layPoint_of_length_le h hpoint hlength keepsFraction
    · exact exists_ofText_layPoint_of_lt_length h hpoint hlength keepsFraction

/-- A power of ten makes up for the place of the point. -/
theorem exists_ofText_layExponent (h : IsSignificant digits) (exponent : ℤ) : ∃ decimal,
      ofText? (layExponent digits exponent) = some decimal ∧
        decimal.value = ofDigits digits * 10 ^ (exponent + 1 - digits.length) := by
  have hwhole := (h.take Nat.one_ne_zero).isWhole
  have hnatural : natural? (Nat.toDigits 10 exponent.natAbs) = some exponent.natAbs := by
    rw [natural?, if_pos ⟨Nat.toDigits_ne_nil, isDigit_toDigits _⟩, ofDigits_toDigits]
  have hpower : power? ('e' :: (if exponent < 0 then '-' else '+') ::
      Nat.toDigits 10 exponent.natAbs) = some exponent := by
    split_ifs with hsign
    · rw [power?, hnatural, Option.map_some]
      congr 1
      omega
    · rw [power?, hnatural, Option.map_some]
      congr 1
      omega
  obtain ⟨isDigit, ne_nil, -⟩ := h
  cases digits with
  | nil => exact absurd rfl ne_nil
  | cons first others =>
    have hfraction : others.all Char.isDigit := by
      rw [List.all_cons, Bool.and_eq_true] at isDigit
      exact isDigit.2
    obtain ⟨decimal, htext, hvalue⟩ := exists_ofText_append hwhole hfraction (by simp) hpower
    refine ⟨decimal, ?_, hvalue.trans ?_⟩
    · rw [← htext]
      cases others <;> rfl
    · rw [List.take_succ_cons, List.take_zero, List.singleton_append, List.length_cons]
      congr 2
      push_cast
      omega

/-- The text of a value reads back as the value. -/
theorem exists_ofText_magnitude (style : NumberStyle) (hformat : style.format.IsDecimal) {code : ℕ}
    (hpos : 0 < style.format.units code) : ∃ decimal,
      ofText? (style.magnitude code) = some decimal ∧ decimal.read style.format = code := by
  have hread := read_shortest hformat style.tie hpos
  have hvalue := value_strip 17 (shortest style.format style.tie code)
  rw [← read_congr hvalue] at hread
  generalize hstrip : strip 17 (shortest style.format style.tie code) = decimal at hread
  have hdigits : 0 < decimal.digits := by
    apply Nat.pos_of_ne_zero
    intro hzero
    rw [read_of_digits_eq_zero hzero] at hread
    rw [← hread, BinaryFormat.units_zero] at hpos
    exact absurd hpos (lt_irrefl 0)
  have hsignificant := isSignificant_toDigits hdigits
  unfold magnitude
  simp only [hstrip]
  split_ifs
  · obtain ⟨other, htext, hother⟩ := exists_ofText_layPoint hsignificant
      (decimal.exponent + (Nat.toDigits 10 decimal.digits).length) style.keepsFraction
    refine ⟨other, htext, (read_congr ?_).trans hread⟩
    rw [hother, ofDigits_toDigits, add_sub_cancel_right]
    rfl
  · obtain ⟨other, htext, hother⟩ := exists_ofText_layExponent hsignificant
      (decimal.exponent + (Nat.toDigits 10 decimal.digits).length - 1)
    refine ⟨other, htext, (read_congr ?_).trans hread⟩
    rw [hother, ofDigits_toDigits, sub_add_cancel, add_sub_cancel_right]
    rfl

end NumberStyle

namespace BinaryFormat

/-- A format by which numbers are written and read: it has all their values, and seventeen digits
tell its own values apart. -/
structure IsTextual (format : BinaryFormat) : Prop extends format.IsDecimal where
  binadeSize_le : single.binadeSize ≤ format.binadeSize
  leastExponent_le : single.leastExponent ≤ format.leastExponent

theorem isTextual_single : single.IsTextual := ⟨isDecimal_single, le_rfl, le_rfl⟩

theorem isTextual_double : double.IsTextual := ⟨isDecimal_double, by decide, by decide⟩

def widening (format : BinaryFormat) : ℕ := format.leastExponent - single.leastExponent

/-- Widening a number to another format is exact. -/
theorem IsTextual.units_nearest {format : BinaryFormat} (h : format.IsTextual) (code : ℕ) :
    format.units (format.nearest (single.units code <<< format.widening) 1) =
      single.units code <<< format.widening := by
  obtain ⟨shift, significand, rfl, hlow, hhigh⟩ := single.exists_significand code
  have hbits : significand < 2 * format.binadeSize :=
    hhigh.trans_le (Nat.mul_le_mul_left 2 h.binadeSize_le)
  obtain ⟨other, hother⟩ := format.exists_units_eq significand (shift + format.widening) hbits
  rw [single.units_shift hlow hhigh.le, ← Nat.shiftLeft_eq, ← Nat.shiftLeft_add, ← hother,
    format.nearest_units]

end BinaryFormat

/-- A style whose texts are read as numbers, and none of them as a natural. -/
structure NumberStyle.IsReadable (style : NumberStyle) : Prop where
  isTextual : style.format.IsTextual
  keepsFraction : style.keepsFraction

theorem NumberStyle.isReadable_wide : wide.IsReadable := ⟨BinaryFormat.isTextual_double, rfl⟩

namespace Single

variable {format : BinaryFormat} {x : Single} {negative : Bool} {decimal : Decimal}

/-- The number nearest to a decimal, which is first rounded to a value of another format. -/
def ofDecimal (format : BinaryFormat) (negative : Bool) (decimal : Decimal) : Single :=
  round negative (format.units (decimal.read format)) (1 <<< format.widening)

/-- The number that a numeral with or without a minus sign stands for. -/
def ofText? (format : BinaryFormat) : List Char → Option Single
  | '-' :: text => (Decimal.ofText? text).map (ofDecimal format true)
  | text => (Decimal.ofText? text).map (ofDecimal format false)

/-- A decimal that is read as a value of single precision is read as its number. -/
theorem ofDecimal_of_read {code : Fin BinaryFormat.single.finiteCount}
    (h : format.units (decimal.read format) =
      BinaryFormat.single.units code <<< format.widening) (negative : Bool) :
    ofDecimal format negative decimal = finite negative code := by
  have hone : 0 < 1 <<< format.widening := by
    rw [Nat.one_shiftLeft]
    exact Nat.two_pow_pos _
  have hnearest : BinaryFormat.single.nearest (BinaryFormat.single.units code <<< format.widening)
      (1 <<< format.widening) = code := by
    refine (BinaryFormat.single.nearest_congr hone Nat.one_pos ?_).trans
      (BinaryFormat.single.nearest_units code)
    rw [Nat.shiftLeft_eq, Nat.one_shiftLeft, Nat.mul_one]
  rw [ofDecimal, h, round_of_lt (hnearest.trans_lt code.isLt)]
  simp only [hnearest]

theorem decimalText_minus (rest : List Char) : Decimal.ofText? ('-' :: rest) = none := by
  simp [Decimal.ofText?, Decimal.isWhole]

/-- A minus sign in front of a numeral makes its number negative. -/
theorem ofText_sign_append {text : List Char} (h : Decimal.ofText? text = some decimal)
    (negative : Bool) :
    ofText? format ((if negative then ['-'] else []) ++ text) =
      some (ofDecimal format negative decimal) := by
  cases negative with
  | true =>
    change (Decimal.ofText? text).map _ = _
    rw [h, Option.map_some]
  | false =>
    change ofText? format text = _
    unfold ofText?
    split
    · rw [decimalText_minus] at h
      cases h
    · rw [h, Option.map_some]

def magnitudeText (style : NumberStyle) (code : Fin BinaryFormat.single.finiteCount) : List Char :=
  if code = zeroCode then '0' :: (if style.keepsFraction then ['.', '0'] else [])
  else style.magnitude
    (style.format.nearest (BinaryFormat.single.units code <<< style.format.widening) 1)

/-- A number is its sign and the text of its magnitude. -/
theorem toList_text (style : NumberStyle) (negative : Bool)
    (code : Fin BinaryFormat.single.finiteCount) :
    (style.text (finite negative code)).toList =
      (if negative then ['-'] else []) ++ magnitudeText style code := by
  rw [NumberStyle.text.eq_def]
  exact String.toList_ofList

/-- Zero has a text of its own; the shortest digits of other numbers are read back. -/
theorem exists_ofText_magnitudeText {style : NumberStyle} (hformat : style.format.IsTextual)
    (code : Fin BinaryFormat.single.finiteCount) : ∃ decimal,
      Decimal.ofText? (magnitudeText style code) = some decimal ∧
        ∀ negative, ofDecimal style.format negative decimal = finite negative code := by
  unfold magnitudeText
  by_cases hzero : code = zeroCode
  · have hread : ∃ decimal, Decimal.ofText?
        ('0' :: (if style.keepsFraction then ['.', '0'] else [])) = some decimal ∧
          decimal.digits = 0 := by
      cases style.keepsFraction
      · exact ⟨⟨0, 0⟩, by decide, rfl⟩
      · exact ⟨⟨0, -1⟩, by decide, rfl⟩
    obtain ⟨decimal, htext, hdigits⟩ := hread
    rw [if_pos hzero]
    refine ⟨decimal, htext, fun negative ↦ ofDecimal_of_read ?_ negative⟩
    rw [Decimal.read_of_digits_eq_zero hdigits, hzero]
    simp [zeroCode, BinaryFormat.units_zero]
  · have hpos : 0 < BinaryFormat.single.units code := by
      rw [← BinaryFormat.single.units_zero, BinaryFormat.single.units_lt_units_iff]
      exact Nat.pos_of_ne_zero fun h ↦ hzero (Fin.ext h)
    have hunits := hformat.units_nearest code
    have hwide : 0 < style.format.units (style.format.nearest
        (BinaryFormat.single.units code <<< style.format.widening) 1) := by
      rw [hunits, Nat.shiftLeft_eq]
      exact Nat.mul_pos hpos (Nat.two_pow_pos _)
    obtain ⟨decimal, htext, hread⟩ := style.exists_ofText_magnitude hformat.toIsDecimal hwide
    rw [if_neg hzero]
    refine ⟨decimal, htext, fun negative ↦ ofDecimal_of_read ?_ negative⟩
    rw [hread, hunits]

/-- The text of a finite number reads back as the number. -/
theorem ofText_text {style : NumberStyle} (hformat : style.format.IsTextual) (hx : x.isFinite) :
    ofText? style.format (style.text x).toList = some x := by
  obtain ⟨negative, code, rfl⟩ := isFinite_iff.mp hx
  obtain ⟨decimal, htext, hdecimal⟩ := exists_ofText_magnitudeText hformat code
  rw [toList_text, ofText_sign_append htext, hdecimal]

/-- What can be read as a numeral consists of its characters. -/
theorem isCharacter_of_mem_text {style : NumberStyle} (hformat : style.format.IsTextual)
    (hx : x.isFinite) : ∀ c ∈ (style.text x).toList, Decimal.isCharacter c := by
  obtain ⟨negative, code, rfl⟩ := isFinite_iff.mp hx
  obtain ⟨decimal, htext, -⟩ := exists_ofText_magnitudeText hformat code
  intro c hc
  rw [toList_text, List.mem_append] at hc
  rcases hc with hc | hc
  · have hminus : (if negative then ['-'] else []).all Decimal.isCharacter := by
      cases negative <;> decide
    exact List.all_eq_true.mp hminus c hc
  · exact Decimal.isCharacter_of_ofText htext c hc

/-- A style that keeps the fractions of whole numbers tells them from naturals by a point or an
exponent. -/
theorem exists_not_isDigit_mem_text {style : NumberStyle} (hstyle : style.keepsFraction)
    (hx : x.isFinite) : ∃ c ∈ (style.text x).toList, c.isDigit = false := by
  obtain ⟨negative, code, rfl⟩ := isFinite_iff.mp hx
  have hmagnitude (code : ℕ) : ∃ c ∈ style.magnitude code, c.isDigit = false := by
    unfold NumberStyle.magnitude
    dsimp only
    split_ifs
    · refine ⟨'.', ?_, by decide⟩
      unfold NumberStyle.layPoint
      split_ifs
      · simp
      · dsimp only
        split_ifs <;> simp
    · exact ⟨'e', by simp [NumberStyle.layExponent], by decide⟩
  have hbody : ∃ c ∈ magnitudeText style code, c.isDigit = false := by
    unfold magnitudeText
    split_ifs
    · exact ⟨'.', by simp, by decide⟩
    · exact hmagnitude _
  obtain ⟨c, hc, hdigit⟩ := hbody
  exact ⟨c, by rw [toList_text]; exact List.mem_append_right _ hc, hdigit⟩

/-- The text is a numeral with so many places, and none such is nearer to the number. -/
def IsRounding (places : ℕ) (x : Single) (text : List Char) : Prop :=
  ∃ digits decimal, text = (if x.isNegative then ['-'] else []) ++ digits ∧
    Decimal.ofText? digits = some decimal ∧ decimal.exponent = -(places : ℤ) ∧
    abs (decimal.value - abs x.value) ≤ 1 / (2 * 10 ^ places)

theorem abs_value_finite (negative : Bool) (code : Fin BinaryFormat.single.finiteCount) :
    abs (finite negative code).value = BinaryFormat.single.units code / unitsPerOne := by
  have hunits : (0 : ℚ) ≤ BinaryFormat.single.units code / unitsPerOne :=
    div_nonneg (Nat.cast_nonneg _) unitsPerOne_pos.le
  rw [value_finite, mul_div_assoc]
  cases negative
  · rw [if_neg Bool.false_ne_true, one_mul, abs_of_nonneg hunits]
  · rw [if_pos rfl, neg_one_mul, abs_neg, abs_of_nonneg hunits]

/-- Rounding to a multiple of a decimal place is off by at most half a place. -/
theorem abs_roundQuotient_div_sub_le (code places : ℕ) :
    abs ((roundQuotient .toEven (BinaryFormat.single.units code * 10 ^ places)
        BinaryFormat.single.one : ℚ) * 10 ^ (-(places : ℤ)) -
      BinaryFormat.single.units code / unitsPerOne) ≤ 1 / (2 * 10 ^ places) := by
  have hround := (two_mul_natAbs_roundQuotient_sub_le
    (BinaryFormat.single.units code * 10 ^ places) one_pos).1
  generalize roundQuotient .toEven (BinaryFormat.single.units code * 10 ^ places)
    BinaryFormat.single.one = scaled at hround ⊢
  have hunits := unitsPerOne_pos
  have hscale : (0 : ℚ) < 10 ^ places := by positivity
  have hcast : 2 * abs ((scaled : ℚ) * unitsPerOne - BinaryFormat.single.units code * 10 ^ places) ≤
      unitsPerOne := by
    have hround' : ((2 * (scaled * BinaryFormat.single.one -
        (BinaryFormat.single.units code * 10 ^ places : ℕ) : ℤ).natAbs : ℕ) : ℚ) ≤
          BinaryFormat.single.one := Nat.cast_le.mpr hround
    rw [Nat.cast_mul, Nat.cast_natAbs] at hround'
    push_cast at hround'
    exact hround'
  have hdifference : (scaled : ℚ) * 10 ^ (-(places : ℤ)) -
      BinaryFormat.single.units code / unitsPerOne =
        (scaled * unitsPerOne - BinaryFormat.single.units code * 10 ^ places) /
          (unitsPerOne * 10 ^ places) := by
    rw [zpow_neg, zpow_natCast]
    field_simp
  rw [hdifference, abs_div, abs_of_pos (mul_pos hunits hscale),
    div_le_div_iff₀ (mul_pos hunits hscale) (by positivity)]
  nlinarith only [mul_le_mul_of_nonneg_right hcast hscale.le]

/-- The digits are those of the rounded number of places, padded to their count. -/
theorem isRounding_fixed (hx : x.isFinite) {places : ℕ} (hplaces : 0 < places) :
    IsRounding places x (x.fixed places).toList := by
  obtain ⟨negative, code, rfl⟩ := isFinite_iff.mp hx
  have hscale : 0 < 10 ^ places := Nat.pow_pos (by decide)
  have herror := abs_roundQuotient_div_sub_le code places
  rw [fixed.eq_def]
  simp only [if_neg hplaces.ne', String.toList_ofList, Nat.pow_eq]
  generalize roundQuotient .toEven (BinaryFormat.single.units code * 10 ^ places)
    BinaryFormat.single.one = scaled at herror ⊢
  have hmod : scaled % 10 ^ places < 10 ^ places := Nat.mod_lt scaled hscale
  have hlength : (Nat.toDigits 10 (scaled % 10 ^ places)).length ≤ places :=
    (Nat.length_toDigits_le_iff (by decide) hplaces).mpr hmod
  generalize hpadded : NumberStyle.zeros (places - (Nat.toDigits 10 (scaled % 10 ^ places)).length) ++
    Nat.toDigits 10 (scaled % 10 ^ places) = padded
  have hcount : padded.length = places := by
    rw [← hpadded, NumberStyle.zeros, List.length_append, List.length_replicate]
    omega
  have hdigits : padded.all Char.isDigit := by
    rw [← hpadded, List.all_append, Decimal.isDigit_zeros, Decimal.isDigit_toDigits]
    rfl
  have hvalue : Decimal.ofDigits (Nat.toDigits 10 (scaled / 10 ^ places) ++ padded) = scaled := by
    have hfraction : Decimal.ofDigits padded = scaled % 10 ^ places := by
      rw [← hpadded, Decimal.ofDigits_zeros_append, Decimal.ofDigits_toDigits]
    rw [Decimal.ofDigits, Nat.ofDigitChars_append, Nat.ofDigitChars_eq_ofDigitChars_zero, hcount,
      Nat.ofDigitChars_ten_toDigits, ← Decimal.ofDigits, hfraction]
    exact Nat.div_add_mod scaled (10 ^ places)
  refine ⟨Nat.toDigits 10 (scaled / 10 ^ places) ++ Decimal.pointed padded ++ [],
    ⟨scaled, -(places : ℤ)⟩, ?_, ?_, rfl, ?_⟩
  · cases padded with
    | nil => exact absurd hcount hplaces.ne
    | cons c others => simp [Decimal.pointed, isNegative]
  · rw [Decimal.ofText_append (Decimal.isWhole_toDigits _) hdigits (by simp), hvalue, hcount]
    simp [Decimal.power?]
  · rw [abs_value_finite]
    exact herror

end Single

end BatteryTelemetry
