import BatteryTelemetry.Proofs.Number.Exact

/-!
# The order of single-precision numbers

Adding a finite number, and multiplying or dividing by a positive one, keeps the order of two
numbers. This holds also where a result overflows or an operand is infinite, because rounding is
monotone and the infinities end the order; only NaN is outside it. Keys tell all numbers apart
but the two zeros (`eq_of_key_eq`).
-/

namespace BatteryTelemetry.Single

/-- NaN is not even equal to itself in order. -/
theorem le_refl_iff {x : Single} : x ≤ x ↔ x ≠ nan :=
  ⟨fun h ↦ h.1, fun h ↦ ⟨h, h, le_rfl⟩⟩

protected theorem le_trans {x y z : Single} (hxy : x ≤ y) (hyz : y ≤ z) : x ≤ z :=
  ⟨hxy.1, hyz.2.1, hxy.2.2.trans hyz.2.2⟩

protected theorem lt_of_le_of_lt {x y z : Single} (hxy : x ≤ y) (hyz : y < z) : x < z :=
  ⟨hxy.1, hyz.2.1, hxy.2.2.trans_lt hyz.2.2⟩

theorem not_lt_iff {x y : Single} (hx : x ≠ nan) (hy : y ≠ nan) : ¬x < y ↔ y ≤ x := by
  simp [lt_iff, le_iff, hx, hy]

/-- Infinities lie beyond all finite numbers. -/
theorem abs_key_lt_of_isFinite {x : Single} (h : x.isFinite) :
    |x.key| < BinaryFormat.single.finiteCount := by
  obtain ⟨negative, code, rfl⟩ := isFinite_iff.mp h
  have hcode := Int.ofNat_lt.mpr code.isLt
  cases negative
  · exact (abs_of_nonneg (Int.natCast_nonneg _)).trans_lt hcode
  · exact ((abs_neg _).trans (abs_of_nonneg (Int.natCast_nonneg _))).trans_lt hcode

theorem abs_key_le (x : Single) : |x.key| ≤ BinaryFormat.single.finiteCount := by
  have hcount := Int.natCast_nonneg BinaryFormat.single.finiteCount
  cases x with
  | nan => exact abs_zero.trans_le hcount
  | infinite negative =>
    cases negative
    · exact (abs_of_nonneg hcount).le
    · exact ((abs_neg _).trans (abs_of_nonneg hcount)).le
  | finite negative code => exact (abs_key_lt_of_isFinite rfl).le

theorem negative_infinite_le {x : Single} (h : x ≠ nan) : infinite true ≤ x :=
  ⟨by simp, h, (abs_le.mp (abs_key_le x)).1⟩

theorem le_positive_infinite {x : Single} (h : x ≠ nan) : x ≤ infinite false :=
  ⟨h, by simp, (abs_le.mp (abs_key_le x)).2⟩

/-- Two ordered numbers are finite unless one of them ends the order. -/
theorem le_cases {x y : Single} (h : x ≤ y) :
    x = infinite true ∨ y = infinite false ∨ x.isFinite ∧ y.isFinite := by
  obtain ⟨hx, hy, hkey⟩ := h
  cases x with
  | nan => exact absurd rfl hx
  | infinite negative =>
    cases negative
    · cases y with
      | nan => exact absurd rfl hy
      | infinite negative =>
        cases negative
        · exact .inr (.inl rfl)
        · exact absurd hkey (by decide)
      | finite negative code =>
        have hlt := (abs_lt.mp (abs_key_lt_of_isFinite (x := finite negative code) rfl)).2
        exact absurd hkey (not_le.mpr hlt)
    · exact .inl rfl
  | finite negative code =>
    cases y with
    | nan => exact absurd rfl hy
    | infinite sign =>
      cases sign
      · exact .inr (.inl rfl)
      · have hlt := (abs_lt.mp (abs_key_lt_of_isFinite (x := finite negative code) rfl)).1
        exact absurd hkey (not_le.mpr hlt)
    | finite sign other => exact .inr (.inr ⟨rfl, rfl⟩)

/-! ## Operations that keep the order -/

/-- An operation that keeps the infinities and the order of finite numbers keeps the order. -/
theorem map_le_map {f : Single → Single} (hlow : f (infinite true) = infinite true)
    (hhigh : f (infinite false) = infinite false) (hnan : ∀ z, z ≠ nan → f z ≠ nan)
    (hkey : ∀ u v : Single, u.isFinite → v.isFinite → u.key ≤ v.key → (f u).key ≤ (f v).key)
    {x y : Single} (h : x ≤ y) : f x ≤ f y := by
  obtain ⟨hx, hy, hxy⟩ := h
  rcases le_cases ⟨hx, hy, hxy⟩ with rfl | rfl | ⟨hxfin, hyfin⟩
  · rw [hlow]
    exact negative_infinite_le (hnan y hy)
  · rw [hhigh]
    exact le_positive_infinite (hnan x hx)
  · exact ⟨hnan x hx, hnan y hy, hkey x y hxfin hyfin hxy⟩

/-- The key of a finite number determines its value, and a zero has no sign in it. -/
theorem value_eq_of_isFinite {x : Single} (h : x.isFinite) :
    x.value = x.key.sign * BinaryFormat.single.units x.key.natAbs / unitsPerOne := by
  obtain ⟨negative, code, rfl⟩ := isFinite_iff.mp h
  rcases Nat.eq_zero_or_pos (code : ℕ) with hzero | hpos
  · cases negative <;> simp [value_finite, key, hzero, BinaryFormat.units_zero]
  · have hsign : (code : ℤ).sign = 1 := Int.sign_eq_one_of_pos (Int.natCast_pos.mpr hpos)
    cases negative <;> simp [value_finite, key, hsign]

/-- Finite numbers in the order of their keys are in the order of their values. -/
theorem value_le_value {x y : Single} (hx : x.isFinite) (hy : y.isFinite) (h : x.key ≤ y.key) :
    x.value ≤ y.value := by
  by_contra hlt
  have hkey := nearestKey_mono (not_le.mp hlt).le
  rw [nearestKey_value hx, nearestKey_value hy] at hkey
  apply hlt (le_of_eq _)
  rw [value_eq_of_isFinite hx, value_eq_of_isFinite hy, le_antisymm h hkey]

theorem key_lt_key {x y : Single} (hx : x.isFinite) (hy : y.isFinite) (h : x.value < y.value) :
    x.key < y.key := by
  by_contra hle
  exact absurd (value_le_value hy hx (not_lt.mp hle)) (not_le.mpr h)

/-- Finite numbers are in the order of their values. -/
theorem lt_iff_value_lt {x y : Single} (hx : x.isFinite) (hy : y.isFinite) :
    x < y ↔ x.value < y.value := by
  constructor
  · intro h
    by_contra hle
    have hkey := nearestKey_mono (not_lt.mp hle)
    rw [nearestKey_value hx, nearestKey_value hy] at hkey
    exact absurd h.2.2 hkey.not_gt
  · intro h
    refine ⟨?_, ?_, key_lt_key hx hy h⟩
    · rintro rfl
      exact Bool.false_ne_true hx
    · rintro rfl
      exact Bool.false_ne_true hy

theorem value_pos {x : Single} (hx : x.isFinite) (h : 0 < x.key) : 0 < x.value := by
  rw [value_eq_of_isFinite hx, Int.sign_eq_one_of_pos h]
  have hunits : 0 < BinaryFormat.single.units x.key.natAbs := by
    rw [← BinaryFormat.single.units_zero, BinaryFormat.units_lt_units_iff]
    omega
  have hcast : (0 : ℚ) < BinaryFormat.single.units x.key.natAbs := Nat.cast_pos.mpr hunits
  have hone := unitsPerOne_pos
  simpa using div_pos hcast hone

/-- A positive finite number has no minus and is not zero. -/
theorem eq_finite_of_pos {x : Single} (hx : x.isFinite) (h : 0 < x.key) :
    ∃ code, code ≠ zeroCode ∧ x = finite false code := by
  obtain ⟨negative, code, rfl⟩ := isFinite_iff.mp hx
  cases negative
  · refine ⟨code, ?_, rfl⟩
    rintro rfl
    exact absurd h (lt_irrefl 0)
  · exact absurd h (not_lt.mpr (neg_nonpos.mpr (Int.natCast_nonneg _)))

/-- Only infinities of both signs add up to NaN. -/
theorem add_ne_nan {x c : Single} (hx : x ≠ nan) (hc : c.isFinite) : x + c ≠ nan := by
  obtain ⟨t, b, rfl⟩ := isFinite_iff.mp hc
  change x.add _ ≠ nan
  cases x with
  | nan => exact absurd rfl hx
  | infinite s => simp [Single.add]
  | finite s a =>
    simp only [Single.add]
    split_ifs
    · simp
    · exact round_ne_nan _ _ _

protected theorem add_le_add_right {x y c : Single} (hc : c.isFinite) (h : x ≤ y) :
    x + c ≤ y + c := by
  refine map_le_map (f := (· + c)) ?_ ?_ (fun z hz ↦ add_ne_nan hz hc) ?_ h
  · obtain ⟨t, b, rfl⟩ := isFinite_iff.mp hc
    rfl
  · obtain ⟨t, b, rfl⟩ := isFinite_iff.mp hc
    rfl
  · intro u v hu hv huv
    rw [key_add hu hc, key_add hv hc]
    exact nearestKey_mono (add_le_add_left (value_le_value hu hv huv) _)

theorem isFinite_neg {x : Single} (h : x.isFinite) : (-x).isFinite := by
  obtain ⟨s, a, rfl⟩ := isFinite_iff.mp h
  rfl

protected theorem sub_le_sub_right {x y c : Single} (hc : c.isFinite) (h : x ≤ y) :
    x - c ≤ y - c :=
  Single.add_le_add_right (isFinite_neg hc) h

protected theorem mul_le_mul_right {x y c : Single} (hc : c.isFinite) (hpos : 0 < c.key)
    (h : x ≤ y) : x * c ≤ y * c := by
  obtain ⟨b, hb, hcode⟩ := eq_finite_of_pos hc hpos
  refine map_le_map (f := (· * c)) ?_ ?_ ?_ ?_ h
  · subst hcode
    exact if_neg hb
  · subst hcode
    exact if_neg hb
  · intro z hz
    subst hcode
    change z.mul _ ≠ nan
    cases z with
    | nan => exact absurd rfl hz
    | infinite s => simp [Single.mul, hb]
    | finite s a => exact round_ne_nan _ _ _
  · intro u v hu hv huv
    rw [key_mul hu hc, key_mul hv hc]
    exact nearestKey_mono
      (mul_le_mul_of_nonneg_right (value_le_value hu hv huv) (value_pos hc hpos).le)

protected theorem div_le_div_right {x y c : Single} (hc : c.isFinite) (hpos : 0 < c.key)
    (h : x ≤ y) : x / c ≤ y / c := by
  have hvalue := value_pos hc hpos
  obtain ⟨b, hb, hcode⟩ := eq_finite_of_pos hc hpos
  refine map_le_map (f := (· / c)) ?_ ?_ ?_ ?_ h
  · subst hcode
    rfl
  · subst hcode
    rfl
  · intro z hz
    subst hcode
    change z.div _ ≠ nan
    cases z with
    | nan => exact absurd rfl hz
    | infinite s => simp [Single.div]
    | finite s a =>
      simp only [Single.div, if_neg hb]
      exact round_ne_nan _ _ _
  · intro u v hu hv huv
    rw [key_div hu hc hvalue.ne', key_div hv hc hvalue.ne']
    exact nearestKey_mono (div_le_div_of_nonneg_right (value_le_value hu hv huv) hvalue.le)

theorem ofNat_le_ofNat {m n : ℕ} (h : m ≤ n) : ofNat m ≤ ofNat n := by
  refine ⟨ofNat_ne_nan m, ofNat_ne_nan n, ?_⟩
  rw [key_ofNat, key_ofNat]
  exact nearestKey_mono (Nat.cast_le.mpr h)

/-! ## Signs -/

/-- A rounded quotient has its sign even if it is zero. -/
@[simp]
theorem isNegative_round (negative : Bool) (num den : ℕ) :
    (round negative num den).isNegative = negative := by
  rcases lt_or_ge (BinaryFormat.single.nearest num den) BinaryFormat.single.finiteCount with h | h
  · rw [round_of_lt h]
    rfl
  · rw [round_of_le h]
    rfl

@[simp]
theorem isNegative_ofNat (n : ℕ) : (ofNat n).isNegative = false := isNegative_round _ _ _

@[simp]
theorem isNegative_ofRatio (num den : ℕ) : (ofRatio num den).isNegative = false :=
  isNegative_round _ _ _

theorem isNegative_mul {x y : Single} (hx : x.isNegative = false) (hy : y.isNegative = false) :
    (x * y).isNegative = false := by
  change (x.mul y).isNegative = false
  cases x with
  | nan => rfl
  | infinite s =>
    obtain rfl : s = false := hx
    cases y with
    | nan => rfl
    | infinite t =>
      obtain rfl : t = false := hy
      rfl
    | finite t b =>
      obtain rfl : t = false := hy
      simp only [Single.mul]
      split_ifs <;> rfl
  | finite s a =>
    obtain rfl : s = false := hx
    cases y with
    | nan => rfl
    | infinite t =>
      obtain rfl : t = false := hy
      simp only [Single.mul]
      split_ifs <;> rfl
    | finite t b =>
      obtain rfl : t = false := hy
      exact isNegative_round _ _ _

/-- The first number behind zero takes everything that is at least as great. -/
theorem nearest_pos {n : ℕ} (h : 0 < n) : 0 < BinaryFormat.single.nearest n 1 := by
  have hone : BinaryFormat.single.nearest 1 1 = 1 := BinaryFormat.single.nearest_units 1
  have hmono : BinaryFormat.single.nearest 1 1 ≤ BinaryFormat.single.nearest n 1 :=
    BinaryFormat.nearest_mono _ Nat.one_pos Nat.one_pos (by omega)
  exact Nat.lt_of_lt_of_le (hone ▸ Nat.one_pos) hmono

theorem round_ne_zero {n : ℕ} (h : 0 < n) (negative sign : Bool) :
    round negative n 1 ≠ finite sign zeroCode := by
  have hpos := nearest_pos h
  rcases lt_or_ge (BinaryFormat.single.nearest n 1) BinaryFormat.single.finiteCount with hlt | hle
  · rw [round_of_lt hlt]
    intro heq
    have hcode := congrArg Fin.val (Single.finite.inj heq).2
    exact absurd hcode hpos.ne'
  · rw [round_of_le hle]
    simp

/-- A sum is the negative zero only if both terms have a minus. -/
theorem isNegative_of_add_eq {x y : Single} (h : x + y = finite true zeroCode) :
    x.isNegative ∧ y.isNegative := by
  change x.add y = _ at h
  cases x with
  | nan => simp [Single.add] at h
  | infinite s =>
    cases y with
    | nan | finite => simp [Single.add] at h
    | infinite t =>
      simp only [Single.add] at h
      split_ifs at h
  | finite s a =>
    cases y with
    | nan | infinite => simp [Single.add] at h
    | finite t b =>
      simp only [Single.add] at h
      split_ifs at h with hsum
      · have hsign := (Single.finite.inj h).1
        simpa [isNegative] using hsign
      · exact absurd h (round_ne_zero (Int.natAbs_pos.mpr hsum) _ _)

/-- But for the negative zero the sign tells on which side of zero a number is. -/
theorem isNegative_iff_key_neg {x : Single} (hzero : x ≠ finite true zeroCode) :
    x.isNegative ↔ x.key < 0 := by
  cases x with
  | nan => simp [isNegative, key]
  | infinite negative => cases negative <;> decide
  | finite negative code =>
    cases negative
    · simp [isNegative, key]
    · have hne : (code : ℕ) ≠ 0 := fun heq ↦ hzero (by rw [Fin.ext (b := zeroCode) heq])
      have hpos : (0 : ℤ) < (code : ℕ) := Int.natCast_pos.mpr (Nat.pos_of_ne_zero hne)
      simpa [isNegative, key] using hpos

theorem eq_infinite_of_abs_key {x : Single} (h : |x.key| = BinaryFormat.single.finiteCount) :
    x = infinite x.isNegative := by
  cases x with
  | nan => exact absurd h (by decide)
  | infinite negative => rfl
  | finite negative code => exact absurd h (abs_key_lt_of_isFinite rfl).ne

/-- Off the negative zero a number is determined by its key. -/
theorem eq_of_key_eq {x y : Single} (hx : x ≠ nan) (hy : y ≠ nan)
    (hxzero : x ≠ finite true zeroCode) (hyzero : y ≠ finite true zeroCode)
    (h : x.key = y.key) : x = y := by
  have hsign : x.isNegative = y.isNegative := by
    rw [Bool.eq_iff_iff, isNegative_iff_key_neg hxzero, isNegative_iff_key_neg hyzero, h]
  cases x with
  | nan => exact absurd rfl hx
  | infinite s =>
    have habs : |y.key| = BinaryFormat.single.finiteCount := by
      rw [← h]
      cases s <;> decide
    rw [eq_infinite_of_abs_key habs, ← hsign]
    rfl
  | finite s a =>
    cases y with
    | nan => exact absurd rfl hy
    | infinite t =>
      have habs : |(finite s a).key| = BinaryFormat.single.finiteCount := by
        rw [h]
        cases t <;> decide
      exact absurd habs (abs_key_lt_of_isFinite rfl).ne
    | finite t b =>
      obtain rfl : s = t := hsign
      have hcode : (a : ℕ) = b := by cases s <;> simpa [key] using h
      rw [Fin.ext hcode]

theorem zero_eq : (0 : Single) = finite false zeroCode := by decide

/-- A finite number less itself is the positive zero, whatever its sign. -/
protected theorem sub_self {x : Single} (h : x.isFinite) : x - x = 0 := by
  obtain ⟨negative, code, rfl⟩ := isFinite_iff.mp h
  change Single.add (finite negative code) (finite (!negative) code) = 0
  have hsum : signedUnits negative code + signedUnits (!negative) code = 0 := by
    cases negative <;> simp [signedUnits]
  rw [Single.add, if_pos hsum, zero_eq]
  cases negative <;> rfl

protected theorem zero_div {x : Single} (h : x.isFinite) (hpos : 0 < x.key) : 0 / x = 0 := by
  obtain ⟨code, hcode, rfl⟩ := eq_finite_of_pos h hpos
  have hunits : 0 < BinaryFormat.single.units code := by
    rw [← BinaryFormat.single.units_zero, BinaryFormat.units_lt_units_iff]
    exact Nat.pos_of_ne_zero fun heq ↦ hcode (Fin.ext heq)
  have hnearest := nearest_zero hunits
  rw [zero_eq]
  change Single.div (finite false zeroCode) (finite false code) = _
  rw [Single.div, if_neg hcode, zeroCode, BinaryFormat.units_zero, Nat.zero_mul,
    round_of_lt (hnearest.trans_lt (by decide))]
  exact congrArg (finite _) (Fin.ext hnearest)

end BatteryTelemetry.Single
