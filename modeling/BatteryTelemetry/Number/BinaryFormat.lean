import BatteryTelemetry.Number.Rounding

/-!
# Binary floating-point formats

The non-negative values of a binary format are numbered in ascending order by a *code*, which is
the bit pattern without its sign. Every value is a whole number of least positive values, so exact
arithmetic on a format is arithmetic on these *units*, and rounding takes a quotient of naturals
to the code of the nearest value. `nearest_units` says that a value of the format is kept.
-/

namespace BatteryTelemetry

/-- The shape of a binary format. -/
structure BinaryFormat where
  /-- Bits of the significand after its leading one. -/
  fractionBits : Nat
  /-- The least positive value is two to the minus this power. -/
  leastExponent : Nat
  /-- Codes below this number are finite values. -/
  finiteCount : Nat
deriving DecidableEq, Repr

namespace BinaryFormat

/-- Single precision: 24 significant bits in 32. -/
def single : BinaryFormat := ⟨23, 149, 0x7f800000⟩

/-- Double precision: 53 significant bits in 64. -/
def double : BinaryFormat := ⟨52, 1074, 0x7ff0000000000000⟩

/-- How many codes share a binade, which is a range of values with one spacing. -/
def binadeSize (format : BinaryFormat) : Nat := 1 <<< format.fractionBits

/-- How many least positive values make up the value with this code. The first binade is evenly
spaced down to zero; every later one doubles the spacing. -/
def units (format : BinaryFormat) (code : Nat) : Nat :=
  let binade := code / format.binadeSize
  let fraction := code % format.binadeSize
  if binade = 0 then fraction else (format.binadeSize + fraction) <<< (binade - 1)

/-- The code of the value nearest to `num / den` units, a tie going to the even code. Codes run
on past the finite ones, so a result of at least `finiteCount` is an overflow. -/
def nearest (format : BinaryFormat) (num den : Nat) : Nat :=
  let shift := Nat.log2 (num / den) - format.fractionBits
  shift * format.binadeSize + roundQuotient .toEven num (den <<< shift)

def one (format : BinaryFormat) : Nat := 1 <<< format.leastExponent

theorem binadeSize_pos (format : BinaryFormat) : 0 < format.binadeSize := by
  rw [binadeSize, Nat.one_shiftLeft]
  exact Nat.two_pow_pos _

theorem units_zero (format : BinaryFormat) : format.units 0 = 0 := by
  simp [units]

/-- Below the second binade a code counts its own units. -/
theorem units_of_lt {format : BinaryFormat} {code : Nat} (h : code < format.binadeSize) :
    format.units code = code := by
  simp [units, Nat.div_eq_of_lt h, Nat.mod_eq_of_lt h]

/-- In the later binades a code counts units of a greater spacing. -/
theorem units_of_div_eq {format : BinaryFormat} {code binade : Nat}
    (h : code / format.binadeSize = binade + 1) :
    format.units code = (format.binadeSize + code % format.binadeSize) <<< binade := by
  simp [units, h]

/-- A number between the powers of two around a binade has its logarithm. -/
theorem log2_shiftLeft (format : BinaryFormat) (binade : Nat) {significand : Nat}
    (hlow : format.binadeSize ≤ significand) (hhigh : significand < 2 * format.binadeSize) :
    Nat.log2 (significand <<< binade) = format.fractionBits + binade := by
  have hpos := format.binadeSize_pos
  rw [binadeSize, Nat.one_shiftLeft] at *
  rw [Nat.shiftLeft_eq, Nat.log2_eq_iff]
  · constructor
    · rw [Nat.pow_add]
      exact Nat.mul_le_mul_right _ hlow
    · rw [show format.fractionBits + binade + 1 = (format.fractionBits + 1) + binade by omega,
        Nat.pow_add]
      exact Nat.mul_lt_mul_of_pos_right (by rw [Nat.pow_succ]; omega) (Nat.two_pow_pos _)
  · exact Nat.ne_of_gt (Nat.mul_pos (by omega) (Nat.two_pow_pos _))

/-- A value of the format is rounded to itself. -/
theorem nearest_units (format : BinaryFormat) (code : Nat) :
    format.nearest (format.units code) 1 = code := by
  have hsplit := Nat.div_add_mod code format.binadeSize
  have hlt := Nat.mod_lt code format.binadeSize_pos
  by_cases hb : code / format.binadeSize = 0
  · have hcode : code < format.binadeSize := by
      rw [hb] at hsplit
      omega
    have hshift : Nat.log2 code - format.fractionBits = 0 := by
      rcases Nat.eq_zero_or_pos code with rfl | hc
      · simp
      · rw [binadeSize, Nat.one_shiftLeft] at hcode
        have hlog := (Nat.log2_lt (Nat.ne_of_gt hc)).2 hcode
        omega
    have hround := roundQuotient_mul .toEven code Nat.one_pos
    simp only [Nat.mul_one] at hround
    simp [nearest, units_of_lt hcode, hshift, hround]
  · obtain ⟨binade, hbinade⟩ := Nat.exists_eq_succ_of_ne_zero hb
    have hunits := units_of_div_eq hbinade
    have hlow : format.binadeSize ≤ format.binadeSize + code % format.binadeSize := by omega
    have hlog := format.log2_shiftLeft binade hlow (by omega)
    have hround := roundQuotient_mul .toEven (format.binadeSize + code % format.binadeSize)
      (Nat.two_pow_pos binade)
    have hspan : format.binadeSize * (binade + 1) =
        binade * format.binadeSize + format.binadeSize := by
      rw [Nat.mul_succ, Nat.mul_comm]
    rw [hbinade, hspan] at hsplit
    rw [nearest, hunits, Nat.div_one, hlog, Nat.add_sub_cancel_left, Nat.one_shiftLeft,
      Nat.shiftLeft_eq, hround]
    omega

end BinaryFormat

end BatteryTelemetry
