import BatteryTelemetry.Number.BinaryFormat

/-!
# Shortest decimals

A positive value of a binary format is written with the fewest decimal digits that read back as
the same value. For each number of digits the two neighbours of the value on that decimal grid are
read back by rounding; the first grid with a hit wins, and of two hits the nearer one.
`shortestOn_reads_back` says that whatever a grid yields reads back.
-/

namespace BatteryTelemetry

/-- The number `digits · 10 ^ exponent`. -/
structure Decimal where
  digits : Nat
  exponent : Int
deriving DecidableEq, Repr

namespace Decimal

def ratio (decimal : Decimal) : Nat × Nat :=
  if 0 ≤ decimal.exponent then (decimal.digits * Nat.pow 10 decimal.exponent.toNat, 1)
  else (decimal.digits, Nat.pow 10 (-decimal.exponent).toNat)

/-- The code of the value of a format that a decimal rounds to. -/
def read (format : BinaryFormat) (decimal : Decimal) : Nat :=
  format.nearest (decimal.ratio.1 * format.one) decimal.ratio.2

def length (n : Nat) : Nat := (Nat.toDigits 10 n).length

/-- The power of ten at or below the positive quotient `num / den`. -/
def magnitude (num den : Nat) : Int :=
  if den ≤ num then length (num / den) - 1 else -(length ((den - 1) / num) : Int)

/-- The part of `num / den` below the grid point `floor · 10 ^ exponent` and above it, as the
numerators of two quotients over one denominator. -/
def gaps (num den floor : Nat) (exponent : Int) : Nat × Nat :=
  if 0 ≤ exponent then
    let step := den * Nat.pow 10 exponent.toNat
    (num - floor * step, (floor + 1) * step - num)
  else
    let scaled := num * Nat.pow 10 (-exponent).toNat
    (scaled - floor * den, (floor + 1) * den - scaled)

/-- The multiple of `10 ^ exponent` at or below the quotient `num / den`. -/
def floorOn (num den : Nat) (exponent : Int) : Nat :=
  if 0 ≤ exponent then num / (den * Nat.pow 10 exponent.toNat)
  else num * Nat.pow 10 (-exponent).toNat / den

/-- The neighbour of a value on the grid of `10 ^ exponent` that reads back as the value, the
nearer one if both do. -/
def shortestOn (format : BinaryFormat) (tie : Tie) (code : Nat) (exponent : Int) :
    Option Decimal :=
  let num := format.units code
  let floor := floorOn num format.one exponent
  let below : Decimal := ⟨floor, exponent⟩
  let above : Decimal := ⟨floor + 1, exponent⟩
  let (down, up) := gaps num format.one floor exponent
  let raised := decide (up < down) || (decide (up = down) && tie.raises floor)
  match decide (below.read format = code), decide (above.read format = code) with
  | true, true => some (if raised then above else below)
  | true, false => some below
  | false, true => some above
  | false, false => none

/-- The shortest decimal that reads back as the positive value with this code. Seventeen digits
identify every value of the formats in use. -/
def shortest (format : BinaryFormat) (tie : Tie) (code : Nat) : Decimal :=
  let top := magnitude (format.units code) format.one
  let onGrid (count : Nat) := shortestOn format tie code (top - count)
  ((List.range 17).findSome? onGrid).getD ⟨format.units code, 0⟩

def strip : Nat → Decimal → Decimal
  | 0, decimal => decimal
  | fuel + 1, decimal =>
    if decimal.digits ≠ 0 ∧ decimal.digits % 10 = 0 then
      strip fuel ⟨decimal.digits / 10, decimal.exponent + 1⟩
    else decimal

/-- Digits that are taken for a value tell it from all others. -/
theorem shortestOn_reads_back {format : BinaryFormat} {tie : Tie} {code : Nat} {exponent : Int}
    {decimal : Decimal} (h : shortestOn format tie code exponent = some decimal) :
    decimal.read format = code := by
  unfold shortestOn at h
  grind

end Decimal

end BatteryTelemetry
