/-!
# Reading unsigned numerals

A numeral is one or more digits of a radix, with an optional plus sign, whose value is at most a
limit. Digits are read from left to right and the first problem met is reported, so a numeral with
a bad digit after an excessive value is too large.
-/

namespace BatteryTelemetry

inductive NumeralFault where
  | empty
  | invalidDigit
  | tooLarge
deriving DecidableEq, Repr

def NumeralFault.message : NumeralFault → String
  | .empty => "cannot parse integer from empty string"
  | .invalidDigit => "invalid digit found in string"
  | .tooLarge => "number too large to fit in target type"

namespace Numeral

/-- The value of a digit below the radix, letters counting on from ten in either case. -/
def digit? (radix : Nat) (c : Char) : Option Nat :=
  let n := c.toNat
  let value :=
    if 48 ≤ n ∧ n ≤ 57 then n - 48
    else if 65 ≤ n ∧ n ≤ 90 then n - 55
    else if 97 ≤ n ∧ n ≤ 122 then n - 87
    else radix
  if value < radix then some value else none

/-- Reads digits on from the value of those before them. -/
def readDigits (radix limit value : Nat) : List Char → Except NumeralFault Nat
  | [] => .ok value
  | c :: rest =>
    match digit? radix c with
    | none => .error .invalidDigit
    | some d =>
      let next := value * radix + d
      if limit < next then .error .tooLarge else readDigits radix limit next rest

/-- Reads a numeral of at most `limit`. -/
def read (radix limit : Nat) (text : List Char) : Except NumeralFault Nat :=
  match text with
  | [] => .error .empty
  | ['+'] => .error .invalidDigit
  | '+' :: digits => readDigits radix limit 0 digits
  | digits => readDigits radix limit 0 digits

/-- A natural with at least `width` digits, padded with zeros. -/
def padded (radix width n : Nat) : List Char :=
  let digits := Nat.toDigits radix n
  List.replicate (width - digits.length) '0' ++ digits

end Numeral

end BatteryTelemetry
