/-!
# Character sets

A set of characters is given by the code points at which membership changes, in ascending order:
a character is in the set if an odd number of them lie at or below it.
-/

namespace BatteryTelemetry

/-- Characters by the code points at which membership changes. -/
structure CharacterSet where
  boundaries : Array Nat

def CharacterSet.contains (set : CharacterSet) (c : Char) : Bool :=
  set.boundaries.countP (· ≤ c.toNat) % 2 == 1

end BatteryTelemetry
