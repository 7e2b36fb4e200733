/-!
# Rounding a quotient to a natural number

A quotient of two naturals is rounded to the nearest natural, and what happens half way between
two of them is a parameter. The two statements at the end say that an exact quotient is kept and
that the result is the floor of the quotient or the number after it.
-/

namespace BatteryTelemetry

/-- What becomes of a quotient that lies half way between two naturals. -/
inductive Tie where
  | toEven
  | up
deriving DecidableEq, Repr

/-- Whether the quotient half way above `floor` goes up. -/
def Tie.raises (tie : Tie) (floor : Nat) : Bool :=
  match tie with
  | .toEven => floor % 2 == 1
  | .up => true

def roundQuotient (tie : Tie) (num den : Nat) : Nat :=
  let floor := num / den
  let excess := 2 * (num % den)
  if excess < den then floor
  else if den < excess then floor + 1
  else if tie.raises floor then floor + 1 else floor

theorem roundQuotient_mul (tie : Tie) (k : Nat) {den : Nat} (h : 0 < den) :
    roundQuotient tie (k * den) den = k := by
  simp [roundQuotient, h]

/-- Rounding moves a quotient by less than one, down or up. -/
theorem roundQuotient_eq_or (tie : Tie) (num den : Nat) :
    roundQuotient tie num den = num / den ∨ roundQuotient tie num den = num / den + 1 := by
  unfold roundQuotient
  grind

end BatteryTelemetry
