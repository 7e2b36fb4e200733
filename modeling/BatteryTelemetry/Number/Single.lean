import BatteryTelemetry.Number.BinaryFormat

/-!
# Single-precision numbers

A `Single` is a number of the 32-bit binary format with one NaN, so two equal terms are two equal
readings, while `-0` and `0` are different terms. An operation computes its exact result as a
quotient of naturals, counted in least positive values, and rounds once to the nearest value, a
tie going to the even code. Order compares *keys*: the codes with their signs, in which `-0` and
`0` coincide.
-/

namespace BatteryTelemetry

/-- A single-precision number. The code of a finite number orders the magnitudes. -/
inductive Single where
  | nan
  | infinite (negative : Bool)
  | finite (negative : Bool) (code : Fin BinaryFormat.single.finiteCount)
deriving DecidableEq, Repr

namespace Single

/-- The number nearest to `num / den` least positive values, with the given sign. A magnitude
half a step or more above the greatest finite one is infinite. -/
def round (negative : Bool) (num den : Nat) : Single :=
  let code := BinaryFormat.single.nearest num den
  if h : code < BinaryFormat.single.finiteCount then .finite negative ⟨code, h⟩
  else .infinite negative

def ofRatio (num den : Nat) : Single := round false (num * BinaryFormat.single.one) den

def ofNat (n : Nat) : Single := ofRatio n 1

/-- The number nearest to an integer; zero is positive. -/
def ofInt (n : Int) : Single := round (n < 0) (n.natAbs * BinaryFormat.single.one) 1

instance (n : Nat) : OfNat Single n := ⟨ofNat n⟩

instance : Inhabited Single := ⟨0⟩

def signedUnits (negative : Bool) (code : Fin BinaryFormat.single.finiteCount) : Int :=
  let magnitude : Int := BinaryFormat.single.units code
  if negative then -magnitude else magnitude

def isFinite : Single → Bool
  | finite _ _ => true
  | _ => false

/-- Whether the sign is a minus; NaN has none. -/
def isNegative : Single → Bool
  | nan => false
  | infinite negative => negative
  | finite negative _ => negative

def zeroCode : Fin BinaryFormat.single.finiteCount := ⟨0, by decide⟩

protected def neg : Single → Single
  | nan => nan
  | infinite negative => infinite !negative
  | finite negative code => finite (!negative) code

/-- The rounded sum. A sum that is exactly zero is negative only if both terms are. -/
protected def add : Single → Single → Single
  | nan, _ => nan
  | _, nan => nan
  | infinite s, infinite t => if s = t then infinite s else nan
  | infinite s, finite _ _ => infinite s
  | finite _ _, infinite t => infinite t
  | finite s x, finite t y =>
    let sum := signedUnits s x + signedUnits t y
    if sum = 0 then finite (s && t) zeroCode else round (sum < 0) sum.natAbs 1

protected def sub (x y : Single) : Single := x.add y.neg

/-- The rounded product, negative if exactly one factor is. -/
protected def mul : Single → Single → Single
  | nan, _ => nan
  | _, nan => nan
  | infinite s, infinite t => infinite (s ^^ t)
  | infinite s, finite t y => if y = zeroCode then nan else infinite (s ^^ t)
  | finite s x, infinite t => if x = zeroCode then nan else infinite (s ^^ t)
  | finite s x, finite t y =>
    round (s ^^ t) (BinaryFormat.single.units x * BinaryFormat.single.units y)
      BinaryFormat.single.one

/-- The rounded quotient. A number over zero is infinite, zero over zero is NaN. -/
protected def div : Single → Single → Single
  | nan, _ => nan
  | _, nan => nan
  | infinite _, infinite _ => nan
  | infinite s, finite t _ => infinite (s ^^ t)
  | finite s _, infinite t => finite (s ^^ t) zeroCode
  | finite s x, finite t y =>
    if y = zeroCode then (if x = zeroCode then nan else infinite (s ^^ t))
    else round (s ^^ t) (BinaryFormat.single.units x * BinaryFormat.single.one)
      (BinaryFormat.single.units y)

instance : Neg Single := ⟨Single.neg⟩
instance : Add Single := ⟨Single.add⟩
instance : Sub Single := ⟨Single.sub⟩
instance : Mul Single := ⟨Single.mul⟩
instance : Div Single := ⟨Single.div⟩

/-- The position of a number among all numbers; NaN has none and is kept out by the relations. -/
def key : Single → Int
  | nan => 0
  | infinite negative =>
    if negative then -(BinaryFormat.single.finiteCount : Int) else BinaryFormat.single.finiteCount
  | finite negative code => if negative then -(code : Int) else code

instance : LT Single := ⟨fun x y ↦ x ≠ nan ∧ y ≠ nan ∧ x.key < y.key⟩
instance : LE Single := ⟨fun x y ↦ x ≠ nan ∧ y ≠ nan ∧ x.key ≤ y.key⟩

instance (x y : Single) : Decidable (x < y) :=
  inferInstanceAs (Decidable (x ≠ nan ∧ y ≠ nan ∧ x.key < y.key))

instance (x y : Single) : Decidable (x ≤ y) :=
  inferInstanceAs (Decidable (x ≠ nan ∧ y ≠ nan ∧ x.key ≤ y.key))

/-- The lesser of two numbers; a NaN gives way to the other one, and of two equals, which may be
zeros of both signs, the second is taken. -/
protected def min (x y : Single) : Single :=
  if y = nan then x else if x < y then x else y

/-- The greater of two numbers; a NaN gives way to the other one, and of two equals, which may be
zeros of both signs, the second is taken. -/
protected def max (x y : Single) : Single :=
  if y = nan then x else if y < x then x else y

/-- NaN is neither less nor greater than anything; other numbers go by their keys. -/
theorem lt_iff {x y : Single} : x < y ↔ x ≠ nan ∧ y ≠ nan ∧ x.key < y.key := Iff.rfl

theorem le_iff {x y : Single} : x ≤ y ↔ x ≠ nan ∧ y ≠ nan ∧ x.key ≤ y.key := Iff.rfl

theorem not_lt_nan (x : Single) : ¬x < nan := fun h ↦ h.2.1 rfl

theorem not_nan_lt (x : Single) : ¬nan < x := fun h ↦ h.1 rfl

@[simp]
theorem min_nan (x : Single) : Single.min x nan = x := by simp [Single.min]

@[simp]
theorem max_nan (x : Single) : Single.max x nan = x := by simp [Single.max]

@[simp]
theorem nan_min (x : Single) : Single.min nan x = x := by
  by_cases h : x = nan <;> simp [Single.min, h, not_nan_lt]

@[simp]
theorem nan_max (x : Single) : Single.max nan x = x := by
  by_cases h : x = nan <;> simp [Single.max, h, not_lt_nan]

/-- The interchange pattern: a sign bit above the code. NaN is written with a quiet pattern. -/
def toBits : Single → UInt32
  | nan => 0x7fc00000
  | infinite negative => .ofNat (if negative then 0xff800000 else 0x7f800000)
  | finite negative code => .ofNat (if negative then 0x80000000 + code else code)

/-- The number with an interchange pattern; all NaN patterns are one number. -/
def ofBits (bits : UInt32) : Single :=
  let negative := decide (0x80000000 ≤ bits.toNat)
  let magnitude := bits.toNat % 0x80000000
  if h : magnitude < BinaryFormat.single.finiteCount then .finite negative ⟨magnitude, h⟩
  else if magnitude = BinaryFormat.single.finiteCount then .infinite negative
  else .nan

end Single

end BatteryTelemetry
