import BatteryTelemetry.Number.Shortest
import BatteryTelemetry.Number.Single

/-!
# Number texts

How the numbers of this library are written. A `NumberStyle` decides which binary format fixes the
digits, where the positional form ends and whether a whole number keeps a fraction; one function
lays out the shortest digits by it. `fixed` writes a given number of places instead.
-/

namespace BatteryTelemetry

structure NumberStyle where
  /-- The format whose values the digits tell apart. -/
  format : BinaryFormat
  /-- Which of two equally near shortest decimals is taken. -/
  tie : Tie
  /-- The decimal exponents that are written positionally; none is left out without bounds. -/
  positional : Option (Int × Int)
  /-- Whether a whole number is written with `.0`. -/
  keepsFraction : Bool
deriving Repr

namespace NumberStyle

/-- People read positional numbers without an exponent and without an empty fraction. -/
def plain : NumberStyle := ⟨.single, .up, none, false⟩

/-- A document with single-precision numbers has the digits of single precision. -/
def short : NumberStyle := ⟨.single, .toEven, some (-6, 12), true⟩

/-- A document with double-precision numbers has the digits of the reading widened to double
precision. -/
def wide : NumberStyle := ⟨.double, .toEven, some (-5, 15), true⟩

def isPositional (style : NumberStyle) (exponent : Int) : Bool :=
  match style.positional with
  | none => true
  | some (least, greatest) => least ≤ exponent && exponent ≤ greatest

def zeros (count : Nat) : List Char := List.replicate count '0'

/-- Digits with the decimal point after the first `point` of them, padded with zeros. -/
def layPoint (digits : List Char) (point : Int) (keepsFraction : Bool) : List Char :=
  if point ≤ 0 then '0' :: '.' :: (zeros (-point).toNat ++ digits)
  else
    let whole := point.toNat
    if digits.length ≤ whole then
      digits ++ zeros (whole - digits.length) ++ (if keepsFraction then ['.', '0'] else [])
    else digits.take whole ++ '.' :: digits.drop whole

/-- One digit before the point and a signed power of ten. -/
def layExponent (digits : List Char) (exponent : Int) : List Char :=
  let fraction := match digits.tail with
    | [] => []
    | rest => '.' :: rest
  let sign := if exponent < 0 then '-' else '+'
  digits.take 1 ++ fraction ++ 'e' :: sign :: Nat.toDigits 10 exponent.natAbs

/-- The text of the positive value with this code of the style's format. -/
def magnitude (style : NumberStyle) (code : Nat) : List Char :=
  let decimal := Decimal.strip 17 (Decimal.shortest style.format style.tie code)
  let digits := Nat.toDigits 10 decimal.digits
  let point := decimal.exponent + digits.length
  if style.isPositional (point - 1) then layPoint digits point style.keepsFraction
  else layExponent digits (point - 1)

def text (style : NumberStyle) (x : Single) : String :=
  let sign := if x.isNegative then ['-'] else []
  match x with
  | .nan => "NaN"
  | .infinite _ => String.ofList (sign ++ "inf".toList)
  | .finite _ code =>
    let body :=
      if code = Single.zeroCode then '0' :: (if style.keepsFraction then ['.', '0'] else [])
      else
        let units := BinaryFormat.single.units code <<<
          (style.format.leastExponent - BinaryFormat.single.leastExponent)
        style.magnitude (style.format.nearest units 1)
    String.ofList (sign ++ body)

end NumberStyle

namespace Single

/-- The text of a number with a given number of decimal places, the exact value rounded half to
even. -/
def fixed (places : Nat) (x : Single) : String :=
  let sign := if x.isNegative then ['-'] else []
  match x with
  | .nan => "NaN"
  | .infinite _ => String.ofList (sign ++ "inf".toList)
  | .finite _ code =>
    let scale := Nat.pow 10 places
    let scaled := roundQuotient .toEven (BinaryFormat.single.units code * scale)
      BinaryFormat.single.one
    let whole := Nat.toDigits 10 (scaled / scale)
    let fraction := Nat.toDigits 10 (scaled % scale)
    let padded := NumberStyle.zeros (places - fraction.length) ++ fraction
    String.ofList (sign ++ whole ++ (if places = 0 then [] else '.' :: padded))

end Single

end BatteryTelemetry
