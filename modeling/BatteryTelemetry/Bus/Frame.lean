import BatteryTelemetry.Hex

/-!
# Response frames

One frame as the transport hands it over: the code that was polled, the bytes still outstanding
after this frame, and the payload.
-/

namespace BatteryTelemetry

structure Frame where
  code : UInt16
  /-- Bytes of the response that are still to come after this frame. -/
  remain : UInt16
  data : List UInt8
deriving DecidableEq, Repr

namespace Frame

/-- The frame as one line of a capture: the code in four digits, the count, the payload. -/
def text (frame : Frame) : String :=
  String.ofList (Numeral.padded 16 4 frame.code.toNat ++
    ' ' :: Nat.toDigits 10 frame.remain.toNat ++ ' ' :: Hex.encode frame.data)

end Frame

/-- The unsigned number whose high byte comes first. -/
def wordOfBytes (high low : UInt8) : UInt16 := high.toUInt16 * 256 + low.toUInt16

/-- The first byte is the high one. -/
theorem toNat_wordOfBytes (high low : UInt8) :
    (wordOfBytes high low).toNat = high.toNat * 256 + low.toNat := by
  have hhigh := high.toNat_lt
  have hlow := low.toNat_lt
  simp only [wordOfBytes, UInt16.toNat_add, UInt16.toNat_mul, UInt8.toNat_toUInt16,
    UInt16.reduceToNat]
  omega

end BatteryTelemetry
