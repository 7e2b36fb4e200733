import BatteryTelemetry.Number.Numeral

/-!
# Hexadecimal payloads

A payload is written as two characters a byte. Reading takes each pair as a numeral of its own, so
a plus sign and one digit stand for a byte too. `decode_encode` says that a written payload is
read back.
-/

namespace BatteryTelemetry.Hex

/-- The bytes of a hexadecimal text, if each pair of its characters is a numeral. -/
def decode? : List Char → Option (List UInt8)
  | [] => some []
  | [_] => none
  | high :: low :: rest =>
    match Numeral.read 16 255 [high, low] with
    | .error _ => none
    | .ok value => (decode? rest).map (UInt8.ofNat value :: ·)

def encodeByte (byte : UInt8) : List Char :=
  [Nat.digitChar (byte.toNat / 16), Nat.digitChar (byte.toNat % 16)]

def encode (bytes : List UInt8) : List Char := bytes.flatMap encodeByte

theorem read_encodeByte (byte : UInt8) :
    Numeral.read 16 255 (encodeByte byte) = .ok byte.toNat := by
  have h : ∀ n < 256, (Numeral.read 16 255
      [Nat.digitChar (n / 16), Nat.digitChar (n % 16)]).toOption = some n := by decide +kernel
  have hbyte := h byte.toNat byte.toNat_lt
  simp only [encodeByte]
  cases hread : Numeral.read 16 255
      [Nat.digitChar (byte.toNat / 16), Nat.digitChar (byte.toNat % 16)] with
  | error fault => simp [hread, Except.toOption] at hbyte
  | ok value =>
    rw [hread] at hbyte
    simpa [Except.toOption] using hbyte

theorem encode_cons (byte : UInt8) (rest : List UInt8) :
    encode (byte :: rest) = Nat.digitChar (byte.toNat / 16) ::
      Nat.digitChar (byte.toNat % 16) :: encode rest := rfl

/-- Whatever bytes are encoded, they are read back. -/
theorem decode_encode (bytes : List UInt8) : decode? (encode bytes) = some bytes := by
  induction bytes with
  | nil => rfl
  | cons byte rest ih =>
    have h := read_encodeByte byte
    simp only [encodeByte] at h
    rw [encode_cons, decode?, h]
    simp [ih]

end BatteryTelemetry.Hex
