import BatteryTelemetry.Number.Single

/-!
# Physical readings

How raw payload numbers become volts, amperes, kilowatts and degrees. Every step is rounded to
single precision.
-/

namespace BatteryTelemetry.Reading

def ofWord (raw : UInt16) : Single := .ofNat raw.toNat

def ofByte (raw : UInt8) : Single := .ofNat raw.toNat

/-- Cell voltages come in steps of half a millivolt above one volt. -/
def cellVolts (raw : UInt16) : Single := ofWord raw / 2000 + 1

/-- Temperatures come in half degrees from forty below zero. -/
def halfDegrees (raw : UInt8) : Single := ofByte raw * .ofRatio 1 2 - 40

/-- Bus and pack voltages come in quarters of a volt. -/
def quarterVolts (raw : UInt16) : Single := ofWord raw * .ofRatio 1 4

/-- The raw current at which no current flows. -/
def zeroCurrent : Int := 40000

/-- Currents come in fortieths of an ampere around `zeroCurrent`. -/
def amperes (raw : UInt16) : Single :=
  Single.ofInt (raw.toNat - zeroCurrent) * .ofRatio 1 4 / 10

/-- The power in kilowatts of a voltage and a current, of the opposite sign to the current. -/
def kilowatts (volts amperes : Single) : Single := -(volts * amperes) / 1000

def tenths (raw : UInt16) : Single := ofWord raw / 10

def hundredths (raw : UInt16) : Single := ofWord raw / 100

/-- What the bus voltage reads while the high-voltage bus is switched off. -/
def busOff : UInt16 := 0xfffe

end BatteryTelemetry.Reading
