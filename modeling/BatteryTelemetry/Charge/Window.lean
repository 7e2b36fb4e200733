import BatteryTelemetry.Bus.Reading
import BatteryTelemetry.Parameters

/-!
# State of charge

The battery management unit uses a part of the battery only. A window says which raw readings are
shown as empty and full, and `scale` maps a reading linearly onto the percentage that is shown.
-/

namespace BatteryTelemetry

/-- The raw readings, in tenths of a percent, that are shown as 0 % and 100 %. -/
structure ChargeWindow where
  lower : UInt16
  upper : UInt16
deriving DecidableEq, Repr

namespace ChargeWindow

def updated : ChargeWindow := ⟨25, 940⟩

def initial : ChargeWindow := ⟨60, 970⟩

/-- The window that the parameters select; the updated firmware is assumed. -/
def ofParameters (parameters : Parameters) : ChargeWindow :=
  if parameters.get Parameters.updatedFirmware true then updated else initial

/-- The percentage shown for a raw reading. Readings outside the window are shown below 0 % and
above 100 %. -/
def scale (window : ChargeWindow) (raw : UInt16) : Single :=
  (Reading.ofWord raw - Reading.ofWord window.lower) * 100 /
    (Reading.ofWord window.upper - Reading.ofWord window.lower)

end ChargeWindow

/-- The range of the vehicle in kilometres at 100 %. -/
def fullRange : Single := 262

/-- The share of the full range at a percentage. -/
def idealRange (percentage : Single) : Single := fullRange * (percentage / 100)

end BatteryTelemetry
