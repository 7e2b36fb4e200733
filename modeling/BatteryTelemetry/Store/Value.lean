import BatteryTelemetry.Number.Style

/-!
# Metric values

A scalar metric holds a number, a flag or a label.
-/

namespace BatteryTelemetry

inductive Value where
  | number (x : Single)
  | flag (b : Bool)
  | label (text : String)
deriving DecidableEq, Repr

namespace Value

/-- The value as a person reads it. -/
def text : Value → String
  | number x => NumberStyle.plain.text x
  | flag true => "true"
  | flag false => "false"
  | label text => text

end Value

end BatteryTelemetry
