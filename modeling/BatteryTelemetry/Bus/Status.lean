/-!
# Battery management status

The status parameter is answered with one code. Codes without a known meaning are kept.
-/

namespace BatteryTelemetry

inductive Status where
  /-- Seen when connected but not locked. -/
  | connectedNotCharging
  /-- Ignition off. -/
  | idle
  /-- Ignition on. -/
  | running
  | charging
  /-- Charging on a rapid direct-current charger. -/
  | rapidCharging
  | aboutToSleep
  | connected
  | startingCharge
  | unknown (code : UInt8)
deriving DecidableEq, Repr

namespace Status

def ofCode (code : UInt8) : Status :=
  if code = 0x0 then connectedNotCharging
  else if code = 0x1 then idle
  else if code = 0x3 then running
  else if code = 0x6 then charging
  else if code = 0x7 then rapidCharging
  else if code = 0x8 then aboutToSleep
  else if code = 0xa then connected
  else if code = 0xc then startingCharge
  else unknown code

/-- The name by which log lines and documents know a status, without the code of an unknown
one. -/
def name : Status → String
  | connectedNotCharging => "ConnectedNotCharging"
  | idle => "Idle"
  | running => "Running"
  | charging => "Charging"
  | rapidCharging => "CcsCharging"
  | aboutToSleep => "AboutToSleep"
  | connected => "Connected"
  | startingCharge => "StartingCharge"
  | unknown _ => "Unknown"

/-- The name with the code of an unknown status. -/
def label : Status → String
  | unknown code => s!"Unknown({code})"
  | status => status.name

/-- Whether a charge is under way while this status is reported. -/
def isCharging : Status → Bool
  | charging => true
  | rapidCharging => true
  | startingCharge => true
  | _ => false

end Status

end BatteryTelemetry
