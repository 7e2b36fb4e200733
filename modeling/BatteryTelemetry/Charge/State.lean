import BatteryTelemetry.Number.Single

/-!
# Charge states and types

The labels under which a charge is published, and the percentages that decide them.
-/

namespace BatteryTelemetry

/-- How a charge is going, or how it ended. -/
inductive ChargeState where
  | charging
  | toppingOff
  | stopped
  | done
deriving DecidableEq, Repr

namespace ChargeState

def label : ChargeState → String
  | charging => "charging"
  | toppingOff => "topoff"
  | stopped => "stopped"
  | done => "done"

/-- An ended charge is done from this percentage on. -/
def doneFrom : Single := 97

/-- A charge is in its last phase from this percentage on. -/
def topsOffFrom : Single := .ofRatio 199 2

def whileCharging (percentage : Single) : ChargeState :=
  if percentage < topsOffFrom then charging else toppingOff

def afterCharge (percentage : Single) : ChargeState :=
  if doneFrom ≤ percentage then done else stopped

end ChargeState

inductive ChargeType where
  | alternating
  | rapid
  | notCharging
deriving DecidableEq, Repr

def ChargeType.label : ChargeType → String
  | .alternating => "type2"
  | .rapid => "ccs"
  | .notCharging => "not charging"

/-- The current limit in amperes that is published during a rapid charge, of which the battery
management system reports none. -/
def rapidCurrentLimit : Single := 82

end BatteryTelemetry
