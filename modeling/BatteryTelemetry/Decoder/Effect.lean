import BatteryTelemetry.Bus.Message
import BatteryTelemetry.Charge.State
import BatteryTelemetry.Store.Basic

/-!
# Effects

Handling a frame yields a list of effects in the order in which they happen. Some publish a value,
one keeps a byte for the second half of a block's statistics, and notes change nothing and are
only told. The state after a frame and the log lines of a frame are two views of this list.
-/

namespace BatteryTelemetry

/-- Something worth telling that changes nothing. -/
inductive Note where
  /-- A frame with an unknown code was ignored. -/
  | ignored (code : UInt16)
  /-- A frame with a known code was received. -/
  | received (pid : Pid) (remain : UInt16) (data : List UInt8)
  /-- A payload was shorter than required. -/
  | tooShort (pid : Pid) (received : Nat)
  /-- A frame was dropped because its payload was too short. -/
  | dropped (pid : Pid) (received : Nat)
  /-- A block's second half came without a first half before it. -/
  | unpaired (block : BlockIndex)
  /-- A status ended a charge. -/
  | chargeEnded (status : Status) (state : ChargeState)
deriving DecidableEq, Repr

/-- One thing that happens while a frame is handled. -/
inductive Effect where
  | publish (metric : Metric) (value : Value)
  | publishCell (metric : CellMetric) (index : Nat) (x : Single)
  | keep (block : BlockIndex) (greatestCellHigh : UInt8)
  | note (note : Note)
deriving DecidableEq, Repr

namespace Effect

def number (metric : Metric) (x : Single) : Effect := publish metric (.number x)

def flag (metric : Metric) (b : Bool) : Effect := publish metric (.flag b)

def label (metric : Metric) (text : String) : Effect := publish metric (.label text)

end Effect

def Store.apply (store : Store) : Effect → Store
  | .publish metric value => store.set metric value
  | .publishCell metric index x => store.setCell metric index x
  | .keep _ _ => store
  | .note _ => store

end BatteryTelemetry
