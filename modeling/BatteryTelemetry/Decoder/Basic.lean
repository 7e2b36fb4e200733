import BatteryTelemetry.Charge.Transition
import BatteryTelemetry.Charge.Window

/-!
# The decoder

A decoder holds the published values, the vehicle's parameters and, per cell block, the high byte
of the greatest cell voltage from the last first half. The effects of a frame are computed from
the decoder before it; the decoder after it applies them in order.

A kept byte is replaced by the next first half of its block and is never used up. A second half
without any first half before it leaves the greatest voltage alone; one whose own first half was
lost is completed with the byte of the cycle before.
-/

namespace BatteryTelemetry

structure Decoder where
  store : Store
  parameters : Parameters
  highBytes : Vector (Option UInt8) blockCount

namespace Decoder

/-- A decoder that has seen no frame, on a given store. -/
def start (parameters : Parameters) (store : Store) : Decoder :=
  ⟨store, parameters, Vector.replicate _ none⟩

def highByte? (decoder : Decoder) (block : BlockIndex) : Option UInt8 :=
  decoder.highBytes[block]

/-- The extreme of a row is published, if anything in the row is known. -/
def extremeEffects (metric : Metric) (pick : Single → Single → Single) (row : CellRow) :
    List Effect :=
  match row.extreme pick with
  | some x => [.number metric x]
  | none => []

def cellEffect (metric : CellMetric) (block : BlockIndex) (x : Single) : Effect :=
  .publishCell metric block x

def rowWith (decoder : Decoder) (metric : CellMetric) (block : BlockIndex) (x : Single) : CellRow :=
  (decoder.store.row metric).set block x

/-- Effects of a block's first half: the high byte is kept, the least voltage published. -/
def firstHalfEffects (decoder : Decoder) (block : BlockIndex) (leastCell : UInt16)
    (greatestCellHigh : UInt8) : List Effect :=
  let volts := Reading.cellVolts leastCell
  .keep block greatestCellHigh :: cellEffect .leastVoltage block volts ::
    extremeEffects .packLeastVoltage Single.min (decoder.rowWith .leastVoltage block volts)

/-- Effects of the low byte of a block's greatest voltage. -/
def greatestEffects (decoder : Decoder) (block : BlockIndex) (low : UInt8) : List Effect :=
  match decoder.highByte? block with
  | some high =>
    let volts := Reading.cellVolts (wordOfBytes high low)
    cellEffect .greatestVoltage block volts ::
      extremeEffects .packGreatestVoltage Single.max
        (decoder.rowWith .greatestVoltage block volts)
  | none => [.note (.unpaired block)]

/-- Effects of a block's temperatures, of which the one of its board may be missing. -/
def temperatureEffects (decoder : Decoder) (block : BlockIndex) (coldest warmest : UInt8)
    (board : Option UInt8) : List Effect :=
  let least := Reading.halfDegrees coldest
  let greatest := Reading.halfDegrees warmest
  [cellEffect .coldest block least, cellEffect .warmest block greatest] ++
    (board.map fun raw ↦ cellEffect .board block (Reading.halfDegrees raw)).toList ++
    extremeEffects .packColdest Single.min (decoder.rowWith .coldest block least) ++
    extremeEffects .packWarmest Single.max (decoder.rowWith .warmest block greatest)

def stateOfChargeEffects (decoder : Decoder) (raw : UInt16) : List Effect :=
  let percentage := (ChargeWindow.ofParameters decoder.parameters).scale raw
  .number .rawStateOfCharge (Reading.tenths raw) ::
    (if decoder.store.flag .chargeInProgress then
      [.label .chargeState (ChargeState.whileCharging percentage).label]
    else []) ++
    [.number .stateOfCharge percentage, .number .idealRange (idealRange percentage)]

/-- Effects of a message. While the bus is switched off its voltage is the pack's. -/
def messageEffects (decoder : Decoder) : Message → List Effect
  | .busVoltage raw =>
    [.number .busVoltage
      (if raw = Reading.busOff then decoder.store.number .packVoltage
      else Reading.quarterVolts raw)]
  | .current raw =>
    let amperes := Reading.amperes raw
    [.number .current amperes,
      .number .power (Reading.kilowatts (decoder.store.number .busVoltage) amperes)]
  | .packVoltage raw => [.number .packVoltage (Reading.quarterVolts raw)]
  | .stateOfCharge raw => decoder.stateOfChargeEffects raw
  | .status status => decoder.store.statusEffects status
  | .coolantTemperature raw => [.number .coolantTemperature (Reading.halfDegrees raw)]
  | .stateOfHealth raw => [.number .stateOfHealth (Reading.hundredths raw)]
  | .rangeEstimate raw => [.number .rangeEstimate (Reading.tenths raw)]
  | .firstHalf block leastCell greatestCellHigh =>
    decoder.firstHalfEffects block leastCell greatestCellHigh
  | .secondHalf block low coldest warmest board =>
    decoder.greatestEffects block low ++ decoder.temperatureEffects block coldest warmest board

/-- Effects of a frame. One that is not accepted is only told. -/
def effects (decoder : Decoder) (frame : Frame) : List Effect :=
  match Message.ofFrame frame with
  | .error (.unknownCode code) => [.note (.ignored code)]
  | .error (.tooShort pid received) =>
    [.note (.received pid frame.remain frame.data),
      .note (.tooShort pid received), .note (.dropped pid received)]
  | .ok message =>
    .note (.received message.pid frame.remain frame.data) :: decoder.messageEffects message

def apply (decoder : Decoder) (effect : Effect) : Decoder :=
  { decoder with
    store := decoder.store.apply effect
    highBytes := match effect with
      | .keep block high => decoder.highBytes.set block (some high)
      | _ => decoder.highBytes }

def applyAll (decoder : Decoder) (effects : List Effect) : Decoder := effects.foldl apply decoder

def dispatch (decoder : Decoder) (frame : Frame) : Decoder :=
  decoder.applyAll (decoder.effects frame)

def run (decoder : Decoder) (frames : List Frame) : Decoder := frames.foldl dispatch decoder

/-- The decoder after a status report that did not come in a frame. -/
def report (decoder : Decoder) (status : Status) : Decoder :=
  decoder.applyAll (decoder.store.statusEffects status)

/-- A new decoder on the store of this one; kept bytes are forgotten. -/
def rebuild (decoder : Decoder) (parameters : Parameters) : Decoder :=
  start parameters decoder.store

@[simp]
theorem applyAll_nil (decoder : Decoder) : decoder.applyAll [] = decoder := rfl

@[simp]
theorem applyAll_cons (decoder : Decoder) (effect : Effect) (rest : List Effect) :
    decoder.applyAll (effect :: rest) = (decoder.apply effect).applyAll rest := rfl

theorem run_cons (decoder : Decoder) (frame : Frame) (rest : List Frame) :
    decoder.run (frame :: rest) = (decoder.dispatch frame).run rest := rfl

/-- A run can be cut anywhere and taken up again from the state in between. -/
theorem run_append (decoder : Decoder) (first second : List Frame) :
    decoder.run (first ++ second) = (decoder.run first).run second :=
  List.foldl_append

end Decoder

end BatteryTelemetry
