import BatteryTelemetry.Decoder.Effect

/-!
# Log lines

How effects are told. Each published value is a line of the finest level; a frame that cannot be
used is a warning.
-/

namespace BatteryTelemetry

inductive Level where
  | error
  | warn
  | info
  | debug
  | trace
deriving DecidableEq, Repr

namespace Level

def name : Level → String
  | error => "ERROR"
  | warn => "WARN"
  | info => "INFO"
  | debug => "DEBUG"
  | trace => "TRACE"

/-- The number of levels that are more severe. -/
def rank : Level → Nat
  | error => 0
  | warn => 1
  | info => 2
  | debug => 3
  | trace => 4

end Level

structure LogLine where
  level : Level
  text : String
deriving DecidableEq, Repr

namespace LogLine

def render (line : LogLine) : String := s!"{line.level.name} {line.text}"

def isShownAt (line : LogLine) (level : Level) : Bool := line.level.rank ≤ level.rank

end LogLine

/-- A payload as a list of upper-case byte pairs. -/
def payloadText (data : List UInt8) : String :=
  let pairs := data.map fun byte ↦ (String.ofList (Hex.encodeByte byte)).toUpper
  "[" ++ String.intercalate ", " pairs ++ "]"

def Note.logLine : Note → LogLine
  | ignored code => ⟨.trace, s!"Ignoring PID {codeText code}"⟩
  | received pid remain data =>
    ⟨.trace, s!"{pid.description} remain={remain} data={payloadText data}"⟩
  | tooShort pid length => ⟨.warn, s!"Invalid frame size - {sizeText pid length}"⟩
  | dropped pid length =>
    ⟨.debug, s!"Dropped {pid.description} frame: {(Rejection.tooShort pid length).message}"⟩
  | unpaired block =>
    ⟨.warn, s!"Block {block.val} max frame without a preceding min frame, skipping vmax"⟩
  | chargeEnded status state => ⟨.debug, s!"Charge ended on {status.label}: {state.label}"⟩

/-- The log line of an effect; keeping a byte is not told. -/
def Effect.logLine? : Effect → Option LogLine
  | publish metric value => some ⟨.trace, s!"{metric.name} = {value.text}"⟩
  | publishCell metric index x =>
    some ⟨.trace, s!"{metric.name}[{index}] = {NumberStyle.plain.text x}"⟩
  | keep _ _ => none
  | note n => some n.logLine

def logLines (effects : List Effect) : List LogLine := effects.filterMap Effect.logLine?

end BatteryTelemetry
