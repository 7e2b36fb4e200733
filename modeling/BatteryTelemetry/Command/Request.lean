import BatteryTelemetry.Broker.Message
import BatteryTelemetry.Capture.Line
import BatteryTelemetry.Command.Arguments
import BatteryTelemetry.Command.Help
import BatteryTelemetry.Duration

/-!
# Requests

What the program is asked to do. A command takes the items of its arguments in turn. A value that
stands last before a command below waits until that one has read its own arguments, and one that
stands last before an argument that cannot be read is told of only if it cannot be counted; a value
attached to its switch does not wait.
-/

namespace BatteryTelemetry.Command

/-- Where the metrics of a replay go. -/
inductive Output where
  | console
  | json
  | broker (settings : String) (format : Broker.Format)
deriving DecidableEq, Repr

inductive Action where
  | replay (capture : String) (interval : Option Duration) (output : Output)
  | frame (code remain : UInt16) (payload : String)
  | stateOfCharge (raw : UInt16)
deriving DecidableEq, Repr

/-- What is to be done for which vehicle. -/
structure Request where
  vehicle : Option String
  action : Action
deriving DecidableEq, Repr

/-- Why arguments are no request. -/
inductive Halt where
  | page (contents : Page)
  | version
  | misuse
  | code (fault : Capture.LineFault)
  /-- There is a length of time that cannot be counted. -/
  | uncountable
deriving DecidableEq, Repr

abbrev Parsed := Except Halt

/-- A command: where it stands below others, what it takes, and how each item adds to what the
items before it said. -/
structure Level (σ : Type) where
  path : List String
  grammar : Grammar
  start : σ
  take : σ → Item → Parsed σ

namespace Level

variable {σ α : Type}

def takeAll (level : Level σ) (items : List Item) : Parsed σ := items.foldlM level.take level.start

/-- What all items say. The two flags on the number of messages exclude each other. -/
def finish (level : Level σ) (items : List Item) : Parsed σ := do
  let state ← level.takeAll items
  if .switch "verbose" ∈ items ∧ .switch "quiet" ∈ items then throw .misuse
  return state

def pageOn (level : Level σ) (below : List String) : Halt :=
  match page? (level.path ++ below) with
  | some contents => .page contents
  | none => .misuse

/-- Reads arguments, with a reader for those of the commands below. -/
def read (level : Level σ) (below : String → List String → Parsed α) (arguments : List String) :
    Parsed (σ × Option α) := do
  let (items, ending) := level.grammar.split arguments
  match ending with
  | .finished => return (← level.finish items, none)
  | .command name rest =>
    let _ ← level.takeAll (settled items)
    if name = "help" then throw (level.pageOn rest)
    let inner ← below name rest
    return (← level.finish items, some inner)
  | .question name =>
    let _ ← level.takeAll items
    throw (if name = "version" then .version else level.pageOn [])
  | .unknown =>
    let _ ← level.takeAll (settled items)
    match level.takeAll items with
    | .error .uncountable => throw .uncountable
    | _ => throw .misuse

def readLast (level : Level σ) (arguments : List String) : Parsed σ := do
  return (← level.read (fun _ _ ↦ (throw .misuse : Parsed Unit)) arguments).1

end Level

def sharedSwitches : List Switch :=
  [⟨"verbose", some 'v', .flag⟩, ⟨"quiet", some 'q', .flag⟩, ⟨"help", some 'h', .question⟩]

def once {α : Type} (known : Option α) (value : Parsed α) : Parsed (Option α) :=
  if known.isSome then throw .misuse else some <$> value

def required {α : Type} (known : Option α) : Parsed α :=
  match known with
  | some value => return value
  | none => throw .misuse

/-- The name of a file, which is never empty. -/
def fileName (text : String) : Parsed String :=
  if text.isEmpty then throw .misuse else return text

/-- A count of at most sixteen bits. Zero may have a minus sign. -/
def count (text : String) : Parsed UInt16 :=
  let digits := match text.toList with
    | '-' :: digit :: rest => if (digit :: rest).all (· = '0') then digit :: rest else ['-']
    | other => other
  match Numeral.read 10 0xffff digits with
  | .ok value => return .ofNat value
  | .error _ => throw .misuse

def stateOfChargeLevel : Level (Option UInt16) where
  path := ["soc"]
  grammar := ⟨sharedSwitches, [], 1⟩
  start := none
  take raw
    | .value _ text => once raw (count text)
    | _ => return raw

structure FrameParts where
  code : Option UInt16 := none
  remain : Option UInt16 := none
  payload : Option String := none
deriving DecidableEq, Repr

/-- The code of a frame, read as in a capture. -/
def frameCode (text : String) : Parsed UInt16 :=
  match Capture.readCode text.toList with
  | .ok code => return code
  | .error fault => throw (.code fault)

def frameLevel : Level FrameParts where
  path := ["frame"]
  grammar := ⟨sharedSwitches, [], 3⟩
  start := {}
  take parts
    | .value 0 text => return { parts with code := ← once parts.code (frameCode text) }
    | .value 1 text => return { parts with remain := ← once parts.remain (count text) }
    | .value _ text => return { parts with payload := ← once parts.payload (return text) }
    | _ => return parts

def FrameParts.action (parts : FrameParts) : Parsed Action := do
  return .frame (← required parts.code) (← required parts.remain) (← required parts.payload)

/-- An output that takes no arguments of its own. -/
def plainLevel (name : String) : Level Unit where
  path := ["replay", name]
  grammar := ⟨sharedSwitches, [], 0⟩
  start := ()
  take _ _ := return ()

structure BrokerParts where
  settings : Option String := none
  format : Option Broker.Format := none
deriving DecidableEq, Repr

def brokerFormat (text : String) : Parsed Broker.Format :=
  match text with
  | "simple" => return .simple
  | "json" => return .json
  | _ => throw .misuse

def brokerLevel : Level BrokerParts where
  path := ["replay", "mqtt"]
  grammar :=
    ⟨⟨"config-file", none, .setting⟩ :: ⟨"format", none, .setting⟩ :: sharedSwitches, [], 0⟩
  start := {}
  take parts
    | .setting "config-file" text _ =>
      return { parts with settings := ← once parts.settings (return text) }
    | .setting _ text _ => return { parts with format := ← once parts.format (brokerFormat text) }
    | _ => return parts

/-- The settings file that is read if none is named. -/
def defaultSettings : String := "mqtt.yaml"

def BrokerParts.output (parts : BrokerParts) : Output :=
  .broker (parts.settings.getD defaultSettings) (parts.format.getD .simple)

def readOutput (name : String) (arguments : List String) : Parsed Output := do
  match name with
  | "console" =>
    (plainLevel name).readLast arguments
    return .console
  | "json" =>
    (plainLevel name).readLast arguments
    return .json
  | "mqtt" => return (← brokerLevel.readLast arguments).output
  | _ => throw .misuse

structure ReplayParts where
  capture : Option String := none
  interval : Option Duration := none
deriving DecidableEq, Repr

def interval (text : String) : Parsed Duration :=
  match Duration.read text.toList with
  | .ok duration => return duration
  | .error .refused => throw .misuse
  | .error .uncountable => throw .uncountable

def replayLevel : Level ReplayParts where
  path := ["replay"]
  grammar :=
    ⟨⟨"interval", none, .setting⟩ :: sharedSwitches, ["console", "json", "mqtt", "help"], 1⟩
  start := {}
  take parts
    | .value _ text => return { parts with capture := ← once parts.capture (fileName text) }
    | .setting _ text _ => return { parts with interval := ← once parts.interval (interval text) }
    | _ => return parts

def readAction (name : String) (arguments : List String) : Parsed Action := do
  match name with
  | "replay" =>
    let (parts, output) ← replayLevel.read readOutput arguments
    return .replay (← required parts.capture) parts.interval (← required output)
  | "frame" => (← frameLevel.readLast arguments).action
  | "soc" => return .stateOfCharge (← required (← stateOfChargeLevel.readLast arguments))
  | _ => throw .misuse

def programLevel : Level (Option String) where
  path := []
  grammar :=
    ⟨⟨"config", some 'c', .setting⟩ :: ⟨"version", some 'V', .question⟩ :: sharedSwitches,
      ["replay", "frame", "soc", "help"], 0⟩
  start := none
  take vehicle
    | .setting _ text _ => once vehicle (fileName text)
    | _ => return vehicle

/-- The request that the program's arguments make. -/
def Request.read (arguments : List String) : Parsed Request := do
  let (vehicle, action) ← programLevel.read readAction arguments
  return { vehicle, action := ← required action }

end BatteryTelemetry.Command
