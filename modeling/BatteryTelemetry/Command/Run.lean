import BatteryTelemetry.Capture.Basic
import BatteryTelemetry.Command.Request
import BatteryTelemetry.Document.Console
import BatteryTelemetry.Vehicle

/-!
# Running requests

A request is a function of its surroundings: the files, the time and a suffix that tells clients
apart. The vehicle's file is read first, then the capture or the payload, then the broker's
settings, and messages come last; the first stage that fails decides the outcome, and a request
that fails prints nothing.
-/

namespace BatteryTelemetry.Command

structure Surroundings where
  files : Files
  /-- The time on the clock of the place. -/
  localTime : String
  /-- The time for readers at other places. -/
  universalTime : String
  clientSuffix : String

structure Delivery where
  connection : Broker.Connection
  messages : List Broker.Message
deriving DecidableEq, Repr

/-- What a request that succeeds brings about. -/
structure Report where
  lines : List String
  delivery : Option Delivery := none
deriving DecidableEq, Repr

inductive Failure where
  | vehicle (file : String)
  | capture (file : String) (fault : Capture.Fault)
  | payload (text : String)
  | broker (file : String) (fault : Broker.Fault)
  | publish (refusal : Broker.Refusal)
deriving DecidableEq, Repr

def Failure.messages : Failure → List String
  | vehicle file => [s!"Cannot load config file {Text.quoted file.toList}"]
  | capture file fault =>
    [s!"Cannot read capture file {Text.quoted file.toList}", fault.message] ++
      fault.reading?.toList
  | payload text => [s!"Invalid hex payload {Text.quoted text.toList}"]
  | broker file fault => s!"Failed to open MQTT config file at '{file}'" :: fault.messages file
  | publish refusal => [refusal.message]

/-- The vehicle of a request, which is an updated one unless a file says otherwise. -/
def loadVehicle (files : Files) : Option String → Except Failure Vehicle
  | none => .ok {}
  | some file => (Vehicle.load files file).mapError fun _ ↦ .vehicle file

def loadCapture (files : Files) (file : String) : Except Failure (List Frame) :=
  (Capture.load files file).mapError (.capture file)

def readPayload (text : String) : Except Failure (List UInt8) :=
  match Hex.decode? text.toList with
  | none => .error (.payload text)
  | some data => .ok data

def loadConnection (surroundings : Surroundings) (file : String) :
    Except Failure Broker.Connection :=
  (Broker.Connection.load surroundings.files surroundings.clientSuffix file).mapError
    (.broker file)

def freshDecoder (vehicle : Vehicle) : Decoder := Decoder.start vehicle.parameters .empty

def stateOfChargeLines (vehicle : Vehicle) (raw : UInt16) : List String :=
  let percentage := (ChargeWindow.ofParameters vehicle.parameters).scale raw
  [s!"SOC: {percentage.fixed 1}%"]

/-- The lines about a store at a time, with a line before and one behind them. -/
def replayLines (time : String) (store : Store) : List String :=
  [s!"--- Data at {time} ---"] ++ store.consoleLines ++ ["--------------------------"]

def showReplay (surroundings : Surroundings) (store : Store) :
    Output → Except Failure Report
  | .console => .ok { lines := replayLines surroundings.localTime store }
  | .json => .ok { lines := store.replayDocument.lines .wide }
  | .broker file format => do
    let connection ← loadConnection surroundings file
    let messages ← (Broker.messages format connection.topic surroundings.universalTime
      store).mapError .publish
    return { lines := [], delivery := some ⟨connection, messages⟩ }

/-- What an action for a vehicle brings about, whatever its pace. -/
def runAction (surroundings : Surroundings) (vehicle : Vehicle) :
    Action → Except Failure Report
  | .replay file _ output => do
    let frames ← loadCapture surroundings.files file
    showReplay surroundings ((freshDecoder vehicle).run frames).store output
  | .frame code remain payload => do
    let data ← readPayload payload
    return { lines := ((freshDecoder vehicle).dispatch ⟨code, remain, data⟩).store.consoleLines }
  | .stateOfCharge raw => .ok { lines := stateOfChargeLines vehicle raw }

def run (surroundings : Surroundings) (request : Request) : Except Failure Report := do
  let vehicle ← loadVehicle surroundings.files request.vehicle
  runAction surroundings vehicle request.action

def Request.files (request : Request) : List String :=
  let below := match request.action with
    | .replay capture _ (.broker settings _) => [capture, settings]
    | .replay capture _ _ => [capture]
    | _ => []
  request.vehicle.toList ++ below

/-- How many milliseconds the frames of a request take at its pace. -/
def pause (files : Files) (request : Request) : Nat :=
  match request.action with
  | .replay capture (some interval) _ =>
    match loadVehicle files request.vehicle, loadCapture files capture with
    | .ok _, .ok frames => frames.length * interval.milliseconds
    | _, _ => 0
  | _ => 0

structure Outcome where
  exitCode : Nat
  lines : List String
  errors : List String
  delivery : Option Delivery
deriving DecidableEq, Repr

/-- The exit code of the program when it comes to a length of time that cannot be counted, about
which it prints nothing. -/
def uncountableExitCode : Nat := 101

def Halt.outcome : Halt → Outcome
  | .page contents => ⟨0, contents.lines, [], none⟩
  | .version => ⟨0, [versionLine], [], none⟩
  | .misuse => ⟨2, [], [], none⟩
  | .code fault => ⟨2, [], [fault.message], none⟩
  | .uncountable => ⟨uncountableExitCode, [], [], none⟩

def Failure.outcome : Failure → Outcome
  | .broker _ (.load .uncountable) => ⟨uncountableExitCode, [], [], none⟩
  | failure => ⟨1, [], failure.messages, none⟩

def outcomeOf : Except Failure Report → Outcome
  | .ok report => ⟨0, report.lines, [], report.delivery⟩
  | .error failure => failure.outcome

/-- How the program ends, given its arguments. -/
def outcome (surroundings : Surroundings) (arguments : List String) : Outcome :=
  match Request.read arguments with
  | .error halt => halt.outcome
  | .ok request => outcomeOf (run surroundings request)

end BatteryTelemetry.Command
