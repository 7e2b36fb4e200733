import BatteryTelemetry.Command.Run
import Std.Time.Format

/-!
# The program

Reads the files that a request names, runs it and prints the outcome. Failures are told on the
standard error. No connection to a broker is opened: the messages that a broker would get are
shown on the standard error as well.
-/

namespace BatteryTelemetry.Command

def faultOf : IO.Error → FileFault
  | .noFileOrDirectory .. => .missing
  | .permissionDenied .. => .denied
  | .inappropriateType none .. => .isDirectory
  | .inappropriateType .. => .notDirectory
  | .invalidArgument .. => .nameTooLong
  | error => .other (toString error)

def readFiles (names : List String) : IO Files := do
  let contents ← names.mapM fun (name : String) ↦ do
    match ← (IO.FS.readBinFile name).toBaseIO with
    | .ok bytes => return (name, Except.ok bytes.toList)
    | .error error => return (name, Except.error (faultOf error))
  return fun name ↦ (contents.lookup name).getD (.error .missing)

/-- How moments are written: date, time and offset. -/
def momentFormat : String := "uuuu-MM-dd'T'HH:mm:ss.SSSSSSSSSxxx"

/-- A few letters and digits that no one can foresee. -/
def randomSuffix (length : Nat) : IO String := do
  let letters := "ABCDEFGHIJKLMNOPQRSTUVWXYZabcdefghijklmnopqrstuvwxyz0123456789".toList
  let picked ← (List.replicate length ()).mapM fun _ ↦ do
    return letters.getD (← IO.rand 0 (letters.length - 1)) 'A'
  return String.ofList picked

def surroundingsNow (files : Files) : IO Surroundings := do
  let now ← Std.Time.Timestamp.now
  let universal := Std.Time.DateTime.ofTimestamp now Std.Time.TimeZone.ZoneRules.UTC
  let place ← try Std.Time.DateTime.now catch _ => pure universal
  return { files, localTime := place.format momentFormat,
           universalTime := universal.format momentFormat,
           clientSuffix := ← randomSuffix 8 }

/-- The lines about errors, the causes numbered. -/
def errorLines : List String → List String
  | [] => []
  | [message] => [s!"Error: {message}"]
  | [message, cause] => [s!"Error: {message}", "", "Caused by:", s!"    {cause}"]
  | message :: causes =>
    [s!"Error: {message}", "", "Caused by:"] ++ causes.mapIdx fun index cause ↦
      s!"    {index}: {cause}"

def Outcome.print (outcome : Outcome) : IO UInt32 := do
  outcome.lines.forM IO.println
  (errorLines outcome.errors).forM IO.eprintln
  for delivery in outcome.delivery.toList do
    delivery.messages.forM fun message ↦ IO.eprintln s!"{message.topic} {message.payload}"
  return .ofNat outcome.exitCode

end BatteryTelemetry.Command

open BatteryTelemetry.Command in
def main (arguments : List String) : IO UInt32 := do
  match Request.read arguments with
  | .error halt => halt.outcome.print
  | .ok request =>
    let files ← readFiles request.files
    IO.sleep (.ofNat (pause files request))
    (outcomeOf (run (← surroundingsNow files) request)).print
