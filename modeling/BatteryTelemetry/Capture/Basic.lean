import BatteryTelemetry.Capture.Line
import BatteryTelemetry.Files

/-!
# Captures

A capture is a file of lines. Each line is decoded as text and read when its turn comes, so the
first line at fault decides the outcome, whatever follows it. Lines end with a line feed; a
carriage return before it is white space like any other.
-/

namespace BatteryTelemetry.Capture

inductive Fault where
  | file (fault : FileFault)
  | notText
  | line (number : Nat) (fault : LineFault)
deriving DecidableEq, Repr

def lineFeed : UInt8 := 10

/-- The frames of lines, counted on from a number. -/
def readLines (number : Nat) : List (List UInt8) → Except Fault (List Frame)
  | [] => .ok []
  | line :: rest =>
    match decodeText? line with
    | none => .error .notText
    | some text =>
      match readLine text with
      | .error fault => .error (.line number fault)
      | .ok none => readLines (number + 1) rest
      | .ok (some frame) => (readLines (number + 1) rest).map (frame :: ·)

/-- The frames of a capture's bytes. What follows the last line feed is a line too, if only an
empty one. -/
def read (bytes : List UInt8) : Except Fault (List Frame) :=
  readLines 1 (bytes.splitOn lineFeed)

def load (files : Files) (name : String) : Except Fault (List Frame) :=
  match files name with
  | .error fault => .error (.file fault)
  | .ok bytes => read bytes

namespace Fault

def notTextReason : String := "stream did not contain valid UTF-8"

def reading? : Fault → Option String
  | file fault => some fault.message
  | notText => some notTextReason
  | line _ _ => none

def message : Fault → String
  | file fault => readingMessage fault.message
  | notText => readingMessage notTextReason
  | line number fault => s!"Parse error on line {number}: {fault.message}"

end Fault

end BatteryTelemetry.Capture
