import BatteryTelemetry.Bus.Frame
import BatteryTelemetry.Text.Blank
import BatteryTelemetry.Text.Quoted

/-!
# Capture lines

A line of a capture holds one frame in three fields: the code in hexadecimal, the bytes still to
come in decimal, and the payload in hexadecimal. What follows a number sign is a comment, and a
line without fields holds no frame. The fields are read from left to right, and the first one that
cannot be read is reported.
-/

namespace BatteryTelemetry.Capture

/-- Why a line cannot be read. The field at fault is kept as it is written. -/
inductive LineFault where
  | fieldCount (found : Nat)
  | code (field : List Char) (fault : NumeralFault)
  | remain (field : List Char) (fault : NumeralFault)
  | payload (field : List Char)
deriving DecidableEq, Repr

def LineFault.message : LineFault → String
  | fieldCount found => s!"expected 3 fields, found {found}"
  | code field fault => s!"invalid PID {Text.quoted field}: {fault.message}"
  | remain field fault => s!"invalid remain {Text.quoted field}: {fault.message}"
  | payload field => s!"invalid data {Text.quoted field}"

/-- A text without the hexadecimal marks `0x` in front of it. -/
def stripMarks : List Char → List Char
  | '0' :: 'x' :: rest => stripMarks rest
  | text => text

/-- Reads a code in hexadecimal digits after any number of marks. -/
def readCode (field : List Char) : Except LineFault UInt16 :=
  match Numeral.read 16 0xffff (stripMarks field) with
  | .error fault => .error (.code field fault)
  | .ok value => .ok (.ofNat value)

def readRemain (field : List Char) : Except LineFault UInt16 :=
  match Numeral.read 10 0xffff field with
  | .error fault => .error (.remain field fault)
  | .ok value => .ok (.ofNat value)

def readPayload (field : List Char) : Except LineFault (List UInt8) :=
  match Hex.decode? field with
  | none => .error (.payload field)
  | some data => .ok data

def readFields (code remain payload : List Char) : Except LineFault Frame := do
  let code ← readCode code
  let remain ← readRemain remain
  let data ← readPayload payload
  return ⟨code, remain, data⟩

/-- A line without its comment. -/
def content (line : List Char) : List Char := line.takeWhile (· != '#')

/-- The frame of a line, if it holds one. -/
def readLine (line : List Char) : Except LineFault (Option Frame) :=
  match Text.words (content line) with
  | [] => .ok none
  | [code, remain, payload] => (readFields code remain payload).map some
  | fields => .error (.fieldCount fields.length)

/-- A line holds no frame exactly if it is blank up to its comment. -/
theorem readLine_eq_none_iff {line : List Char} :
    readLine line = .ok none ↔ ∀ c ∈ content line, Text.isBlank c := by
  rw [← Text.words_eq_nil_iff]
  unfold readLine
  split
  · simp_all
  · rename_i code remain payload h
    cases readFields code remain payload <;> simp [Except.map, h]
  · simp_all

end BatteryTelemetry.Capture
