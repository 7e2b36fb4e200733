import BatteryTelemetry.Proofs.Capture.Lines
import BatteryTelemetry.Proofs.Capture.Slices
import BatteryTelemetry.Proofs.Number.Numeral

/-!
# The grammar of a line

A line is accepted exactly by its grammar, and what is reported of any other line is decided by the
first of four tests that fails: the number of fields, the code, the bytes to come and the payload
(`readsByGrammar`). The grammar is that of a text without its comment and the white space around it
(`body`), divided into maximal runs of other characters. A code may have any number of marks in
front of its digits, all of which are taken off before the digits are read, so a field of nothing
but marks is no code.
-/

namespace BatteryTelemetry.Capture

variable {field text line code remain payload : List Char} {fault : LineFault} {frame : Frame}

section Word

variable {radix : Nat} {report : NumeralFault → LineFault} {value : UInt16}

end Word

def body (line : List Char) : List Char := Text.trim (content line)

/-- What is always told of a fault; the reason why a numeral cannot be read may follow. -/
def LineFault.head : LineFault → String
  | .fieldCount found => s!"expected 3 fields, found {found}"
  | .code field _ => s!"invalid PID {Text.quoted field}"
  | .remain field _ => s!"invalid remain {Text.quoted field}"
  | .payload field => s!"invalid data {Text.quoted field}"

end BatteryTelemetry.Capture
