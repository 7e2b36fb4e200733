import BatteryTelemetry.Text.Combining
import BatteryTelemetry.Text.Unprintable

/-!
# Quoted text in messages

A piece of input inside a message stands between double quotes. Quotes and backslashes are
escaped, and so is every character that a reader would not see: it is shown by name or by its
code point in hexadecimal. An apostrophe is shown as it is.
-/

namespace BatteryTelemetry.Text

def isHidden (c : Char) : Bool :=
  if c.toNat < 0x7f then c.toNat < 0x20
  else CharacterSet.combining.contains c || CharacterSet.unprintable.contains c

/-- A character as it stands between quotes. -/
def escape (c : Char) : List Char :=
  match c with
  | '\x00' => ['\\', '0']
  | '\t' => ['\\', 't']
  | '\r' => ['\\', 'r']
  | '\n' => ['\\', 'n']
  | '"' => ['\\', '"']
  | '\\' => ['\\', '\\']
  | c =>
    if isHidden c then "\\u\x7b".toList ++ Nat.toDigits 16 c.toNat ++ ['\x7d'] else [c]

def quoted (text : List Char) : String :=
  String.ofList ('"' :: text.flatMap escape ++ ['"'])

end BatteryTelemetry.Text
