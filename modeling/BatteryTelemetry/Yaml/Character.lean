/-!
# Characters of YAML text

YAML has classes of characters of its own: gaps part the tokens of a line, and a few marks have a
meaning where they stand. A line may be ended in five ways. Three of them, and a carriage return
with a line feed behind it, are one line feed to a reader; the two Unicode separators are kept.
-/

namespace BatteryTelemetry.Yaml

/-- The characters that may occur at all. -/
def isAllowed (c : Char) : Bool :=
  let n := c.toNat
  n = 0x9 || n = 0xa || n = 0xd || (0x20 ≤ n && n ≤ 0x7e) || n = 0x85 ||
    (0xa0 ≤ n && n ≤ 0xfffd) || 0x10000 ≤ n

/-- A text in which all ends of lines but the separators are line feeds. -/
def withLineFeeds : List Char → List Char
  | [] => []
  | '\r' :: '\n' :: rest => '\n' :: withLineFeeds rest
  | c :: rest => (if c = '\r' || c = '\x85' then '\n' else c) :: withLineFeeds rest

def isGap (c : Char) : Bool := c = ' ' || c = '\t'

def isBreak (c : Char) : Bool := c = '\n' || c = '\u2028' || c = '\u2029'

/-- The mark of the order of bytes, which is passed over at the start of a line. -/
def orderMark : Char := '\ufeff'

/-- The characters that shape flow collections. -/
def isFlowMark (c : Char) : Bool := c ∈ [',', '[', ']', '\x7b', '\x7d']

def isReserved (c : Char) : Bool := c ∈ ['\t', '%', '@', '\x60']

def isNameCharacter (c : Char) : Bool := c.isAlphanum || c = '_' || c = '-'

/-- Whether the character before a text stands apart from what follows it: there is a gap, the end
of the line or the end of the text. -/
def standsApart : List Char → Bool
  | [] => true
  | c :: _ => isGap c || isBreak c

/-- Whether a text begins with three equal characters that stand apart. -/
def startsWithMark (c : Char) : List Char → Bool
  | c₁ :: c₂ :: c₃ :: rest => c₁ = c && c₂ = c && c₃ = c && standsApart rest
  | _ => false

def marksDocument (line : List Char) : Bool := startsWithMark '-' line || startsWithMark '.' line

/-- A text without the comment and the gaps that fill the rest of its line, unless there is more on
the line. -/
def lineRest? (text : List Char) : Option (List Char) :=
  let rest := match text.dropWhile isGap with
    | '#' :: rest => rest.dropWhile (!isBreak ·)
    | rest => rest
  match rest with
  | [] => some []
  | c :: rest => if isBreak c then some rest else none

end BatteryTelemetry.Yaml
