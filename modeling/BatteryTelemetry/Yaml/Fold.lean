import BatteryTelemetry.Yaml.Character

/-!
# Folding of lines

A plain or quoted scalar may go on over several lines. What stands between two pieces of it is a
gap: white space on a line is kept, one end of a line is read as a space, and of several ends the
first one is left out. The ends that are not line feeds are all kept.
-/

namespace BatteryTelemetry.Yaml

/-- What stands between two pieces of a scalar. -/
inductive Gap where
  /-- White space on a line. -/
  | within (blanks : List Char)
  /-- Ends of lines, and how many blanks stand behind the last one. The first one is folded unless
  it is escaped, and then it is not among them. -/
  | across (folded : Bool) (ends : List Char) (column : Nat)
deriving DecidableEq, Repr

namespace Gap

def nothing : Gap := within []

/-- The gap behind an escaped end of a line. -/
def escaped : Gap := across false [] 0

def addBlank (c : Char) : Gap → Gap
  | within blanks => within (blanks ++ [c])
  | across folded ends column => across folded ends (column + 1)

def addBreak (c : Char) : Gap → Gap
  | within _ => across true [c] 0
  | across folded ends _ => across folded (ends ++ [c]) 0

def text : Gap → List Char
  | within blanks => blanks
  | across true ['\n'] _ => [' ']
  | across true ('\n' :: ends) _ => ends
  | across _ ends _ => ends

def isAcross : Gap → Bool
  | within _ => false
  | across .. => true

/-- Whether a gap ends in a column of a later line that is less than another one. -/
def endsLeftOf (column : Nat) : Gap → Bool
  | within _ => false
  | across _ _ reached => reached < column

/-- Whether a gap ends at the start of a later line. -/
def endsAtLineStart : Gap → Bool := endsLeftOf 1

end Gap

end BatteryTelemetry.Yaml
