import BatteryTelemetry.Number.Numeral
import BatteryTelemetry.Yaml.Fold

/-!
# Scalars

A scalar is written plainly, between apostrophes, between quotes, or as a block of lines behind a
mark of its own. Each reader takes a scalar off the front of a text and leaves the rest.
-/

namespace BatteryTelemetry.Yaml

inductive Style where
  | plain
  | quoted
  /-- Lines that are kept as they are. -/
  | literal
  /-- Lines that are joined. -/
  | folded
deriving DecidableEq, Repr

structure Scalar where
  style : Style
  text : List Char
deriving DecidableEq, Repr

/-- A text that has been taken off the front of another one, and what is left of that. -/
abbrev Taken := List Char × List Char

def Taken.behind (text : List Char) (taken : Taken) : Taken := (text ++ taken.1, taken.2)

/-- Whether a plain scalar ends in front of a text. It goes on over lines, but not to the left of a
column in a block, nor into a comment, the mark of a document or the value of a key. -/
def endsPlain (inFlow : Bool) (column : Nat) (gap : Gap) (text : List Char) : Bool :=
  match text with
  | [] => true
  | c :: rest =>
    (!inFlow && gap.endsLeftOf column) || (gap.endsAtLineStart && marksDocument text) ||
      (c = '#' && gap ≠ .nothing) || (c = ':' && standsApart rest) || (inFlow && isFlowMark c)

/-- A plain scalar at the front of a text, and whether its line has ended before the rest. Within a
flow collection a colon may not stand directly before one of the collection's marks. -/
def plainFrom? (inFlow : Bool) (column : Nat) (gap : Gap) : List Char → Option (Taken × Bool)
  | [] => some (([], []), gap.isAcross)
  | c :: rest =>
    if isBreak c then plainFrom? inFlow column (gap.addBreak c) rest
    else if isGap c then
      if c = '\t' && gap.endsLeftOf column then none
      else plainFrom? inFlow column (gap.addBlank c) rest
    else if endsPlain inFlow column gap (c :: rest) then some (([], c :: rest), gap.isAcross)
    else if inFlow && c = ':' && rest.head?.any (fun next ↦ isFlowMark next || next = '?') then none
    else
      (plainFrom? inFlow column .nothing rest).map fun (taken, ended) ↦
        (taken.behind (gap.text ++ [c]), ended)

def apostrophedFrom? (gap : Gap) : List Char → Option Taken
  | [] => none
  | '\'' :: '\'' :: rest => (apostrophedFrom? .nothing rest).map (·.behind (gap.text ++ ['\'']))
  | c :: rest =>
    if c = '\'' then some (gap.text, rest)
    else if isBreak c then apostrophedFrom? (gap.addBreak c) rest
    else if isGap c then apostrophedFrom? (gap.addBlank c) rest
    else if gap.endsAtLineStart && marksDocument (c :: rest) then none
    else (apostrophedFrom? .nothing rest).map (·.behind (gap.text ++ [c]))

/-- The character of a code point in hexadecimal digits after an escape letter, and how many
characters stand for it after the backslash. -/
def codePoint? (width : Nat) (text : List Char) : Option (Char × Nat) :=
  let digits := text.take width
  match Numeral.readDigits 16 0x10ffff 0 digits with
  | .error _ => none
  | .ok value =>
    if digits.length = width ∧ value.isValidChar then some (Char.ofNat value, width + 1) else none

def letterEscape? (c : Char) : Option Char :=
  match c with
  | '0' => some '\x00'
  | 'a' => some '\x07'
  | 'b' => some '\x08'
  | 't' => some '\t'
  | '\t' => some '\t'
  | 'n' => some '\n'
  | 'v' => some '\x0b'
  | 'f' => some '\x0c'
  | 'r' => some '\r'
  | 'e' => some '\x1b'
  | ' ' => some ' '
  | '"' => some '"'
  | '/' => some '/'
  | '\\' => some '\\'
  | 'N' => some '\x85'
  | '_' => some '\xa0'
  | 'L' => some '\u2028'
  | 'P' => some '\u2029'
  | _ => none

/-- The character that the text after a backslash stands for, and how much of the text it takes. -/
def escape? : List Char → Option (Char × Nat)
  | 'x' :: rest => codePoint? 2 rest
  | 'u' :: rest => codePoint? 4 rest
  | 'U' :: rest => codePoint? 8 rest
  | c :: _ => (letterEscape? c).map (·, 1)
  | [] => none

/-- The rest of a scalar that has begun with a quote. The end of a line may be escaped. -/
def quotedFrom? (gap : Gap) : List Char → Option Taken
  | [] => none
  | c :: rest =>
    if c = '"' then some (gap.text, rest)
    else if isBreak c then quotedFrom? (gap.addBreak c) rest
    else if isGap c then quotedFrom? (gap.addBlank c) rest
    else if gap.endsAtLineStart && marksDocument (c :: rest) then none
    else if c ≠ '\\' then (quotedFrom? .nothing rest).map (·.behind (gap.text ++ [c]))
    else if rest.head?.any isBreak then
      (quotedFrom? .escaped (rest.drop 1)).map (·.behind gap.text)
    else
      match escape? rest with
      | none => none
      | some (c, count) =>
        (quotedFrom? .nothing (rest.drop count)).map (·.behind (gap.text ++ [c]))
termination_by text => text.length
decreasing_by all_goals simp only [List.length_cons, List.length_drop]; omega

/-- What becomes of the ends of lines at the end of a block. -/
inductive Chomping where
  | strip
  /-- The end of the last line that is not empty is kept. -/
  | clip
  | keep
deriving DecidableEq, Repr

def Chomping.ofSign? : Char → Option Chomping
  | '-' => some strip
  | '+' => some keep
  | _ => none

/-- The chomping and the indentation behind the mark of a block, and the text behind its line. A
sign and a digit may stand in either order. -/
def blockHeader? (text : List Char) : Option (Chomping × Option Nat × List Char) := do
  let sign? (text : List Char) : Option Chomping × List Char :=
    match text with
    | c :: rest => match Chomping.ofSign? c with
      | some chomping => (some chomping, rest)
      | none => (none, text)
    | [] => (none, [])
  let digit? (text : List Char) : Option Nat × List Char :=
    match text with
    | c :: rest => if c.isDigit then (some (c.toNat - '0'.toNat), rest) else (none, text)
    | [] => (none, [])
  let (before, text) := sign? text
  let (indentation, text) := digit? text
  let (chomping, text) := if before.isSome then (before, text) else
    if indentation.isSome then sign? text else (none, text)
  if indentation = some 0 then none
  else return (chomping.getD .clip, indentation, ← lineRest? text)

/-- The empty lines at the front of a block, and the indentation behind them. -/
structure EmptyLines where
  ends : List Char
  /-- The column behind the indentation of the line after them. -/
  column : Nat
  /-- The greatest column behind the indentation of all these lines. -/
  widest : Nat
  rest : List Char

/-- The empty lines at the front of a text. The spaces up to a column are indentation, or all of
them if the column is not known; a tab may not stand among them. -/
def emptyLines? (known : Option Nat) (column widest : Nat) : List Char → Option EmptyLines
  | [] => some ⟨[], column, max column widest, []⟩
  | c :: rest =>
    let indents := known.all (column < ·)
    if c = ' ' && indents then emptyLines? known (column + 1) widest rest
    else if c = '\t' && indents then none
    else if isBreak c then
      (emptyLines? known 0 (max column widest) rest).map fun lines ↦
        { lines with ends := c :: lines.ends }
    else some ⟨[], column, max column widest, c :: rest⟩

/-- The lines of a block from one on: their text without the end of the last one, that end, and the
empty lines behind it. The line before has ended in some way, and may have begun with a blank. In a
folded block the end of a line is a space between two lines that do not begin with a blank. -/
def blockLines? (style : Style) (indentation : Nat) :
    Nat → List Char → Bool → EmptyLines → Option (List Char × List Char × EmptyLines)
  | 0, _, _, _ => none
  | bound + 1, ended, blank, lines =>
    if lines.column ≠ indentation ∨ lines.rest = [] then some ([], ended, lines)
    else do
      let line := lines.rest.takeWhile (!isBreak ·)
      let behind := lines.rest.dropWhile (!isBreak ·)
      let startsBlank := line.head?.any isGap
      let joint :=
        if style = .folded ∧ ended = ['\n'] ∧ ¬blank ∧ ¬startsBlank then
          if lines.ends = [] then [' '] else lines.ends
        else ended ++ lines.ends
      let next ← emptyLines? (some indentation) 0 0 (behind.drop 1)
      let (text, last, after) ←
        blockLines? style indentation bound (behind.take 1) startsBlank next
      return (joint ++ line ++ text, last, after)

/-- The block behind its mark, within a block collection of which the column is known. -/
def blockFrom? (style : Style) (outer : Option Nat) (text : List Char) : Option Taken := do
  let (chomping, width, rest) ← blockHeader? text
  let known := width.map (outer.getD 0 + ·)
  let lines ← emptyLines? known 0 0 rest
  let least := match outer with
    | some column => column + 1
    | none => 1
  let indentation := known.getD (max lines.widest least)
  let (text, ended, after) ← blockLines? style indentation (rest.length + 1) [] false lines
  let tail := match chomping with
    | .strip => []
    | .clip => ended
    | .keep => ended ++ after.ends
  return (text ++ tail, after.rest)

end BatteryTelemetry.Yaml
