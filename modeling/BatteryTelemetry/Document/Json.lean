import BatteryTelemetry.Number.Numeral
import BatteryTelemetry.Number.Style

/-!
# JSON documents

Documents and their two layouts: compact on one line, and indented over several. How numbers are
written is a parameter; a number that is not finite is written as null.
-/

namespace BatteryTelemetry

inductive Json where
  | null
  | flag (b : Bool)
  | natural (n : Nat)
  | number (x : Single)
  | text (s : String)
  | list (items : List Json)
  | object (fields : List (String × Json))
deriving Repr, Inhabited

namespace Json

/-- A number that a document can hold, null for the others. -/
def ofSingle (x : Single) : Json := if x.isFinite then number x else null

def ofOption : Option Single → Json
  | none => null
  | some x => ofSingle x

def escape (c : Char) : List Char :=
  match c with
  | '"' => ['\\', '"']
  | '\\' => ['\\', '\\']
  | '\x08' => ['\\', 'b']
  | '\x0c' => ['\\', 'f']
  | '\n' => ['\\', 'n']
  | '\r' => ['\\', 'r']
  | '\t' => ['\\', 't']
  | c =>
    if c.toNat < 0x20 then '\\' :: 'u' :: Numeral.padded 16 4 c.toNat else [c]

def quoted (text : String) : String :=
  String.ofList ('"' :: text.toList.flatMap escape ++ ['"'])

def leaf (style : NumberStyle) : Json → String
  | null => "null"
  | flag true => "true"
  | flag false => "false"
  | natural n => toString n
  | number x => if x.isFinite then style.text x else "null"
  | text s => quoted s
  | list _ => "[]"
  | object _ => "\x7b\x7d"

mutual

/-- The document on one line, without spaces. -/
def compact (style : NumberStyle) : Json → String
  | list items => "[" ++ String.intercalate "," (compactItems style items) ++ "]"
  | object fields => "\x7b" ++ String.intercalate "," (compactFields style fields) ++ "\x7d"
  | other => leaf style other

def compactItems (style : NumberStyle) : List Json → List String
  | [] => []
  | item :: rest => compact style item :: compactItems style rest

def compactFields (style : NumberStyle) : List (String × Json) → List String
  | [] => []
  | (name, value) :: rest =>
    (quoted name ++ ":" ++ compact style value) :: compactFields style rest

end

/-- Lines between brackets, indented, each part but the last followed by a comma. -/
def bracket (opening closing : String) (parts : List (List String)) : List String :=
  let separated := parts.mapIdx fun index part ↦
    if index + 1 = parts.length then part
    else part.dropLast ++ [part.getLastD "" ++ ","]
  opening :: separated.flatten.map ("  " ++ ·) ++ [closing]

def withLabel (name : String) : List String → List String
  | [] => []
  | first :: rest => (quoted name ++ ": " ++ first) :: rest

mutual

/-- The document over several lines, each part on lines of its own, two spaces deeper. -/
def lines (style : NumberStyle) : Json → List String
  | list (item :: rest) =>
    bracket "[" "]" (lines style item :: itemLines style rest)
  | object ((name, value) :: rest) =>
    bracket "\x7b" "\x7d" (withLabel name (lines style value) :: fieldLines style rest)
  | other => [leaf style other]

def itemLines (style : NumberStyle) : List Json → List (List String)
  | [] => []
  | item :: rest => lines style item :: itemLines style rest

def fieldLines (style : NumberStyle) : List (String × Json) → List (List String)
  | [] => []
  | (name, value) :: rest => withLabel name (lines style value) :: fieldLines style rest

end

/-- Fields with one more, in ascending order of their names; a field of the same name gives
way. -/
def insertField (name : String) (value : Json) : List (String × Json) → List (String × Json)
  | [] => [(name, value)]
  | (other, kept) :: rest =>
    if name < other then (name, value) :: (other, kept) :: rest
    else if name = other then (name, value) :: rest
    else (other, kept) :: insertField name value rest

/-- Fields in ascending order of their names, the last one of each name. -/
def sortFields (fields : List (String × Json)) : List (String × Json) :=
  fields.foldl (fun sorted field ↦ insertField field.1 field.2 sorted) []

end Json

end BatteryTelemetry
