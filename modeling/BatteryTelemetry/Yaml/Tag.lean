import BatteryTelemetry.Number.Numeral
import BatteryTelemetry.Yaml.Character

/-!
# Tags and directives

A tag says what a node is. It is written in full between angle brackets, or as a handle and a
suffix; directives at the head of a document tell what handles stand for, and which version of
YAML the document is written in.
-/

namespace BatteryTelemetry.Yaml

abbrev Tag := List Char

namespace Tag

def ownTypes : Tag := "tag:yaml.org,2002:".toList

def ofType (name : String) : Tag := ownTypes ++ name.toList

end Tag

abbrev Handles := List (List Char × Tag)

/-- What handles stand for in every document, if directives do not say otherwise. -/
def defaultHandles : Handles := [(['!'], ['!']), (['!', '!'], Tag.ownTypes)]

/-- The characters that stand for themselves in a tag. Commas and square brackets are among them
only between angle brackets and in directives. -/
def isTagCharacter (inFull : Bool) (c : Char) : Bool :=
  isNameCharacter c || c ∈ ";/?:@&=+$.!~*'()".toList || (inFull && c ∈ [',', '[', ']'])

/-- An octet that is written as two hexadecimal digits behind a percent sign. -/
def octet? : List Char → Option (Nat × List Char)
  | '%' :: high :: low :: rest => do
    return ((← Numeral.digit? 16 high) * 16 + (← Numeral.digit? 16 low), rest)
  | _ => none

/-- How many octets a character takes whose first one is known, and that octet's part of its code
point. -/
def leadingOctet? (octet : Nat) : Option (Nat × Nat) :=
  if octet < 0x80 then some (1, octet)
  else if octet < 0xc0 then none
  else if octet < 0xe0 then some (2, octet % 0x20)
  else if octet < 0xf0 then some (3, octet % 0x10)
  else if octet < 0xf8 then some (4, octet % 0x8)
  else none

/-- A code point whose first part is known, with so many more octets. -/
def trailingOctets? (value : Nat) : Nat → List Char → Option (Nat × List Char)
  | 0, text => some (value, text)
  | count + 1, text => do
    let (octet, rest) ← octet? text
    if 0x80 ≤ octet ∧ octet < 0xc0 then trailingOctets? (value * 0x40 + octet % 0x40) count rest
    else none

/-- A character that is written as its octets. -/
def escapedCharacter? (text : List Char) : Option (Char × List Char) := do
  let (octet, rest) ← octet? text
  let (count, value) ← leadingOctet? octet
  let (value, rest) ← trailingOctets? value (count - 1) rest
  return (Char.ofNat value, rest)

/-- The address at the front of a text, of a bounded length. -/
def address? (inFull : Bool) : Nat → List Char → Option (List Char × List Char)
  | bound + 1, c :: rest =>
    if c = '%' then do
      let (escaped, rest) ← escapedCharacter? (c :: rest)
      let (address, rest) ← address? inFull bound rest
      return (escaped :: address, rest)
    else if isTagCharacter inFull c then
      (address? inFull bound rest).map fun (address, rest) ↦ (c :: address, rest)
    else some ([], c :: rest)
  | _, text => some ([], text)

def addressFrom? (inFull : Bool) (text : List Char) : Option (List Char × List Char) :=
  address? inFull text.length text

def nameFrom (text : List Char) : List Char × List Char :=
  (text.takeWhile isNameCharacter, text.dropWhile isNameCharacter)

/-- The text behind an exclamation mark as a handle, which ends in another one, and a suffix, or as
a suffix alone. -/
def handleFrom (text : List Char) : List Char × List Char :=
  match nameFrom text with
  | (name, '!' :: rest) => ('!' :: name ++ ['!'], rest)
  | _ => (['!'], text)

/-- The tag behind an exclamation mark. A lone exclamation mark is a tag as it is. -/
def tagFrom? (handles : Handles) (text : List Char) : Option (Tag × List Char) :=
  match text with
  | '<' :: rest => do
    match ← addressFrom? true rest with
    | (tag, '>' :: rest) => if tag = [] then none else return (tag, rest)
    | _ => none
  | text => do
    let (handle, rest) := handleFrom text
    let (suffix, rest) ← addressFrom? false rest
    if suffix = [] then
      if handle = ['!'] then return (['!'], rest) else none
    else return ((← handles.lookup handle) ++ suffix, rest)

/-- The tag behind an exclamation mark, which must stand apart from what follows it. -/
def tag? (inFlow : Bool) (handles : Handles) (text : List Char) : Option (Tag × List Char) :=
  match tagFrom? handles text with
  | some (tag, rest) =>
    if standsApart rest || (inFlow && rest.head? = some ',') then some (tag, rest) else none
  | none => none

/-- What the directives of a document have said. -/
structure Directives where
  handles : Handles := []
  hasVersion : Bool := false

namespace Directives

def allHandles (directives : Directives) : Handles := directives.handles ++ defaultHandles

def digitLimit : Nat := 9

def number? (text : List Char) : Option (Nat × List Char) :=
  let digits := text.takeWhile Char.isDigit
  if digits = [] ∨ digitLimit < digits.length then none
  else
    match Numeral.readDigits 10 (Nat.pow 10 digitLimit) 0 digits with
    | .ok number => some (number, text.dropWhile Char.isDigit)
    | .error _ => none

/-- A document may be written in version 1.1 or 1.2, and says so once. -/
def addVersion? (directives : Directives) (text : List Char) :
    Option (Directives × List Char) := do
  match ← number? (text.dropWhile isGap) with
  | (major, '.' :: rest) =>
    let (minor, rest) ← number? rest
    if directives.hasVersion ∨ major ≠ 1 ∨ minor ∉ [1, 2] then none
    else return ({ directives with hasVersion := true }, rest)
  | _ => none

/-- A handle and what it stands for. Each handle may be given once. -/
def addHandle? (directives : Directives) (text : List Char) :
    Option (Directives × List Char) := do
  match text.dropWhile isGap with
  | '!' :: rest =>
    let (name, rest) := nameFrom rest
    let (handle, rest) ← match rest with
      | '!' :: rest => some ('!' :: name ++ ['!'], rest)
      | rest => if name = [] then some (['!'], rest) else none
    if rest.head?.any isGap then
      let (address, rest) ← addressFrom? true (rest.dropWhile isGap)
      if address = [] ∨ ¬standsApart rest ∨ (directives.handles.lookup handle).isSome then none
      else return ({ directives with handles := (handle, address) :: directives.handles }, rest)
    else none
  | _ => none

/-- The directives with the one behind a percent sign, and the text behind its line. -/
def add? (directives : Directives) (text : List Char) : Option (Directives × List Char) := do
  let (name, rest) := nameFrom text
  if ¬standsApart rest then none
  else
    let (directives, rest) ←
      if name = "YAML".toList then directives.addVersion? rest
      else if name = "TAG".toList then directives.addHandle? rest
      else none
    return (directives, ← lineRest? rest)

end Directives

end BatteryTelemetry.Yaml
