import BatteryTelemetry.Files
import BatteryTelemetry.Yaml.Node

/-!
# Records in YAML files

A settings file holds one mapping of named fields. Fields of unknown names are passed over, a known
one may be given once. The type of a field decides what its node must be: `no` is no flag, and a
quoted numeral is no number, but any scalar is a text.
-/

namespace BatteryTelemetry.Yaml

namespace Node

def text? : Node → Option String
  | scalar _ s => some (String.ofList s.text)
  | _ => none

/-- The text of a scalar that may stand for something else than a text: one that is written
plainly, or as kept lines with the tag of its type. -/
def typedText? (type : String) : Node → Option String
  | scalar tag ⟨style, text⟩ =>
    if style = .plain ∨ (style = .literal ∧ tag = some (Tag.ofType type)) then
      some (String.ofList text)
    else none
  | _ => none

/-- The flag that a word stands for, in lower case, capitalised or in upper case. -/
def flagOfWord? (word : String) : Option Bool :=
  if word ∈ ["true", "True", "TRUE"] then some true
  else if word ∈ ["false", "False", "FALSE"] then some false
  else none

def flag? (node : Node) : Option Bool := node.typedText? "bool" >>= flagOfWord?

def nullWords : List String := ["~", "null", "Null", "NULL"]

/-- The text of a scalar, or no text for a plain scalar that says so. One whose tag says that there
is nothing must be a word for nothing. -/
def textOrNone? : Node → Option (Option String)
  | scalar tag ⟨.plain, text⟩ =>
    let text := String.ofList text
    match tag with
    | none => some (if text = "" ∨ text ∈ nullWords then none else some text)
    | some tag =>
      if tag ≠ Tag.ofType "null" then some (some text)
      else if text ∈ nullWords then some none
      else none
  | node => node.text?.map some

def digits? : List Char → Option (Nat × List Char)
  | '0' :: 'x' :: rest => some (16, rest)
  | '0' :: 'o' :: rest => some (8, rest)
  | '0' :: 'b' :: rest => some (2, rest)
  | '0' :: _ :: _ => none
  | rest => some (10, rest)

def withoutPlus : List Char → List Char
  | '+' :: rest => rest
  | text => text

/-- The natural number of a scalar, if it is at most `limit`. -/
def natural? (limit : Nat) (node : Node) : Option Nat := do
  let text ← node.typedText? "int"
  match ← digits? (withoutPlus text.toList) with
  | (_, '+' :: _) => none
  | (radix, digits) => (Numeral.read radix limit digits).toOption

end Node

/-- Named fields, in the order in which they are given. -/
abbrev Record := List (String × Node)

/-- The fields of a document. A document without content has none. -/
def Record.ofDocument? (document : Node) : Option Record :=
  match document.resolve document with
  | .scalar _ ⟨.plain, []⟩ => some []
  | .mapping entries => entries.mapM fun (key, value) ↦
    (document.resolve key).text?.map (·, document.resolve value)
  | _ => none

inductive LoadFault where
  | file (fault : FileFault)
  /-- The file has been opened, but its content is not what it should be. -/
  | content
  /-- A length of time in it cannot be counted. -/
  | uncountable
deriving DecidableEq, Repr

/-- The message about a settings file that cannot be read. Its content needs none. -/
def LoadFault.message? : LoadFault → Option String
  | file fault => some (readingMessage fault.message)
  | content | uncountable => none

/-- What reading something from a record gives. -/
abbrev Loaded := Except LoadFault

def needed {α : Type} (value : Option α) : Loaded α :=
  match value with
  | some value => .ok value
  | none => .error .content

def givenOnce {α : Type} (known : Option α) (value : Loaded α) : Loaded (Option α) :=
  if known.isSome then .error .content else some <$> value

def readRecord? (bytes : List UInt8) : Option Record := do
  let text ← decodeText? bytes
  let tokens ← tokens? text
  let document ← Node.ofTokens? tokens
  Record.ofDocument? document

/-- What a settings file says. That a name belongs to a directory shows only when it is read. -/
def load {α : Type} (files : Files) (name : String) (ofRecord : Record → Loaded α) : Loaded α :=
  match files name with
  | .error .isDirectory => .error .content
  | .error fault => .error (.file fault)
  | .ok bytes => needed (readRecord? bytes) >>= ofRecord

end BatteryTelemetry.Yaml
