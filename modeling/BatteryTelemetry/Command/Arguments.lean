/-!
# Command-line arguments

The arguments of a command are switches and values, and may end in the name of a command below it,
whose own arguments follow. A switch is a word behind two hyphens, or one of several letters behind
one; a setting takes its value from the same argument or the next one. After a lone `--` there are
values only.

Splitting arguments into items looks only at their form; what the items say is left to each
command.
-/

namespace BatteryTelemetry.Command

inductive SwitchKind where
  | flag
  | setting
  /-- The switch is answered at once, whatever follows it. -/
  | question
deriving DecidableEq, Repr

/-- A word that stands behind two hyphens, and the letter that is short for it. -/
structure Switch where
  name : String
  letter : Option Char
  kind : SwitchKind
deriving DecidableEq, Repr

/-- What a command takes. -/
structure Grammar where
  switches : List Switch
  /-- The names of the commands below. -/
  commands : List String
  /-- How many values there may be. -/
  room : Nat
deriving Repr

/-- A part of the arguments that may mean something by itself. -/
inductive Item where
  /-- A switch that has no value attached to it. -/
  | switch (name : String)
  /-- A setting with its value, which is either attached to its switch or the next argument. -/
  | setting (name value : String) (attached : Bool)
  | value (index : Nat) (text : String)
deriving DecidableEq, Repr

/-- Whether an item is looked at no sooner than at the next one: a value could have gone on. -/
def Item.waits : Item → Bool
  | switch _ => false
  | setting _ _ attached => !attached
  | value _ _ => true

/-- The items that are looked at whatever follows them. -/
def settled (items : List Item) : List Item :=
  if items.getLast?.any Item.waits then items.dropLast else items

/-- How the arguments of a command end. -/
inductive Ending where
  | finished
  | command (name : String) (rest : List String)
  | question (name : String)
  /-- There is an unknown switch, a value too many, or no value where there should be one. -/
  | unknown
deriving DecidableEq, Repr

/-- What is expected behind an argument. -/
inductive Continuation where
  | more
  | valueOf (name : String)
  | ends (ending : Ending)
deriving DecidableEq, Repr

/-- Whether an argument can be made of switches. -/
def isHyphenated (argument : String) : Bool :=
  match argument.toList with
  | '-' :: _ :: _ => true
  | _ => false

namespace Grammar

def readSwitch (switch : Switch) (attached : Option String) : List Item × Continuation :=
  match switch.kind, attached with
  | .flag, none => ([.switch switch.name], .more)
  | .setting, none => ([.switch switch.name], .valueOf switch.name)
  | .setting, some value => ([.setting switch.name value true], .more)
  | .question, none => ([], .ends (.question switch.name))
  | _, some _ => ([], .ends .unknown)

/-- What a word behind two hyphens says. A value may be attached to it with an equals sign. -/
def readWord (grammar : Grammar) (text : List Char) : List Item × Continuation :=
  let name := String.ofList (text.takeWhile (· ≠ '='))
  let attached := match text.dropWhile (· ≠ '=') with
    | [] => none
    | _ :: value => some (String.ofList value)
  match grammar.switches.find? (·.name = name) with
  | none => ([], .ends .unknown)
  | some switch => readSwitch switch attached

/-- What letters behind a hyphen say. A value may be attached to its letter as it is or with an
equals sign. -/
def readLetters (grammar : Grammar) : List Char → List Item × Continuation
  | [] => ([], .more)
  | c :: rest =>
    match grammar.switches.find? (·.letter = some c) with
    | none => ([], .ends .unknown)
    | some switch =>
      match switch.kind, rest with
      | .setting, '=' :: value => readSwitch switch (some (String.ofList value))
      | .setting, first :: value => readSwitch switch (some (String.ofList (first :: value)))
      | _, _ =>
        match readSwitch switch none with
        | (items, .more) =>
          let (others, continuation) := grammar.readLetters rest
          (items ++ others, continuation)
        | stopped => stopped

def readSwitches (grammar : Grammar) (argument : String) : List Item × Continuation :=
  match argument.toList with
  | '-' :: '-' :: word => grammar.readWord word
  | '-' :: letters => grammar.readLetters letters
  | _ => ([], .ends .unknown)

def behind (items : List Item) (split : List Item × Ending) : List Item × Ending :=
  (items ++ split.1, split.2)

/-- Arguments that are values only, the first one with a number. -/
def splitValues (grammar : Grammar) (index : Nat) : List String → List Item × Ending
  | [] => ([], .finished)
  | argument :: rest =>
    if index < grammar.room then
      behind [.value index argument] (grammar.splitValues (index + 1) rest)
    else ([], .unknown)

/-- The items of arguments and how they end. The first argument may be the value of a setting
before it, and the next value has a number. -/
def splitFrom (grammar : Grammar) (setting : Option String) (index : Nat) :
    List String → List Item × Ending
  | [] => ([], if setting.isSome then .unknown else .finished)
  | argument :: rest =>
    match setting with
    | some name =>
      if isHyphenated argument then ([], .unknown)
      else behind [.setting name argument false] (grammar.splitFrom none index rest)
    | none =>
      if argument ∈ grammar.commands then ([], .command argument rest)
      else if argument = "--" then grammar.splitValues index rest
      else if isHyphenated argument then
        match grammar.readSwitches argument with
        | (items, .more) => behind items (grammar.splitFrom none index rest)
        | (items, .valueOf name) => behind items (grammar.splitFrom (some name) index rest)
        | (items, .ends ending) => (items, ending)
      else if index < grammar.room then
        behind [.value index argument] (grammar.splitFrom none (index + 1) rest)
      else ([], .unknown)

def split (grammar : Grammar) (arguments : List String) : List Item × Ending :=
  grammar.splitFrom none 0 arguments

end Grammar

end BatteryTelemetry.Command
