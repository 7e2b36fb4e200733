import BatteryTelemetry.Yaml.Token

/-!
# Nodes of YAML documents

A document is a tree of scalars, lists and mappings, in which a name may stand for a node that has
been given the name before. A node that is left out is an empty plain scalar.

The readers of nested nodes carry a number that bounds their depth. It is taken from the number of
tokens, of which a few levels use up one, so it never ends the reading of a document early.
-/

namespace BatteryTelemetry.Yaml

inductive Node where
  | scalar (tag : Option Tag) (scalar : Scalar)
  | list (items : List Node)
  | mapping (entries : List (Node × Node))
  | reference (number : Nat)
  /-- A node that aliases stand for. -/
  | anchored (number : Nat) (node : Node)
deriving Repr

namespace Node

def absent : Node := scalar none ⟨.plain, []⟩

/-- What a node may be where it stands. -/
inductive Context where
  | inFlow
  | inBlock
  /-- The key or the value of a block mapping may also be a list whose items have no start of their
  own, since their dashes stand in the column of the keys. -/
  | inEntry
deriving DecidableEq, Repr

structure Properties where
  anchor : Option Nat := none
  tag : Option Tag := none
deriving DecidableEq, Repr

namespace Properties

/-- The properties at the front of tokens, an anchor and a tag in either order. -/
def taken : List Token → Properties × List Token
  | .anchor number :: .tag tag :: rest => (⟨some number, some tag⟩, rest)
  | .tag tag :: .anchor number :: rest => (⟨some number, some tag⟩, rest)
  | .anchor number :: rest => (⟨some number, none⟩, rest)
  | .tag tag :: rest => (⟨none, some tag⟩, rest)
  | tokens => ({}, tokens)

/-- A node with its anchor. -/
def anchorTo (properties : Properties) (node : Node) : Node :=
  match properties.anchor with
  | some number => anchored number node
  | none => node

end Properties

def isNext (tokens choices : List Token) : Bool :=
  tokens.head?.any (· ∈ choices)

mutual

/-- A node. One that has properties may be empty otherwise. -/
def read? : Nat → Context → List Token → Option (Node × List Token)
  | 0, _, _ => none
  | _, _, .reference number :: rest => some (reference number, rest)
  | bound + 1, context, tokens =>
    let (properties, tokens) := Properties.taken tokens
    (content? bound context properties tokens).map fun (node, rest) ↦
      (properties.anchorTo node, rest)

def content? : Nat → Context → Properties → List Token → Option (Node × List Token)
  | 0, _, _, _ => none
  | bound + 1, context, properties, token :: rest =>
    match token, context with
    | .scalar s, _ => some (scalar properties.tag s, rest)
    | .listOpen, _ => (flowItems? bound rest).map fun (items, rest) ↦ (list items, rest)
    | .mapOpen, _ => (flowEntries? bound rest).map fun (entries, rest) ↦ (mapping entries, rest)
    | .items, .inBlock | .items, .inEntry =>
      (blockItems? bound rest).map fun (items, rest) ↦ (list items, rest)
    | .entries, .inBlock | .entries, .inEntry =>
      (blockEntries? bound rest).map fun (entries, rest) ↦ (mapping entries, rest)
    | .dash, .inEntry =>
      (plainItems? bound (token :: rest)).map fun (items, rest) ↦ (list items, rest)
    | _, _ =>
      if properties = {} then none else some (scalar properties.tag ⟨.plain, []⟩, token :: rest)
  | _ + 1, _, properties, [] =>
    if properties = {} then none else some (scalar properties.tag ⟨.plain, []⟩, [])

/-- A node, or none in front of some tokens. -/
def readUnless? : Nat → Context → List Token → List Token → Option (Node × List Token)
  | 0, _, _, _ => none
  | bound + 1, context, choices, tokens =>
    if isNext tokens choices then some (absent, tokens) else read? bound context tokens

def valueOf? : Nat → Context → List Token → List Token → Option (Node × List Token)
  | 0, _, _, _ => none
  | bound + 1, context, choices, .value :: rest => readUnless? bound context choices rest
  | _, _, _, tokens => some (absent, tokens)

def blockItems? : Nat → List Token → Option (List Node × List Token)
  | bound + 1, .dash :: rest => do
    let (item, rest) ← readUnless? bound .inBlock [.dash, .leave] rest
    let (items, rest) ← blockItems? bound rest
    return (item :: items, rest)
  | _ + 1, .leave :: rest => some ([], rest)
  | _, _ => none

/-- The items of a list that has no end of its own. -/
def plainItems? : Nat → List Token → Option (List Node × List Token)
  | 0, _ => none
  | bound + 1, .dash :: rest => do
    let (item, rest) ← readUnless? bound .inBlock [.dash, .key, .value, .leave] rest
    let (items, rest) ← plainItems? bound rest
    return (item :: items, rest)
  | _, tokens => some ([], tokens)

def blockEntries? : Nat → List Token → Option (List (Node × Node) × List Token)
  | bound + 1, .key :: rest => do
    let (key, rest) ← readUnless? bound .inEntry [.key, .value, .leave] rest
    let (value, rest) ← valueOf? bound .inEntry [.key, .value, .leave] rest
    let (entries, rest) ← blockEntries? bound rest
    return ((key, value) :: entries, rest)
  | _ + 1, .leave :: rest => some ([], rest)
  | _, _ => none

/-- The items of a flow list, up to its end. -/
def flowItems? : Nat → List Token → Option (List Node × List Token)
  | 0, _ => none
  | _, .listClose :: rest => some ([], rest)
  | bound + 1, tokens => do
    let (item, rest) ← flowItem? bound tokens
    match rest with
    | .comma :: rest =>
      let (items, rest) ← flowItems? bound rest
      return (item :: items, rest)
    | .listClose :: rest => return ([item], rest)
    | _ => none

/-- An item of a flow list. A key among the items is a mapping of its own; if it is left out, so
is the token behind it. -/
def flowItem? : Nat → List Token → Option (Node × List Token)
  | 0, _ => none
  | bound + 1, .key :: rest => do
    let (key, rest) ← if isNext rest [.value, .comma, .listClose] then some (absent, rest.drop 1)
      else read? bound .inFlow rest
    let (value, rest) ← valueOf? bound .inFlow [.comma, .listClose] rest
    return (mapping [(key, value)], rest)
  | bound + 1, tokens => read? bound .inFlow tokens

/-- The entries of a flow mapping, up to its end. A node without a mark of a key has no value. -/
def flowEntries? : Nat → List Token → Option (List (Node × Node) × List Token)
  | 0, _ => none
  | _, .mapClose :: rest => some ([], rest)
  | bound + 1, tokens => do
    let (entry, rest) ← flowEntry? bound tokens
    match rest with
    | .comma :: rest =>
      let (entries, rest) ← flowEntries? bound rest
      return (entry :: entries, rest)
    | .mapClose :: rest => return ([entry], rest)
    | _ => none

def flowEntry? : Nat → List Token → Option ((Node × Node) × List Token)
  | 0, _ => none
  | bound + 1, .key :: rest => do
    let (key, rest) ← readUnless? bound .inFlow [.value, .comma, .mapClose] rest
    let (value, rest) ← valueOf? bound .inFlow [.comma, .mapClose] rest
    return ((key, value), rest)
  | bound + 1, tokens => (read? bound .inFlow tokens).map fun (key, rest) ↦ ((key, absent), rest)

end

/-- A bound on the depth of reading some tokens. -/
def depthBound (tokens : List Token) : Nat := 4 * (tokens.length + 2)

/-- The node of a document behind its opening mark. -/
def ofOpened? (tokens : List Token) : Option (Node × List Token) :=
  if tokens = [] ∨ isNext tokens [.directive, .documentStart, .documentEnd] then
    some (absent, tokens)
  else read? (depthBound tokens) .inBlock tokens

/-- The node of the one document of a text. A document may do without an opening mark if it has no
directives. -/
def ofTokens? (tokens : List Token) : Option Node := do
  let (node, rest) ← match tokens.dropWhile (· = .directive) with
    | [] => if tokens = [] then some (absent, []) else none
    | .documentStart :: rest => ofOpened? rest
    | _ =>
      if isNext tokens [.directive] then none else read? (depthBound tokens) .inBlock tokens
  if rest.all (· = .documentEnd) then return node else none

mutual

def find? (number : Nat) : Node → Option Node
  | anchored other node => if other = number then some node else node.find? number
  | list items => findInItems? number items
  | mapping entries => findInEntries? number entries
  | _ => none

def findInItems? (number : Nat) : List Node → Option Node
  | [] => none
  | item :: items => (item.find? number).or (findInItems? number items)

def findInEntries? (number : Nat) : List (Node × Node) → Option Node
  | [] => none
  | (key, value) :: entries =>
    ((key.find? number).or (value.find? number)).or (findInEntries? number entries)

end

/-- A node of a document without its names: a reference is the node it stands for. -/
def resolve (document : Node) : Node → Node
  | reference number => (document.find? number).getD absent
  | anchored _ node => node
  | node => node

end Node

end BatteryTelemetry.Yaml
