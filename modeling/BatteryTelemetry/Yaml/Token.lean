import BatteryTelemetry.Yaml.Scalar
import BatteryTelemetry.Yaml.Tag

/-!
# Tokens of YAML text

The tokens of a text tell its structure without its layout: block collections, which are written
by indentation, have a first and a last token like the flow collections in brackets, and a key has
a token in front of it. Whether something is a key shows only at the colon behind it, so what may
turn out to be a key is kept in mind until then; a key and its colon stand on one line and not too
far apart.
-/

namespace BatteryTelemetry.Yaml

inductive Token where
  | directive
  | documentStart
  | documentEnd
  /-- The start of a block list. -/
  | items
  /-- The start of a block mapping. -/
  | entries
  /-- The end of a block collection. -/
  | leave
  | listOpen
  | listClose
  | mapOpen
  | mapClose
  | comma
  | dash
  | key
  | value
  /-- A name for the node behind it, by the number of names before. -/
  | anchor (number : Nat)
  /-- The node of a name. -/
  | reference (number : Nat)
  | tag (tag : Tag)
  | scalar (scalar : Scalar)
deriving DecidableEq, Repr

structure Place where
  /-- How many characters stand before it. -/
  index : Nat
  line : Nat
  column : Nat
deriving DecidableEq, Repr

def Place.after (place : Place) (c : Char) : Place :=
  if isBreak c then ⟨place.index + 1, place.line + 1, 0⟩
  else ⟨place.index + 1, place.line, place.column + 1⟩

/-- A token that may be the first one of a key. -/
structure Candidate where
  place : Place
  /-- How many tokens stand before it. -/
  position : Nat
  /-- It stands where a block mapping has its keys, so it must be one. -/
  isRequired : Bool
deriving DecidableEq, Repr

def keyLimit : Nat := 1024

/-- Whether a colon at a place is too far from a candidate to make it a key. -/
def Candidate.isOver (candidate : Candidate) (place : Place) : Bool :=
  candidate.place.line < place.line || candidate.place.index + keyLimit < place.index

/-- A text that has been read up to a place. -/
structure Reading where
  /-- What is left of the text. -/
  rest : List Char
  place : Place := ⟨0, 0, 0⟩
  /-- The tokens so far, the last one first. -/
  tokens : List Token := []
  /-- The columns of the open block collections, the innermost one first. -/
  columns : List Nat := []
  /-- What may turn out to be a key of the innermost collection. -/
  candidate : Option Candidate := none
  /-- What may turn out to be a key of a collection around it, for each open flow collection. -/
  outer : List (Option Candidate) := []
  /-- Whether a key may start here. -/
  mayStartKey : Bool := true
  /-- The names of nodes, the last one first. -/
  names : List (List Char) := []
  directives : Directives := {}

namespace Reading

def inFlow (reading : Reading) : Bool := !reading.outer.isEmpty

def add (reading : Reading) (token : Token) : Reading :=
  { reading with tokens := token :: reading.tokens }

/-- Puts tokens behind the first ones, of which there are so many. -/
def insert (reading : Reading) (position : Nat) (tokens : List Token) : Reading :=
  let count := reading.tokens.length - position
  { reading with
    tokens := reading.tokens.take count ++ tokens.reverse ++ reading.tokens.drop count }

/-- Goes on to what is left of the text behind something. -/
def goTo (reading : Reading) (rest : List Char) : Reading :=
  let passed := reading.rest.take (reading.rest.length - rest.length)
  { reading with rest, place := passed.foldl Place.after reading.place }

def allowKey (reading : Reading) (mayStartKey : Bool) : Reading := { reading with mayStartKey }

/-- What is left of a text behind the white space, comments and ends of lines at its front, and
whether there is an end of a line among them. Tabs are white space only where no key may start. -/
def behindBlank (inFlow tabs atStart inComment : Bool) : List Char → List Char × Bool
  | [] => ([], false)
  | c :: rest =>
    if isBreak c then ((behindBlank inFlow inFlow true false rest).1, true)
    else if inComment || c = ' ' || (c = '\t' && tabs) || (c = orderMark && atStart) then
      behindBlank inFlow tabs false inComment rest
    else if c = '#' then behindBlank inFlow tabs false true rest
    else (c :: rest, false)

def skipBlank (reading : Reading) : Reading :=
  let inFlow := reading.inFlow
  let (rest, isBroken) := behindBlank inFlow (inFlow || !reading.mayStartKey)
    (reading.place.column = 0) false reading.rest
  let reading := reading.goTo rest
  if isBroken && !inFlow then reading.allowKey true else reading

/-- Opens a block collection, unless one is open in the column, at a position among the tokens. -/
def openBlock (reading : Reading) (token : Token) (column position : Nat) : Reading :=
  if !reading.inFlow && reading.columns.head?.all (· < column) then
    { reading.insert position [token] with columns := column :: reading.columns }
  else reading

/-- Closes the block collections whose columns are not among those that stay. -/
def closeBlocks (reading : Reading) (stays : Nat → Bool) : Reading :=
  if reading.inFlow then reading
  else
    let closed := reading.columns.takeWhile (!stays ·)
    { reading with
      tokens := closed.map (fun _ ↦ .leave) ++ reading.tokens
      columns := reading.columns.dropWhile (!stays ·) }

/-- Gives up a candidate, unless it must be a key. -/
def drop? : Option Candidate → Option (Option Candidate)
  | some candidate => if candidate.isRequired then none else some none
  | none => some none

def dropCandidate? (reading : Reading) : Option Reading := do
  return { reading with candidate := ← drop? reading.candidate }

def dropOver? (reading : Reading) : Option Reading := do
  let check (candidate : Option Candidate) : Option (Option Candidate) :=
    if candidate.any (·.isOver reading.place) then drop? candidate else some candidate
  return { reading with
    candidate := ← check reading.candidate
    outer := ← reading.outer.mapM check }

/-- Takes the next token for a candidate, if a key may start here. -/
def markCandidate? (reading : Reading) : Option Reading :=
  if reading.mayStartKey then do
    let reading ← reading.dropCandidate?
    let isRequired := !reading.inFlow && reading.columns.head? = some reading.place.column
    return { reading with
      candidate := some ⟨reading.place, reading.tokens.length, isRequired⟩ }
  else some reading

/-- Adds the token that begins with the next character and may be a key. Behind it is the rest. -/
def addNode? (reading : Reading) (token : Token) (rest : List Char) : Option Reading := do
  let reading ← reading.markCandidate?
  return ((reading.add token).goTo rest).allowKey false

/-- Adds a token that stands for the next character, which ends what may be a key. -/
def addMark? (reading : Reading) (token : Token) (mayStartKey : Bool) : Option Reading := do
  let reading ← reading.dropCandidate?
  return ((reading.add token).goTo (reading.rest.drop 1)).allowKey mayStartKey

def openFlow? (reading : Reading) (token : Token) : Option Reading := do
  let reading ← reading.markCandidate?
  let reading := { reading with
    candidate := none, outer := reading.candidate :: reading.outer }
  reading.addMark? token true

def closeFlow? (reading : Reading) (token : Token) : Option Reading := do
  let reading ← reading.addMark? token false
  match reading.outer with
  | [] => return reading
  | candidate :: outer => return { reading with candidate, outer }

/-- A mark in front of the items of a block list or in front of a key. In a block it stands where a
key may start, and opens a collection. -/
def indicator? (reading : Reading) (start token : Token) (mayStartKey : Bool) :
    Option Reading := do
  if reading.inFlow then reading.addMark? token mayStartKey
  else if reading.mayStartKey then
    (reading.openBlock start reading.place.column reading.tokens.length).addMark? token mayStartKey
  else none

def colon? (reading : Reading) : Option Reading :=
  match reading.candidate with
  | some candidate =>
    let reading := (reading.insert candidate.position [.key]).openBlock .entries
      candidate.place.column candidate.position
    { reading with candidate := none }.addMark? .value false
  | none => reading.indicator? .entries .value !reading.inFlow

/-- The mark in front of or behind a document, or the line of a directive. All blocks end there. -/
def boundary? (reading : Reading) (token : Token) (rest : List Char) : Option Reading := do
  let reading ← (reading.closeBlocks fun _ ↦ false).dropCandidate?
  return ((reading.add token).goTo rest).allowKey false

def directive? (reading : Reading) (rest : List Char) : Option Reading := do
  let (directives, rest) ← reading.directives.add? rest
  { reading with directives }.boundary? .directive rest

def plain? (reading : Reading) : Option Reading := do
  let column := match reading.columns with
    | [] => 0
    | column :: _ => column + 1
  let ((text, rest), ended) ← plainFrom? reading.inFlow column .nothing reading.rest
  return (← reading.addNode? (.scalar ⟨.plain, text⟩) rest).allowKey ended

def quoted? (reading : Reading) (taken : Option Taken) : Option Reading := do
  let (text, rest) ← taken
  reading.addNode? (.scalar ⟨.quoted, text⟩) rest

def block? (reading : Reading) (style : Style) (rest : List Char) : Option Reading := do
  if reading.inFlow then none
  else
    let reading ← reading.dropCandidate?
    let (text, rest) ← blockFrom? style reading.columns.head? rest
    return ((reading.add (.scalar ⟨style, text⟩)).goTo rest).allowKey true

def name? (text : List Char) : Option Taken :=
  let (name, rest) := nameFrom text
  if name ≠ [] && (standsApart rest || rest.head?.any (· ∈ "?:,]\x7d%@\x60".toList)) then
    some (name, rest)
  else none

def anchor? (reading : Reading) (rest : List Char) : Option Reading := do
  let (name, rest) ← name? rest
  let reading := { reading with names := name :: reading.names }
  reading.addNode? (.anchor reading.names.length) rest

/-- A name stands for the last node before it that has the name. -/
def reference? (reading : Reading) (rest : List Char) : Option Reading := do
  let (name, rest) ← name? rest
  let index ← reading.names.idxOf? name
  reading.addNode? (.reference (reading.names.length - index)) rest

def tagged? (reading : Reading) (rest : List Char) : Option Reading := do
  let (tag, rest) ← tag? reading.inFlow reading.directives.allHandles rest
  reading.addNode? (.tag tag) rest

def token? (reading : Reading) (c : Char) (rest : List Char) : Option Reading :=
  let inFlow := reading.inFlow
  match c with
  | '[' => reading.openFlow? .listOpen
  | ']' => reading.closeFlow? .listClose
  | '\x7b' => reading.openFlow? .mapOpen
  | '\x7d' => reading.closeFlow? .mapClose
  | ',' => reading.addMark? .comma true
  | '-' =>
    if standsApart rest then reading.indicator? .items .dash true else reading.plain?
  | '?' =>
    if inFlow || standsApart rest then reading.indicator? .entries .key !inFlow
    else reading.plain?
  | ':' => if inFlow || standsApart rest then reading.colon? else reading.plain?
  | '*' => reading.reference? rest
  | '&' => reading.anchor? rest
  | '!' => reading.tagged? rest
  | '|' => reading.block? .literal rest
  | '>' => reading.block? .folded rest
  | '\'' => reading.quoted? (apostrophedFrom? .nothing rest)
  | '"' => reading.quoted? (quotedFrom? .nothing rest)
  | c => if isReserved c then none else reading.plain?

/-- Reads the next token. Directives and the marks of documents stand at the start of a line. -/
def next? (reading : Reading) (c : Char) (rest : List Char) : Option Reading :=
  let line := c :: rest
  if reading.place.column ≠ 0 then reading.token? c rest
  else if c = '%' then reading.directive? rest
  else if startsWithMark '-' line then reading.boundary? .documentStart (rest.drop 2)
  else if startsWithMark '.' line then reading.boundary? .documentEnd (rest.drop 2)
  else reading.token? c rest

def tokens? : Nat → Reading → Option (List Token)
  | 0, _ => none
  | bound + 1, reading => do
    let reading ← reading.skipBlank.dropOver?
    match reading.rest with
    | [] => return (← (reading.closeBlocks fun _ ↦ false).dropCandidate?).tokens.reverse
    | c :: rest =>
      let reading := reading.closeBlocks (· ≤ reading.place.column)
      tokens? bound (← reading.next? c rest)

end Reading

def tokens? (text : List Char) : Option (List Token) :=
  if text.all isAllowed then
    let text := withLineFeeds text
    Reading.tokens? (text.length + 1) { rest := text }
  else none

end BatteryTelemetry.Yaml
