import BatteryTelemetry.Number.Numeral
import BatteryTelemetry.Text.Blank

/-!
# Lengths of time

A length of time is written as a sum of parts, each a number and a unit, such as `1m 30s` or
`1.5h`. White space may stand around the parts and within a part's number. Seconds, and
nanoseconds before they are carried, are counted in sixty-four bits, and so are the digits of a
fraction and the power of ten below them; what needs more is refused. A fraction of a unit must
come out even: in nanoseconds for units of up to a minute, in seconds for longer ones.

One sum is neither a length nor refused. When a part brings the nanoseconds to exactly one second
and the count of seconds has no room for it, the sum is uncountable.
-/

namespace BatteryTelemetry

structure Duration where
  seconds : Nat
  /-- The part below a second. -/
  nanoseconds : Nat
deriving DecidableEq, Repr

namespace Duration

inductive Fault where
  | refused
  | uncountable
deriving DecidableEq, Repr

def limit : Nat := 0xffffffffffffffff

def zero : Duration := ⟨0, 0⟩

def ofSeconds (seconds : Nat) : Duration := ⟨seconds, 0⟩

def nanosecondsPerSecond : Nat := 1000000000

def milliseconds (duration : Duration) : Nat :=
  duration.seconds * 1000 + duration.nanoseconds / 1000000

structure Scale where
  names : List String
  whole : Duration
  /-- The same length in what its fractions are counted in, if it may have any. -/
  divided : Option Duration
deriving DecidableEq, Repr

/-- The units. A month is a twelfth of a year to a hundredth of a day, a year has 365.25 days. -/
def scales : List Scale :=
  [⟨["ns", "nsec", "nanos"], ⟨0, 1⟩, none⟩,
    ⟨["us", "usec", "µs"], ⟨0, 1000⟩, some ⟨0, 1000⟩⟩,
    ⟨["ms", "msec", "millis"], ⟨0, 1000000⟩, some ⟨0, 1000000⟩⟩,
    ⟨["s", "sec", "secs", "second", "seconds"], ⟨1, 0⟩, some ⟨0, nanosecondsPerSecond⟩⟩,
    ⟨["m", "min", "mins", "minute", "minutes"], ⟨60, 0⟩, some ⟨0, 60 * nanosecondsPerSecond⟩⟩,
    ⟨["h", "hr", "hrs", "hour", "hours"], ⟨3600, 0⟩, some ⟨3600, 0⟩⟩,
    ⟨["d", "day", "days"], ⟨86400, 0⟩, some ⟨86400, 0⟩⟩,
    ⟨["w", "wk", "wks", "week", "weeks"], ⟨604800, 0⟩, some ⟨604800, 0⟩⟩,
    ⟨["M", "month", "months"], ⟨2630016, 0⟩, some ⟨2630016, 0⟩⟩,
    ⟨["y", "yr", "yrs", "year", "years"], ⟨31557600, 0⟩, some ⟨31557600, 0⟩⟩]

def scale? (name : String) : Option Scale := scales.find? (name ∈ ·.names)

def isUnitLetter (c : Char) : Bool := c.isAlpha || c = 'µ'

def add (sum : Duration) (seconds nanoseconds : Nat) : Except Fault Duration :=
  let below := sum.nanoseconds + nanoseconds
  let above := sum.seconds + seconds
  let carried := above + below / nanosecondsPerSecond
  if limit < below ∨ limit < above then .error .refused
  else if carried ≤ limit then .ok ⟨carried, below % nanosecondsPerSecond⟩
  else .error (if below = nanosecondsPerSecond then .uncountable else .refused)

/-- A quotient without a rest of a product that can be counted. -/
def portion? (numerator factor denominator : Nat) : Option Nat :=
  let product := numerator * factor
  if product ≤ limit ∧ product % denominator = 0 then some (product / denominator) else none

/-- A number: its whole part, and the digits of its fraction as a numerator and a power of ten. -/
structure Amount where
  whole : Nat
  fraction : Option (Nat × Nat)
deriving DecidableEq, Repr

def addFraction (sum : Duration) (numerator denominator : Nat) (scale : Scale) :
    Except Fault Duration :=
  let portion (factor : Nat) := portion? numerator factor denominator
  let parts := scale.divided.bind fun unit ↦
    return (← portion unit.seconds, ← portion unit.nanoseconds)
  match parts with
  | some (seconds, nanoseconds) => sum.add seconds nanoseconds
  | none => .error .refused

/-- A length together with an amount of the unit that some letters name. -/
def addPart (sum : Duration) (amount : Amount) (letters : List Char) : Except Fault Duration :=
  match scale? (String.ofList letters) with
  | none => .error .refused
  | some scale => do
    let sum ← sum.add (amount.whole * scale.whole.seconds) (amount.whole * scale.whole.nanoseconds)
    match amount.fraction with
    | none => return sum
    | some (numerator, denominator) => sum.addFraction numerator denominator scale

/-- What of a part has been read: nothing, its number up to some digit, or its number and some
letters of its unit. -/
inductive Progress where
  | nothing
  | number (amount : Amount)
  | unit (amount : Amount) (letters : List Char)
deriving DecidableEq, Repr

namespace Amount

/-- A number with one more digit, if the counts have room for it. -/
def addDigit? (amount : Amount) (digit : Nat) : Option Amount :=
  match amount.fraction with
  | none =>
    let whole := amount.whole * 10 + digit
    if whole ≤ limit then some { amount with whole } else none
  | some (numerator, denominator) =>
    let denominator := denominator * 10
    if denominator ≤ limit then
      some { amount with fraction := some (numerator * 10 + digit, denominator) }
    else none

/-- A number behind whose digits a point stands. -/
def addPoint? (amount : Amount) : Option Amount :=
  if amount.fraction.isNone then some { amount with fraction := some (0, 1) } else none

/-- Whether there is a digit behind the point, if there is a point. -/
def isComplete (amount : Amount) : Bool := amount.fraction.all (·.2 ≠ 1)

/-- What has been read after one more character behind a number. -/
def step? (amount : Amount) (c : Char) : Option Progress :=
  match Numeral.digit? 10 c with
  | some digit => .number <$> amount.addDigit? digit
  | none =>
    if Text.isBlank c then some (.number amount)
    else if c = '.' then .number <$> amount.addPoint?
    else if isUnitLetter c && amount.isComplete then some (.unit amount [c])
    else none

end Amount

/-- The parts before and the one being read, after one more character. -/
def step (state : Duration × Progress) (c : Char) : Except Fault (Duration × Progress) :=
  let (sum, progress) := state
  match progress, Numeral.digit? 10 c with
  | .nothing, some digit => .ok (sum, .number ⟨digit, none⟩)
  | .nothing, none => if Text.isBlank c then .ok state else .error .refused
  | .number amount, _ =>
    match amount.step? c with
    | some progress => .ok (sum, progress)
    | none => .error .refused
  | .unit amount letters, some digit => do
    return (← sum.addPart amount letters, .number ⟨digit, none⟩)
  | .unit amount letters, none =>
    if Text.isBlank c then do return (← sum.addPart amount letters, .nothing)
    else if isUnitLetter c then .ok (sum, .unit amount (letters ++ [c]))
    else .error .refused

/-- The length that a text stands for. A lone zero needs no unit. -/
def read (text : List Char) : Except Fault Duration :=
  if text = ['0'] then .ok zero
  else if text.all Text.isBlank then .error .refused
  else do
    match ← text.foldlM step (zero, .nothing) with
    | (sum, .nothing) => return sum
    | (sum, .unit amount letters) => sum.addPart amount letters
    | (_, .number _) => throw .refused

end Duration

end BatteryTelemetry
