import BatteryTelemetry.Bus.Frame
import BatteryTelemetry.Bus.Pid
import BatteryTelemetry.Bus.Status

/-!
# Messages

What a frame says. A frame is accepted if its code is known and its payload has the bytes that the
parameter needs; the message then holds exactly the bytes that are used, so two frames with one
message are handled alike. `ofPayload_isSome_iff` states the condition.
-/

namespace BatteryTelemetry

/-- The content of an accepted frame. The statistics of a cell block arrive in two halves; the
first one carries the high byte of the greatest cell voltage, the second one its low byte. -/
inductive Message where
  | busVoltage (raw : UInt16)
  | current (raw : UInt16)
  | packVoltage (raw : UInt16)
  | stateOfCharge (raw : UInt16)
  | status (status : Status)
  | coolantTemperature (raw : UInt8)
  | stateOfHealth (raw : UInt16)
  | rangeEstimate (raw : UInt16)
  | firstHalf (block : BlockIndex) (leastCell : UInt16) (greatestCellHigh : UInt8)
  | secondHalf (block : BlockIndex) (greatestCellLow coldest warmest : UInt8)
      (board : Option UInt8)
deriving DecidableEq, Repr

inductive Rejection where
  | unknownCode (code : UInt16)
  | tooShort (pid : Pid) (received : Nat)
deriving DecidableEq, Repr

/-- A code as it is shown in messages, with at least four digits. -/
def codeText (code : UInt16) : String := "0x" ++ String.ofList (Numeral.padded 16 4 code.toNat)

def sizeText (pid : Pid) (received : Nat) : String :=
  s!"required={pid.requiredBytes} received={received}"

def Rejection.message : Rejection → String
  | unknownCode code => s!"Unknown PID {codeText code}"
  | tooShort pid received => s!"Frame too short - {sizeText pid received}"

namespace Message

def pid : Message → Pid
  | busVoltage _ => .busVoltage
  | current _ => .current
  | packVoltage _ => .packVoltage
  | stateOfCharge _ => .stateOfCharge
  | status _ => .status
  | coolantTemperature _ => .coolantTemperature
  | stateOfHealth _ => .stateOfHealth
  | rangeEstimate _ => .rangeEstimate
  | firstHalf block _ _ => .cellBlock block
  | secondHalf block _ _ _ _ => .cellBlock block

/-- The first two bytes of a payload as an unsigned number. -/
def word? : List UInt8 → Option UInt16
  | high :: low :: _ => some (wordOfBytes high low)
  | _ => none

/-- The half of a cell block's statistics in a payload; the first half is the one with bytes still
to come. -/
def half? (block : BlockIndex) (remain : UInt16) : List UInt8 → Option Message
  | a :: b :: c :: rest =>
    if remain = 0 then some (secondHalf block a b c rest.head?)
    else some (firstHalf block (wordOfBytes a b) c)
  | _ => none

/-- The message in a payload of a parameter. -/
def ofPayload? (pid : Pid) (remain : UInt16) (data : List UInt8) : Option Message :=
  match pid with
  | .cellBlock block => half? block remain data
  | .busVoltage => (word? data).map busVoltage
  | .current => (word? data).map current
  | .packVoltage => (word? data).map packVoltage
  | .stateOfCharge => (word? data).map stateOfCharge
  | .status => data.head?.map fun code ↦ status (.ofCode code)
  | .coolantTemperature => data.head?.map coolantTemperature
  | .stateOfHealth => (word? data).map stateOfHealth
  | .rangeEstimate => (word? data).map rangeEstimate

def ofFrame (frame : Frame) : Except Rejection Message :=
  match Pid.ofCode? frame.code with
  | none => .error (.unknownCode frame.code)
  | some pid =>
    match ofPayload? pid frame.remain frame.data with
    | none => .error (.tooShort pid frame.data.length)
    | some message => .ok message

theorem pid_of_half {block : BlockIndex} {remain : UInt16} {data : List UInt8} {message : Message}
    (h : half? block remain data = some message) : message.pid = .cellBlock block := by
  unfold half? at h
  split at h
  · split at h <;> obtain rfl := Option.some.inj h <;> rfl
  · simp at h

/-- What is read from a payload of a parameter reports this parameter. -/
theorem pid_of_ofPayload {pid : Pid} {remain : UInt16} {data : List UInt8} {message : Message}
    (h : ofPayload? pid remain data = some message) : message.pid = pid := by
  cases pid with
  | cellBlock block => exact pid_of_half h
  | _ =>
    obtain ⟨_, -, rfl⟩ := Option.map_eq_some_iff.1 h
    rfl

theorem isSome_word_iff {data : List UInt8} : (word? data).isSome ↔ 2 ≤ data.length := by
  rcases data with _ | ⟨a, _ | ⟨b, rest⟩⟩ <;> simp [word?]

theorem isSome_half_iff {block : BlockIndex} {remain : UInt16} {data : List UInt8} :
    (half? block remain data).isSome ↔ 3 ≤ data.length := by
  rcases data with _ | ⟨a, _ | ⟨b, _ | ⟨c, rest⟩⟩⟩ <;> simp [half?]
  split <;> rfl

/-- Length alone decides whether a payload can be read: there is no other reason to refuse it. -/
theorem ofPayload_isSome_iff {pid : Pid} {remain : UInt16} {data : List UInt8} :
    (ofPayload? pid remain data).isSome ↔ pid.requiredBytes ≤ data.length := by
  cases pid with
  | cellBlock block => exact isSome_half_iff
  | status | coolantTemperature =>
    rw [ofPayload?, Option.isSome_map, List.isSome_head?]
    exact List.length_pos_iff.symm
  | _ =>
    rw [ofPayload?, Option.isSome_map]
    exact isSome_word_iff

end Message

end BatteryTelemetry
