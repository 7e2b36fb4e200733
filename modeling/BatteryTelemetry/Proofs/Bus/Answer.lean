import BatteryTelemetry.Bus.Message

/-!
# Frames that answer a poll

A frame answers a parameter if it has the parameter's code and the bytes that the parameter needs.
These are the frames with a message (`answers_iff`), and the message is read off the payload's
bytes (`ofFrame_of_answers`); `ofFrame_eq_firstHalf_iff` and `ofFrame_eq_secondHalf_iff` say when
it is a half of a block's statistics.
-/

namespace BatteryTelemetry

namespace Frame

/-- The frame has the code of a parameter and the bytes that the parameter needs. -/
def Answers (frame : Frame) (pid : Pid) : Prop :=
  frame.code = pid.code ∧ pid.requiredBytes ≤ frame.data.length

instance (frame : Frame) (pid : Pid) : Decidable (frame.Answers pid) :=
  inferInstanceAs (Decidable (_ ∧ _))

def byte (frame : Frame) (index : Nat) : UInt8 := frame.data[index]?.getD 0

def word (frame : Frame) : UInt16 := wordOfBytes (frame.byte 0) (frame.byte 1)

/-- The frame has the first half of a block's statistics: more bytes are to come. -/
def IsFirstHalf (block : BlockIndex) (frame : Frame) : Prop :=
  frame.Answers (.cellBlock block) ∧ frame.remain ≠ 0

/-- The frame has the second half of a block's statistics: no more bytes are to come. -/
def IsSecondHalf (block : BlockIndex) (frame : Frame) : Prop :=
  frame.Answers (.cellBlock block) ∧ frame.remain = 0

def message (frame : Frame) : Pid → Message
  | .cellBlock block =>
    if frame.remain = 0 then
      .secondHalf block (frame.byte 0) (frame.byte 1) (frame.byte 2) frame.data[3]?
    else .firstHalf block frame.word (frame.byte 2)
  | .busVoltage => .busVoltage frame.word
  | .current => .current frame.word
  | .packVoltage => .packVoltage frame.word
  | .stateOfCharge => .stateOfCharge frame.word
  | .status => .status (.ofCode (frame.byte 0))
  | .coolantTemperature => .coolantTemperature (frame.byte 0)
  | .stateOfHealth => .stateOfHealth frame.word
  | .rangeEstimate => .rangeEstimate frame.word

instance (block : BlockIndex) : DecidablePred (IsFirstHalf block) := fun _ ↦
  inferInstanceAs (Decidable (_ ∧ _))

instance (block : BlockIndex) : DecidablePred (IsSecondHalf block) := fun _ ↦
  inferInstanceAs (Decidable (_ ∧ _))

/-- A frame answers no more than one parameter. -/
theorem Answers.unique {frame : Frame} {p q : Pid} (hp : frame.Answers p) (hq : frame.Answers q) :
    p = q :=
  Pid.code_injective (hp.1.symm.trans hq.1)

theorem IsSecondHalf.not_isFirstHalf {frame : Frame} {p q : BlockIndex}
    (h : frame.IsSecondHalf p) : ¬frame.IsFirstHalf q := fun hfirst ↦ hfirst.2 h.2

/-- Whether a frame of a block is its first or its second half depends on the bytes still to come.
-/
theorem half_cases (frame : Frame) (block : BlockIndex) :
    frame.IsFirstHalf block ∨ frame.IsSecondHalf block ∨ ¬frame.Answers (.cellBlock block) := by
  by_cases hanswers : frame.Answers (.cellBlock block)
  · by_cases hremain : frame.remain = 0
    · exact .inr (.inl ⟨hanswers, hremain⟩)
    · exact .inl ⟨hanswers, hremain⟩
  · exact .inr (.inr hanswers)

end Frame

namespace Message

variable {frame : Frame} {message : Message}

theorem ofFrame_eq_ok_iff :
    ofFrame frame = .ok message ↔
      frame.code = message.pid.code ∧
        ofPayload? message.pid frame.remain frame.data = some message := by
  unfold ofFrame
  constructor
  · intro h
    split at h
    · cases h
    · rename_i pid hpid
      split at h
      · cases h
      · rename_i m hm
        obtain rfl := Except.ok.inj h
        obtain rfl := pid_of_ofPayload hm
        exact ⟨(Pid.ofCode_eq_some_iff.mp hpid).symm, hm⟩
  · rintro ⟨hcode, hpayload⟩
    simp [Pid.ofCode_eq_some_iff.mpr hcode.symm, hpayload]

/-- The frames with a message are those that answer a parameter. -/
theorem answers_iff {pid : Pid} :
    frame.Answers pid ↔ ∃ message, ofFrame frame = .ok message ∧ message.pid = pid := by
  have hsome := @ofPayload_isSome_iff pid frame.remain frame.data
  simp only [ofFrame_eq_ok_iff, Frame.Answers, ← hsome, Option.isSome_iff_exists]
  constructor
  · rintro ⟨hcode, message, hmessage⟩
    obtain rfl := pid_of_ofPayload hmessage
    exact ⟨message, ⟨hcode, hmessage⟩, rfl⟩
  · rintro ⟨message, ⟨hcode, hmessage⟩, rfl⟩
    exact ⟨hcode, message, hmessage⟩

theorem answers_of_ofFrame (h : ofFrame frame = .ok message) : frame.Answers message.pid :=
  answers_iff.mpr ⟨message, h, rfl⟩

theorem pid_message (frame : Frame) (pid : Pid) : (frame.message pid).pid = pid := by
  cases pid with
  | cellBlock block => by_cases h : frame.remain = 0 <;> simp [Frame.message, h, Message.pid]
  | _ => rfl

theorem head?_data (h : 1 ≤ frame.data.length) : frame.data.head? = some (frame.byte 0) := by
  rw [List.head?_eq_getElem?, Frame.byte, List.getElem?_eq_getElem h]
  rfl

theorem word?_data (h : 2 ≤ frame.data.length) : word? frame.data = some frame.word := by
  rcases frame with ⟨code, remain, _ | ⟨a, _ | ⟨b, rest⟩⟩⟩
  · simp at h
  · simp at h
  · rfl

theorem half?_data (block : BlockIndex) (h : 3 ≤ frame.data.length) :
    half? block frame.remain frame.data = some (frame.message (.cellBlock block)) := by
  rcases frame with ⟨code, remain, _ | ⟨a, _ | ⟨b, _ | ⟨c, rest⟩⟩⟩⟩
  · simp at h
  · simp at h
  · simp at h
  · rw [half?, Frame.message, apply_ite some, List.head?_eq_getElem?]
    rfl

/-- Code and length are all that a frame is tested for. -/
theorem ofFrame_of_answers {pid : Pid} (h : frame.Answers pid) :
    ofFrame frame = .ok (frame.message pid) := by
  rw [ofFrame_eq_ok_iff, pid_message]
  refine ⟨h.1, ?_⟩
  have hlength := h.2
  cases pid with
  | cellBlock block => exact half?_data block hlength
  | status | coolantTemperature => rw [ofPayload?, head?_data hlength]; rfl
  | _ => rw [ofPayload?, word?_data hlength]; rfl

/-- What a frame says is what it says as an answer to the parameter of its message. -/
theorem ofFrame_eq_ok_iff_message :
    ofFrame frame = .ok message ↔
      frame.Answers message.pid ∧ message = frame.message message.pid := by
  constructor
  · intro h
    have hanswers := answers_of_ofFrame h
    rw [ofFrame_of_answers hanswers] at h
    exact ⟨hanswers, (Except.ok.inj h).symm⟩
  · rintro ⟨hanswers, hmessage⟩
    rw [ofFrame_of_answers hanswers, ← hmessage]

/-- A first half carries the least voltage and the high byte of the greatest one. -/
theorem ofFrame_eq_firstHalf_iff {block : BlockIndex} {leastCell : UInt16} {high : UInt8} :
    ofFrame frame = .ok (.firstHalf block leastCell high) ↔
      frame.IsFirstHalf block ∧ leastCell = frame.word ∧ high = frame.byte 2 := by
  rw [ofFrame_eq_ok_iff_message, Frame.IsFirstHalf]
  by_cases hremain : frame.remain = 0 <;> simp [pid, Frame.message, hremain]

theorem ofFrame_eq_secondHalf_iff {block : BlockIndex} {low coldest warmest : UInt8}
    {board : Option UInt8} :
    ofFrame frame = .ok (.secondHalf block low coldest warmest board) ↔
      frame.IsSecondHalf block ∧ low = frame.byte 0 ∧ coldest = frame.byte 1 ∧
        warmest = frame.byte 2 ∧ board = frame.data[3]? := by
  rw [ofFrame_eq_ok_iff_message, Frame.IsSecondHalf]
  by_cases hremain : frame.remain = 0 <;> simp [pid, Frame.message, hremain]

end Message

end BatteryTelemetry
