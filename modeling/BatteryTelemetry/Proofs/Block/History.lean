import BatteryTelemetry.Proofs.Bus.Answer
import BatteryTelemetry.Proofs.Decoder.Receive

/-!
# A block and its history

What is known of a cell block is decided by the frames so far. The least voltage, the temperatures
and the board are those of the latest frame that has them. The greatest voltage takes its low byte
from a second half and its high byte from the latest first half before that, however far apart the
two are; second halves before any first half have no part in it.
-/

namespace BatteryTelemetry

namespace Frame

/-- The frame has a second half with the temperature of the block's board, its fourth byte. -/
def HasBoard (block : BlockIndex) (frame : Frame) : Prop :=
  frame.IsSecondHalf block ∧ 4 ≤ frame.data.length

instance (block : BlockIndex) : DecidablePred (HasBoard block) := fun _ ↦
  inferInstanceAs (Decidable (_ ∧ _))

/-- The greatest voltage of a block that a frame completes after the frames before it. -/
def greatestVoltage? (block : BlockIndex) (early : List Frame) (frame : Frame) : Option Single :=
  if frame.IsSecondHalf block then
    (latest? (IsFirstHalf block) early).map fun first ↦
      Reading.cellVolts (wordOfBytes (first.byte 2) (frame.byte 0))
  else none

/-- A greatest voltage is completed by a second half that follows a first one. -/
theorem isSome_greatestVoltage {block : BlockIndex} {early : List Frame} {frame : Frame} :
    (greatestVoltage? block early frame).isSome ↔
      frame.IsSecondHalf block ∧ ∃ first ∈ early, first.IsFirstHalf block := by
  have hfirst : (latest? (IsFirstHalf block) early).isSome ↔
      ∃ first ∈ early, first.IsFirstHalf block := by
    rw [← Option.ne_none_iff_isSome, Ne, latest?_eq_none_iff]
    simp
  by_cases h : frame.IsSecondHalf block <;> simp [greatestVoltage?, h, hfirst]

def cell? (high : Option UInt8) (metric : CellMetric) (block : BlockIndex) (frame : Frame) :
    Option Single :=
  match metric with
  | .leastVoltage =>
    if frame.IsFirstHalf block then some (Reading.cellVolts frame.word) else none
  | .greatestVoltage =>
    if frame.IsSecondHalf block then
      high.map fun high ↦ Reading.cellVolts (wordOfBytes high (frame.byte 0))
    else none
  | .coldest =>
    if frame.IsSecondHalf block then some (Reading.halfDegrees (frame.byte 1)) else none
  | .warmest =>
    if frame.IsSecondHalf block then some (Reading.halfDegrees (frame.byte 2)) else none
  | .board => if frame.HasBoard block then some (Reading.halfDegrees (frame.byte 3)) else none

theorem cell?_of_not_answers {frame : Frame} {block : BlockIndex}
    (h : ¬frame.Answers (.cellBlock block)) (high : Option UInt8) (metric : CellMetric) :
    frame.cell? high metric block = none := by
  cases metric <;> simp [cell?, IsFirstHalf, IsSecondHalf, HasBoard, h]

end Frame

namespace Decoder

variable (decoder : Decoder) {frame : Frame} {block : BlockIndex}

theorem dispatch_of_isFirstHalf (h : frame.IsFirstHalf block) :
    decoder.dispatch frame = decoder.receive (.firstHalf block frame.word (frame.byte 2)) :=
  dispatch_of_ok decoder (Message.ofFrame_eq_firstHalf_iff.mpr ⟨h, rfl, rfl⟩)

theorem dispatch_of_isSecondHalf (h : frame.IsSecondHalf block) :
    decoder.dispatch frame = decoder.receive
      (.secondHalf block (frame.byte 0) (frame.byte 1) (frame.byte 2) frame.data[3]?) :=
  dispatch_of_ok decoder (Message.ofFrame_eq_secondHalf_iff.mpr ⟨h, rfl, rfl, rfl, rfl⟩)

/-- A frame that answers nothing about a block leaves its cells and its kept byte alone. -/
theorem dispatch_of_not_answers (h : ¬frame.Answers (.cellBlock block)) :
    (decoder.dispatch frame).highByte? block = decoder.highByte? block ∧
      ∀ metric, ((decoder.dispatch frame).store.row metric).get block =
        (decoder.store.row metric).get block := by
  cases hframe : Message.ofFrame frame with
  | error rejection =>
    rw [dispatch_of_error decoder hframe]
    exact ⟨rfl, fun _ ↦ rfl⟩
  | ok message =>
    have hpid : message.pid ≠ .cellBlock block := fun heq ↦
      h (heq ▸ Message.answers_of_ofFrame hframe)
    rw [dispatch_of_ok decoder hframe]
    exact ⟨highByte_receive_of_pid_ne hpid, cell_receive_of_pid_ne hpid⟩

/-- Only a first half of the block itself changes the byte that is kept for it. -/
theorem highByte_dispatch (frame : Frame) (block : BlockIndex) :
    (decoder.dispatch frame).highByte? block =
      (if frame.IsFirstHalf block then some (frame.byte 2) else none).or
        (decoder.highByte? block) := by
  rcases frame.half_cases block with h | h | h
  · rw [dispatch_of_isFirstHalf decoder h, highByte_receive]
    simp [Message.highByte?, h]
  · rw [dispatch_of_isSecondHalf decoder h, highByte_receive]
    simp [Message.highByte?, h.not_isFirstHalf]
  · rw [(dispatch_of_not_answers decoder h).1]
    simp [Frame.IsFirstHalf, h]

/-- A frame gives a cell its number or leaves the one that it had. -/
theorem cell_dispatch (frame : Frame) (metric : CellMetric) (block : BlockIndex) :
    ((decoder.dispatch frame).store.row metric).get block =
      (frame.cell? (decoder.highByte? block) metric block).or
        ((decoder.store.row metric).get block) := by
  rcases frame.half_cases block with h | h | h
  · rw [dispatch_of_isFirstHalf decoder h, row_receive]
    have hsecond : ¬frame.IsSecondHalf block := fun hsecond ↦ hsecond.not_isFirstHalf h
    cases metric <;> simp [cell?, Frame.cell?, rowWith, h, hsecond, Frame.HasBoard]
  · rw [dispatch_of_isSecondHalf decoder h, row_receive]
    have hfirst := h.not_isFirstHalf (q := block)
    cases metric with
    | leastVoltage => simp [cell?, Frame.cell?, hfirst]
    | greatestVoltage =>
      cases hbyte : decoder.highByte? block <;> simp [cell?, Frame.cell?, rowWith, h, hbyte]
    | coldest | warmest => simp [cell?, Frame.cell?, rowWith, h]
    | board =>
      by_cases hlength : 4 ≤ frame.data.length
      · have hget := List.getElem?_eq_getElem hlength
        simp [cell?, Frame.cell?, rowWith, h, Frame.HasBoard, Frame.byte, hlength, hget]
      · have hget := List.getElem?_eq_none_iff.mpr (Nat.le_of_lt_succ (Nat.not_le.mp hlength))
        simp [cell?, Frame.cell?, h, Frame.HasBoard, hlength, hget]
  · rw [(dispatch_of_not_answers decoder h).2, Frame.cell?_of_not_answers h, Option.none_or]

@[simp]
theorem highByte_start (parameters : Parameters) (store : Store) (block : BlockIndex) :
    (start parameters store).highByte? block = none := by
  simp [start, highByte?]

variable (parameters : Parameters) (frames : List Frame) (block)

/-- The byte kept for a block is that of the latest first half. -/
theorem highByte_run :
    ((start parameters .empty).run frames).highByte? block =
      (latest? (Frame.IsFirstHalf block) frames).map (·.byte 2) := by
  have hview := view_foldl (fun d : Decoder ↦ d.highByte? block)
    (fun d frame ↦ d.highByte_dispatch frame block) frames (start parameters .empty)
  rw [run, hview, lastSaid?_ite, highByte_start, Option.or_none]

/-- A cell whose frames need no other ones is that of the latest of them. -/
theorem cell_run {p : Frame → Prop} [DecidablePred p] {answer : Frame → Single}
    {metric : CellMetric}
    (h : ∀ high frame, Frame.cell? high metric block frame =
      if p frame then some (answer frame) else none) :
    ((((start parameters .empty).run frames).store.row metric).get block) =
      (latest? p frames).map answer := by
  have hview := view_foldl (fun d : Decoder ↦ (d.store.row metric).get block)
    (fun d frame ↦ (d.cell_dispatch frame metric block).trans
      (congrArg (Option.or · _) (h (d.highByte? block) frame))) frames (start parameters .empty)
  rw [run, hview, lastSaid?_ite]
  simp [start]

/-- The greatest voltage is the one that was completed last. -/
theorem greatestVoltage_run (x : Single) :
    (((start parameters .empty).run frames).store.row .greatestVoltage).get block = some x ↔
      LatestAnswer (Frame.greatestVoltage? block) frames x := by
  refine view_foldl_iff_latestAnswer
    (fun d : Decoder ↦ (d.store.row .greatestVoltage).get block) (by simp [start]) ?_ frames x
  intro early frame
  have hbyte := highByte_run block parameters early
  rw [run] at hbyte
  rw [cell_dispatch, hbyte, Frame.cell?, Frame.greatestVoltage?, Option.map_map]
  rfl

/-- After a lost first half the byte of the one before it is used again. -/
example :
    ((((start .unset .empty).run [⟨0xb0e1, 4, [0x13, 0x88, 0x15]⟩, ⟨0xb0e1, 0, [0x10, 0x78, 0x7a]⟩,
      ⟨0xb0e1, 0, [0x20, 0x78, 0x7a]⟩]).store.row .greatestVoltage).get 0) =
      some (Reading.cellVolts 0x1520) := by
  decide

end Decoder

/-- What the frames tell of a block is what is known of it. -/
structure Store.IsHistoryOf (store : Store) (block : BlockIndex) (frames : List Frame) : Prop where
  leastVoltage : (store.row .leastVoltage).get block =
    (latest? (Frame.IsFirstHalf block) frames).map fun first ↦ Reading.cellVolts first.word
  greatestVoltage_isSome : ((store.row .greatestVoltage).get block).isSome ↔
    ∃ early second late, frames = early ++ second :: late ∧ second.IsSecondHalf block ∧
      ∃ first ∈ early, first.IsFirstHalf block
  greatestVoltage : ∀ x, (store.row .greatestVoltage).get block = some x ↔
    LatestAnswer (Frame.greatestVoltage? block) frames x
  coldest : (store.row .coldest).get block =
    (latest? (Frame.IsSecondHalf block) frames).map fun second ↦
      Reading.halfDegrees (second.byte 1)
  warmest : (store.row .warmest).get block =
    (latest? (Frame.IsSecondHalf block) frames).map fun second ↦
      Reading.halfDegrees (second.byte 2)
  board : (store.row .board).get block =
    (latest? (Frame.HasBoard block) frames).map fun second ↦ Reading.halfDegrees (second.byte 3)

/-- Whatever the frames and their order, a new decoder reassembles each block from its history. -/
theorem Decoder.run_isHistoryOf (parameters : Parameters) (frames : List Frame)
    (block : BlockIndex) :
    ((start parameters .empty).run frames).store.IsHistoryOf block frames where
  leastVoltage := cell_run block parameters frames fun _ _ ↦ rfl
  greatestVoltage_isSome := by
    simp only [Option.isSome_iff_exists, greatestVoltage_run, exists_latestAnswer_iff,
      ← Frame.isSome_greatestVoltage]
  greatestVoltage := greatestVoltage_run block parameters frames
  coldest := cell_run block parameters frames fun _ _ ↦ rfl
  warmest := cell_run block parameters frames fun _ _ ↦ rfl
  board := cell_run block parameters frames fun _ _ ↦ rfl

end BatteryTelemetry
