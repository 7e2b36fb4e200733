import BatteryTelemetry.Proofs.Decoder.Dispatch
import BatteryTelemetry.Proofs.Pack.Extremes

/-!
# Extremes on any store

A half of a block's statistics takes an extreme of the pack anew from the whole row, whatever the
store held before. The half's own cell is a number, so the extreme is one too: it is held by a place
of the row and comes before every number of the row (`HoldsNumber`). Places that hold a NaN have as
little influence as unknown ones, and so has the old value of the metric (`isRecomputed`). Once an
extreme has been taken this way it is right for good (`holdsNumber_run`).
-/

namespace BatteryTelemetry

theorem PackExtreme.givesWay (extreme : PackExtreme) : GivesWay extreme.pick := by
  cases extreme
  · exact givesWay_min
  · exact givesWay_max
  · exact givesWay_min
  · exact givesWay_max

/-- A metric holds a number of its row that comes before every number of the row. -/
def Store.HoldsNumber (store : Store) (extreme : PackExtreme) : Prop :=
  ∃ x, store.get extreme.metric = some (.number x) ∧ x ≠ .nan ∧
    (∃ index, (store.row extreme.cells).get index = some x) ∧
    ∀ index y, (store.row extreme.cells).get index = some y → y ≠ .nan → extreme.before x y

/-- A metric that shows the extreme of a row with a number in it holds a number. -/
theorem Store.ShowsExtreme.holdsNumber {store : Store} {extreme : PackExtreme}
    (h : store.ShowsExtreme extreme) {index : Nat} {y : Single}
    (hy : (store.row extreme.cells).number? index = some y) : store.HoldsNumber extreme := by
  obtain ⟨hcell, hnan⟩ := CellRow.number?_eq_some_iff.mp hy
  have hsome : ((store.row extreme.cells).extreme extreme.pick).isSome :=
    CellRow.isSome_extreme_iff.mpr ⟨index, by rw [hcell]; rfl⟩
  obtain ⟨x, hx⟩ := Option.isSome_iff_exists.mp hsome
  have hbefore {i : Nat} {z : Single} (hz : (store.row extreme.cells).get i = some z)
      (hzn : z ≠ .nan) : extreme.before x z :=
    CellRow.before_of_extreme extreme.selects hx (CellRow.mem_known_iff.mpr ⟨i, hz⟩) hzn
  refine ⟨x, ?_, extreme.selects.ne_nan (hbefore hcell hnan), ?_, fun i z ↦ hbefore⟩
  · rw [h, hx]
    rfl
  · exact CellRow.mem_known_iff.mp (CellRow.mem_known_of_extreme extreme.selects hx)

namespace Decoder

variable {decoder other : Decoder} {extreme : PackExtreme} {message : Message} {frame : Frame}
  {block : BlockIndex}

theorem number?_receive_of_cell {x : Single}
    (h : decoder.cell? extreme.cells message = some (block, x)) :
    ((decoder.receive message).store.row extreme.cells).number? block = some x := by
  obtain ⟨raw, hraw⟩ := exists_convert_of_cell h
  rw [CellRow.number?_eq_some_iff, row_receive, h]
  exact ⟨CellRow.get_set_self _ _ _, hraw ▸ extreme.converts.ne_nan raw⟩

/-- The extreme is taken from the row as the message leaves it. -/
theorem holdsNumber_receive_of_isSome (h : (decoder.cell? extreme.cells message).isSome) :
    (decoder.receive message).store.HoldsNumber extreme := by
  obtain ⟨⟨block, x⟩, hcell⟩ := Option.isSome_iff_exists.mp h
  exact (showsExtreme_receive_of_isSome h).holdsNumber (number?_receive_of_cell hcell)

/-- A metric that holds a number of its row goes on doing so, whatever the message. -/
theorem holdsNumber_receive (h : decoder.store.HoldsNumber extreme) (message : Message) :
    (decoder.receive message).store.HoldsNumber extreme := by
  cases hcell : decoder.cell? extreme.cells message with
  | some cell => exact holdsNumber_receive_of_isSome (by rw [hcell]; rfl)
  | none =>
    have hget : (decoder.receive message).store.get extreme.metric =
        decoder.store.get extreme.metric := by
      rw [get_receive_extreme, hcell]
      rfl
    have hrow : (decoder.receive message).store.row extreme.cells =
        decoder.store.row extreme.cells := by
      rw [row_receive, hcell]
    rw [Store.HoldsNumber, hget, hrow]
    exact h

/-- Decoders with the same numbers outside a message's own place take the same extreme of it. -/
theorem get_receive_extreme_congr {x : Single}
    (h : decoder.cell? extreme.cells message = some (block, x))
    (hother : other.cell? extreme.cells message = some (block, x))
    (hnumber : ∀ index : Nat, index ≠ block →
      (other.store.row extreme.cells).number? index =
        (decoder.store.row extreme.cells).number? index) :
    (other.receive message).store.get extreme.metric =
      (decoder.receive message).store.get extreme.metric := by
  have hrows (index : Nat) : ((other.receive message).store.row extreme.cells).number? index =
      ((decoder.receive message).store.row extreme.cells).number? index := by
    by_cases hindex : index = block
    · rw [hindex, number?_receive_of_cell h, number?_receive_of_cell hother]
    · simp only [row_receive, h, hother, rowWith, CellRow.number?, CellRow.get_set, if_neg hindex]
      exact hnumber index hindex
  have hextreme : ((other.receive message).store.row extreme.cells).extreme extreme.pick =
      ((decoder.receive message).store.row extreme.cells).extreme extreme.pick :=
    CellRow.extreme_eq_of_number? extreme.givesWay hrows (number?_receive_of_cell hother)
  rw [get_receive_extreme, get_receive_extreme, h, hother, hextreme]
  rfl

/-- An answer about a block has an extreme taken anew. A second half has a greatest voltage only if
a byte is kept for it. -/
def Recomputes (decoder : Decoder) (frame : Frame) (block : BlockIndex) : PackExtreme → Prop
  | .leastVoltage => frame.IsFirstHalf block
  | .greatestVoltage => frame.IsSecondHalf block ∧ (decoder.highByte? block).isSome
  | .coldest | .warmest => frame.IsSecondHalf block

/-- An extreme is taken anew exactly if the message writes into its row. -/
theorem recomputes_iff (h : frame.Answers (.cellBlock block)) :
    decoder.Recomputes frame block extreme ↔
      (decoder.cell? extreme.cells (frame.message (.cellBlock block))).isSome := by
  by_cases hremain : frame.remain = 0 <;> cases extreme <;>
    simp [Recomputes, Frame.IsFirstHalf, Frame.IsSecondHalf, h, hremain, Frame.message, cell?,
      PackExtreme.cells]

/-- A decoder has the numbers of another one in a row, whatever it holds in the place of a block
and in places without a number. For the greatest voltage the block's kept byte is the same too. -/
structure HasNumbersOf (other decoder : Decoder) (block : BlockIndex) (extreme : PackExtreme) :
    Prop where
  highByte : extreme = .greatestVoltage → other.highByte? block = decoder.highByte? block
  number (index : Nat) : index ≠ block →
    (other.store.row extreme.cells).number? index = (decoder.store.row extreme.cells).number? index

/-- Both decoders keep the same byte, so a frame gives both the same number. -/
theorem HasNumbersOf.cell?_eq (h : other.HasNumbersOf decoder block extreme) (frame : Frame) :
    other.cell? extreme.cells (frame.message (.cellBlock block)) =
      decoder.cell? extreme.cells (frame.message (.cellBlock block)) := by
  apply cell?_congr
  intro hgreatest own hown
  have hextreme : extreme = .greatestVoltage := by
    cases extreme <;> simp_all [PackExtreme.cells]
  have hpid := Message.pid_of_completes hown
  rw [Message.pid_message] at hpid
  rw [← Pid.cellBlock.inj hpid, h.highByte hextreme]

/-- An extreme is taken anew from the numbers of its row, if at all. -/
structure IsRecomputed (decoder : Decoder) (frame : Frame) (block : BlockIndex)
    (extreme : PackExtreme) : Prop where
  holdsNumber : decoder.Recomputes frame block extreme →
    (decoder.dispatch frame).store.HoldsNumber extreme
  independent (other : Decoder) : decoder.Recomputes frame block extreme →
    other.HasNumbersOf decoder block extreme →
      (other.dispatch frame).store.get extreme.metric =
        (decoder.dispatch frame).store.get extreme.metric
  unchanged : ¬decoder.Recomputes frame block extreme →
    (decoder.dispatch frame).store.get extreme.metric = decoder.store.get extreme.metric

/-- An answer about a block takes the extremes anew, whatever the decoder holds. -/
theorem isRecomputed (h : frame.Answers (.cellBlock block)) (extreme : PackExtreme) :
    decoder.IsRecomputed frame block extreme := by
  constructor
  · intro hrecomputes
    rw [dispatch_of_answers decoder h]
    exact holdsNumber_receive_of_isSome ((recomputes_iff h).mp hrecomputes)
  · intro other hrecomputes hother
    obtain ⟨⟨own, x⟩, hcell⟩ := Option.isSome_iff_exists.mp ((recomputes_iff h).mp hrecomputes)
    obtain rfl : own = block := by
      have hpid := pid_of_cell hcell
      rw [Message.pid_message] at hpid
      exact (Pid.cellBlock.inj hpid).symm
    rw [dispatch_of_answers other h, dispatch_of_answers decoder h]
    exact get_receive_extreme_congr hcell ((hother.cell?_eq frame).trans hcell) hother.number
  · intro hkept
    rw [recomputes_iff h] at hkept
    rw [dispatch_of_answers decoder h, get_receive_extreme, if_neg hkept]

/-- A cell that is not a number, an infinite one and an old value that is no number at all: the
first half of another block shows the least of the numbers. -/
theorem isRecomputed_of_nan :
    let store := ((Store.empty.setCell .leastVoltage 0 .nan).setCell .leastVoltage 4
      (.infinite false)).set .packLeastVoltage (.label "unknown")
    let frame : Frame := ⟨0xb0e2, 4, [0x13, 0x88, 0x15]⟩
    let block : BlockIndex := ⟨1, by decide⟩
    let decoder := start .unset store
    frame.Answers (.cellBlock block) ∧ decoder.Recomputes frame block .leastVoltage ∧
      decoder.IsRecomputed frame block .leastVoltage ∧
      (decoder.dispatch frame).store.get .packLeastVoltage =
        some (.number (Reading.cellVolts 0x1388)) := by
  intro store frame block decoder
  have hanswers : frame.Answers (.cellBlock block) := by decide
  exact ⟨hanswers, ⟨hanswers, by decide⟩, isRecomputed hanswers .leastVoltage, by decide⟩

theorem holdsNumber_dispatch (h : decoder.store.HoldsNumber extreme) (frame : Frame) :
    (decoder.dispatch frame).store.HoldsNumber extreme := by
  cases hframe : Message.ofFrame frame with
  | error rejection => rwa [dispatch_of_error decoder hframe]
  | ok message =>
    rw [dispatch_of_ok decoder hframe]
    exact holdsNumber_receive h message

/-- By induction on the frames, from any decoder that holds the number already. -/
theorem holdsNumber_run (h : decoder.store.HoldsNumber extreme) (frames : List Frame) :
    (decoder.run frames).store.HoldsNumber extreme := by
  induction frames generalizing decoder with
  | nil => exact h
  | cons frame rest ih => exact ih (holdsNumber_dispatch h frame)

/-- From whatever state, one frame that takes an extreme anew is enough for the extreme to be right
at the end of a run. -/
theorem holdsNumber_run_of_recomputes {early late : List Frame}
    (hanswers : frame.Answers (.cellBlock block))
    (h : (decoder.run early).Recomputes frame block extreme) :
    (decoder.run (early ++ frame :: late)).store.HoldsNumber extreme := by
  rw [run_append, run_cons, dispatch_of_answers _ hanswers]
  exact holdsNumber_run (holdsNumber_receive_of_isSome ((recomputes_iff hanswers).mp h)) late

end Decoder

end BatteryTelemetry
