import BatteryTelemetry.Decoder.Basic
import BatteryTelemetry.Proofs.Charge.Transition
import BatteryTelemetry.Proofs.History

/-!
# Receiving a message

The three views of a decoder, which are its published values, its cells and its kept bytes, are
overridden by the last effect that concerns them (`get_applyAll`, `cell_applyAll`,
`highByte_applyAll`). What a frame does is what its message does: `dispatch_of_ok` and
`dispatch_of_error` reduce a frame to `receive`, and a status report is received like a status
message. `row_receive` and `highByte_receive` tell the rows and the kept bytes after a message;
`get_receive_of_notMem` tells which metrics it leaves alone.
-/

namespace BatteryTelemetry

namespace Effect

def valueOf? (metric : Metric) : Effect → Option Value
  | publish m value => if metric = m then some value else none
  | _ => none

def cellOf? (metric : CellMetric) (index : Nat) : Effect → Option Single
  | publishCell m i x => if metric = m ∧ index = i then some x else none
  | _ => none

def byteOf? (block : BlockIndex) : Effect → Option UInt8
  | keep b high => if block = b then some high else none
  | _ => none

attribute [simp] valueOf? cellOf? byteOf? number flag label

end Effect

namespace Message

def metrics : Message → List Metric
  | busVoltage _ => [.busVoltage]
  | current _ => [.current, .power]
  | packVoltage _ => [.packVoltage]
  | stateOfCharge _ => [.rawStateOfCharge, .chargeState, .stateOfCharge, .idealRange]
  | status _ =>
    [.chargeInProgress, .chargeType, .chargeState, .chargeCurrent, .chargePower,
      .chargeCurrentLimit, .chargeVoltage]
  | coolantTemperature _ => [.coolantTemperature]
  | stateOfHealth _ => [.stateOfHealth]
  | rangeEstimate _ => [.rangeEstimate]
  | firstHalf _ _ _ => [.packLeastVoltage]
  | secondHalf _ _ _ _ _ => [.packGreatestVoltage, .packColdest, .packWarmest]

def highByte? : Message → Option (BlockIndex × UInt8)
  | firstHalf block _ high => some (block, high)
  | _ => none

/-- The block whose kept byte a message completes. -/
def completes? : Message → Option BlockIndex
  | secondHalf block _ _ _ _ => some block
  | _ => none

theorem pid_of_completes {message : Message} {block : BlockIndex}
    (h : block ∈ message.completes?) : message.pid = .cellBlock block := by
  cases message <;> simp_all [completes?, pid]

end Message

namespace Decoder

variable (decoder : Decoder)

/-- The last effect on a metric decides. -/
theorem get_applyAll (effects : List Effect) (metric : Metric) :
    (decoder.applyAll effects).store.get metric =
      (lastSaid? (Effect.valueOf? metric) effects).or (decoder.store.get metric) := by
  refine view_foldl (fun d : Decoder ↦ d.store.get metric) ?_ effects decoder
  intro d effect
  cases effect with
  | publish m value => by_cases h : metric = m <;> simp [apply, Store.apply, Store.get_set, h]
  | publishCell | keep | note => rfl

theorem cell_applyAll (effects : List Effect) (metric : CellMetric) (index : Nat) :
    ((decoder.applyAll effects).store.row metric).get index =
      (lastSaid? (Effect.cellOf? metric index) effects).or
        ((decoder.store.row metric).get index) := by
  refine view_foldl (fun d : Decoder ↦ (d.store.row metric).get index) ?_ effects decoder
  intro d effect
  cases effect with
  | publishCell m i x =>
    by_cases h : metric = m
    · by_cases hi : index = i <;>
        simp [apply, Store.apply, Store.row_setCell, CellRow.get_set, h, hi]
    · simp [apply, Store.apply, Store.row_setCell, h]
  | publish | keep | note => rfl

theorem highByte_applyAll (effects : List Effect) (block : BlockIndex) :
    (decoder.applyAll effects).highByte? block =
      (lastSaid? (Effect.byteOf? block) effects).or (decoder.highByte? block) := by
  refine view_foldl (fun d : Decoder ↦ d.highByte? block) ?_ effects decoder
  intro d effect
  cases effect with
  | keep b high =>
    by_cases h : block = b
    · simp [apply, highByte?, h]
    · have hval : (b : Nat) ≠ block := fun heq ↦ h (Fin.ext heq.symm)
      simp [apply, highByte?, h, hval]
  | publish | publishCell | note => rfl

theorem parameters_applyAll (effects : List Effect) :
    (decoder.applyAll effects).parameters = decoder.parameters := by
  induction effects generalizing decoder with
  | nil => rfl
  | cons effect rest ih =>
    rw [applyAll_cons, ih]
    rfl

@[simp]
theorem lastSaid?_valueOf_extremeEffects (m metric : Metric)
    (pick : Single → Single → Single) (row : CellRow) :
    lastSaid? (Effect.valueOf? m) (extremeEffects metric pick row) =
      if m = metric then (row.extreme pick).map .number else none := by
  unfold extremeEffects
  cases row.extreme pick <;> simp

@[simp]
theorem lastSaid?_byteOf_extremeEffects (block : BlockIndex) (metric : Metric)
    (pick : Single → Single → Single) (row : CellRow) :
    lastSaid? (Effect.byteOf? block) (extremeEffects metric pick row) = none := by
  unfold extremeEffects
  cases row.extreme pick <;> simp

/-! ## Messages -/

def cell? (metric : CellMetric) : Message → Option (BlockIndex × Single)
  | .firstHalf block leastCell _ =>
    if metric = .leastVoltage then some (block, Reading.cellVolts leastCell) else none
  | .secondHalf block low coldest warmest board =>
    match metric with
    | .leastVoltage => none
    | .greatestVoltage =>
      (decoder.highByte? block).map fun high ↦ (block, Reading.cellVolts (wordOfBytes high low))
    | .coldest => some (block, Reading.halfDegrees coldest)
    | .warmest => some (block, Reading.halfDegrees warmest)
    | .board => board.map fun raw ↦ (block, Reading.halfDegrees raw)
  | _ => none

/-- What a message writes into a row depends on the byte that it completes, if on anything. -/
theorem cell?_congr {d e : Decoder} {metric : CellMetric} {message : Message}
    (h : metric = .greatestVoltage → ∀ block ∈ message.completes?,
      d.highByte? block = e.highByte? block) :
    d.cell? metric message = e.cell? metric message := by
  cases message with
  | secondHalf block low coldest warmest board =>
    cases metric with
    | greatestVoltage => rw [cell?, cell?, h rfl block rfl]
    | _ => rfl
  | _ => rfl

/-- Whether an effect may be one of a message. -/
def Allows (message : Message) : Effect → Prop
  | .publish metric _ => metric ∈ message.metrics
  | .publishCell metric index x =>
    ∃ block : BlockIndex, decoder.cell? metric message = some (block, x) ∧ index = block
  | .keep block high => message.highByte? = some (block, high)
  | .note _ => True

section

variable {decoder} {message : Message}

@[simp]
theorem allows_publish {metric : Metric} {value : Value} :
    decoder.Allows message (.publish metric value) ↔ metric ∈ message.metrics := Iff.rfl

@[simp]
theorem allows_publishCell {metric : CellMetric} {index : Nat} {x : Single} :
    decoder.Allows message (.publishCell metric index x) ↔
      ∃ block : BlockIndex, decoder.cell? metric message = some (block, x) ∧ index = block :=
  Iff.rfl

@[simp]
theorem allows_keep {block : BlockIndex} {high : UInt8} :
    decoder.Allows message (.keep block high) ↔ message.highByte? = some (block, high) := Iff.rfl

@[simp]
theorem allows_note {note : Note} : decoder.Allows message (.note note) := trivial

end

def receive (message : Message) : Decoder := decoder.applyAll (decoder.messageEffects message)

/-- A metric has the value that the message gives it last, or the one that it had. -/
theorem get_receive (message : Message) (metric : Metric) :
    (decoder.receive message).store.get metric =
      (lastSaid? (Effect.valueOf? metric) (decoder.messageEffects message)).or
        (decoder.store.get metric) :=
  get_applyAll decoder _ metric

theorem report_eq_receive (status : Status) :
    decoder.report status = decoder.receive (.status status) := rfl

theorem dispatch_of_ok {frame : Frame} {message : Message}
    (h : Message.ofFrame frame = .ok message) :
    decoder.dispatch frame = decoder.receive message := by
  rw [dispatch, effects, h]
  rfl

/-- A frame that is not accepted leaves the decoder as it is. -/
theorem dispatch_of_error {frame : Frame} {rejection : Rejection}
    (h : Message.ofFrame frame = .error rejection) : decoder.dispatch frame = decoder := by
  rw [dispatch, effects, h]
  cases rejection <;> rfl

/-! ## Footprints -/

variable {decoder} {message : Message}

@[simp]
theorem forall_mem_extremeEffects {p : Effect → Prop} {metric : Metric}
    {pick : Single → Single → Single} {row : CellRow} :
    (∀ effect ∈ extremeEffects metric pick row, p effect) ↔
      ∀ x, row.extreme pick = some x → p (.publish metric (.number x)) := by
  unfold extremeEffects
  cases row.extreme pick <;> simp

/-- A message has no effects but those it allows. -/
theorem allows_of_mem_messageEffects :
    ∀ effect ∈ decoder.messageEffects message, decoder.Allows message effect := by
  cases message with
  | stateOfCharge raw =>
    cases hflag : decoder.store.flag .chargeInProgress <;>
      simp [messageEffects, stateOfChargeEffects, hflag, Message.metrics]
  | status status =>
    rcases decoder.store.statusEffects_cases status with
      ⟨-, -, heffects⟩ | ⟨-, -, heffects⟩ | ⟨-, -, -, heffects⟩ | ⟨-, -, -, heffects⟩ <;>
      simp [messageEffects, heffects, Store.alternatingEffects, Store.rapidEffects,
        Store.endEffects, Message.metrics]
  | firstHalf block leastCell high =>
    simp [messageEffects, firstHalfEffects, cellEffect, Message.metrics, Message.highByte?,
      cell?]
  | secondHalf block low coldest warmest board =>
    refine List.forall_mem_append.mpr ⟨?_, ?_⟩
    · cases hbyte : decoder.highByte? block <;>
        simp [greatestEffects, hbyte, cellEffect, Message.metrics, cell?]
    · cases board <;>
        simp [temperatureEffects, cellEffect, or_imp, forall_and, Message.metrics, cell?]
  | _ => simp [messageEffects, Message.metrics]

/-- What is not among the metrics of a message is not written by it. -/
theorem lastSaid?_valueOf_of_notMem {metric : Metric} (h : metric ∉ message.metrics) :
    lastSaid? (Effect.valueOf? metric) (decoder.messageEffects message) = none := by
  apply lastSaid?_eq_none
  intro effect heffect
  have hallows := allows_of_mem_messageEffects effect heffect
  cases effect with
  | publish m value =>
    apply if_neg
    rintro rfl
    exact h hallows
  | publishCell | keep | note => rfl

/-- A message leaves the metrics alone that it does not write. -/
theorem get_receive_of_notMem {metric : Metric} (h : metric ∉ message.metrics) :
    (decoder.receive message).store.get metric = decoder.store.get metric := by
  rw [get_receive, lastSaid?_valueOf_of_notMem h, Option.none_or]

/-- Each number for a cell is published. -/
theorem publishCell_mem_messageEffects {metric : CellMetric} {block : BlockIndex} {x : Single}
    (h : decoder.cell? metric message = some (block, x)) :
    .publishCell metric block x ∈ decoder.messageEffects message := by
  cases message with
  | firstHalf b leastCell high =>
    cases metric <;> simp [cell?] at h
    simp [messageEffects, firstHalfEffects, cellEffect, h]
  | secondHalf b low coldest warmest board =>
    cases hbyte : decoder.highByte? b <;> cases board <;> cases metric <;>
      simp [cell?, hbyte] at h <;> obtain ⟨rfl, hx⟩ := h <;>
      simp [messageEffects, greatestEffects, temperatureEffects, hbyte, cellEffect, hx]
  | _ => simp [cell?] at h

theorem cell_of_cellOf_eq_some {metric : CellMetric} {index : Nat} {effect : Effect} {x : Single}
    (heffect : effect ∈ decoder.messageEffects message)
    (h : effect.cellOf? metric index = some x) :
    ∃ block : BlockIndex, decoder.cell? metric message = some (block, x) ∧ index = block := by
  have hallows := allows_of_mem_messageEffects effect heffect
  cases effect with
  | publishCell m i y =>
    simp only [Effect.cellOf?, Option.ite_none_right_eq_some, Option.some.injEq] at h
    obtain ⟨⟨rfl, rfl⟩, rfl⟩ := h
    exact hallows
  | publish | keep | note => simp at h

/-- A message writes into no more than one place of a row. -/
theorem lastSaid?_cellOf_eq_none {metric : CellMetric} {index : Nat}
    (h : ∀ (block : BlockIndex) (x : Single),
      decoder.cell? metric message = some (block, x) → index ≠ block) :
    lastSaid? (Effect.cellOf? metric index) (decoder.messageEffects message) = none := by
  apply lastSaid?_eq_none
  intro effect heffect
  apply Option.eq_none_iff_forall_not_mem.mpr
  intro x hx
  obtain ⟨block, hcell, hindex⟩ := cell_of_cellOf_eq_some heffect hx
  exact h block x hcell hindex

/-- A message writes its cell into a row and leaves the other cells alone. -/
theorem row_receive (decoder : Decoder) (message : Message) (metric : CellMetric) :
    (decoder.receive message).store.row metric =
      match decoder.cell? metric message with
      | some (block, x) => decoder.rowWith metric block x
      | none => decoder.store.row metric := by
  apply CellRow.ext_get
  intro index
  rw [receive, cell_applyAll]
  cases hcell : decoder.cell? metric message with
  | none => rw [lastSaid?_cellOf_eq_none (by simp [hcell]), Option.none_or]
  | some cell =>
    obtain ⟨block, x⟩ := cell
    simp only [rowWith, CellRow.get_set]
    split_ifs with hindex
    · rw [lastSaid?_eq_some x, Option.some_or]
      · exact ⟨_, publishCell_mem_messageEffects hcell, by simp [hindex]⟩
      · intro effect heffect y hy
        obtain ⟨other, hother, -⟩ := cell_of_cellOf_eq_some heffect hy
        rw [hcell] at hother
        exact (Prod.mk.inj (Option.some.inj hother)).2.symm
    · rw [lastSaid?_cellOf_eq_none, Option.none_or]
      rintro other y hother rfl
      rw [hcell] at hother
      exact hindex (by rw [(Prod.mk.inj (Option.some.inj hother)).1])

/-- A message has its block keep its byte and leaves the other bytes alone. -/
theorem highByte_receive (decoder : Decoder) (message : Message) (block : BlockIndex) :
    (decoder.receive message).highByte? block =
      match message.highByte? with
      | some (b, high) => if block = b then some high else decoder.highByte? block
      | none => decoder.highByte? block := by
  rw [receive, highByte_applyAll]
  cases hbyte : message.highByte? with
  | none =>
    rw [lastSaid?_eq_none, Option.none_or]
    intro effect heffect
    have hallows := allows_of_mem_messageEffects effect heffect
    cases effect with
    | keep other high => simp [hbyte] at hallows
    | publish | publishCell | note => rfl
  | some kept =>
    cases message with
    | firstHalf b leastCell high =>
      obtain rfl := Option.some.inj hbyte
      by_cases h : block = b <;> simp [messageEffects, firstHalfEffects, cellEffect, h]
    | _ => simp [Message.highByte?] at hbyte

theorem pid_of_cell {metric : CellMetric} {block : BlockIndex} {x : Single}
    (h : decoder.cell? metric message = some (block, x)) : message.pid = .cellBlock block := by
  cases message with
  | firstHalf b leastCell high =>
    cases metric <;> simp [cell?] at h
    rw [Message.pid, h.1]
  | secondHalf b low coldest warmest board =>
    cases hbyte : decoder.highByte? b <;> cases board <;> cases metric <;>
      simp [cell?, hbyte] at h <;> rw [Message.pid, h.1]
  | _ => simp [cell?] at h

/-- A message about something else leaves the cells of a block alone. -/
theorem cell_receive_of_pid_ne {block : BlockIndex} (h : message.pid ≠ .cellBlock block)
    (metric : CellMetric) :
    ((decoder.receive message).store.row metric).get block =
      (decoder.store.row metric).get block := by
  rw [row_receive]
  split
  · rename_i other x hcell
    have hne : (block : Nat) ≠ other := fun heq ↦ h (by rw [pid_of_cell hcell, Fin.ext heq])
    rw [rowWith, CellRow.get_set, if_neg hne]
  · rfl

/-- A message about something else leaves the kept byte of a block alone. -/
theorem highByte_receive_of_pid_ne {block : BlockIndex} (h : message.pid ≠ .cellBlock block) :
    (decoder.receive message).highByte? block = decoder.highByte? block := by
  rw [highByte_receive]
  cases message with
  | firstHalf other leastCell high =>
    have hne : block ≠ other := fun heq ↦ h (by rw [Message.pid, heq])
    simp [Message.highByte?, hne]
  | _ => rfl

end Decoder

end BatteryTelemetry
