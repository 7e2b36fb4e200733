import BatteryTelemetry.Proofs.Decoder.Dispatch
import BatteryTelemetry.Proofs.Pack.Extremes

/-!
# The footprint of a frame

Which metrics a frame reads and writes depends on its message and on little of the state: a status
that ends a charge and a state of charge look at the flag of a charge in progress, a second half at
the byte that is kept for its block. The lists are exact (`filterMap_metric?_messageEffects`). Two
decoders that agree on what a message reads have the same effects of it
(`messageEffects_eq_of_agreesFor`); of a row they need to agree on the other places only, for a
frame writes its own place before an extreme is taken. Frames that differ in bytes nobody uses have
the same message, so the same holds of frames (`writeAlike_of_agreesFor`).
-/

namespace BatteryTelemetry

/-- Two frames agree on the bytes that a parameter uses. For a cell block they have the same half,
which is told by whether bytes are still to come, and only a second half uses a fourth byte. -/
structure Frame.AgreesFor (f g : Frame) (pid : Pid) : Prop where
  used : f.data.take pid.requiredBytes = g.data.take pid.requiredBytes
  half (block : BlockIndex) : pid = .cellBlock block → (f.remain = 0 ↔ g.remain = 0)
  board (block : BlockIndex) : pid = .cellBlock block → f.remain = 0 → f.data[3]? = g.data[3]?

namespace Frame.AgreesFor

variable {f g : Frame} {pid : Pid}

theorem byte_eq (h : f.AgreesFor g pid) {index : Nat} (hindex : index < pid.requiredBytes) :
    f.byte index = g.byte index := by
  have hget : (f.data.take pid.requiredBytes)[index]? = (g.data.take pid.requiredBytes)[index]? :=
    congrArg (·[index]?) h.used
  simp only [List.getElem?_take_of_lt hindex] at hget
  rw [byte, byte, hget]

theorem word_eq (h : f.AgreesFor g pid) (hlength : 2 ≤ pid.requiredBytes) : f.word = g.word := by
  rw [word, word, h.byte_eq (Nat.lt_of_lt_of_le Nat.zero_lt_two hlength), h.byte_eq hlength]

/-- Frames that agree on the used bytes say the same. -/
theorem message_eq (h : f.AgreesFor g pid) : f.message pid = g.message pid := by
  cases pid with
  | cellBlock block =>
    have hword : f.word = g.word := h.word_eq (by decide : 2 ≤ 3)
    have hzero : f.byte 0 = g.byte 0 := h.byte_eq (by decide : 0 < 3)
    have hone : f.byte 1 = g.byte 1 := h.byte_eq (by decide : 1 < 3)
    have htwo : f.byte 2 = g.byte 2 := h.byte_eq (by decide : 2 < 3)
    by_cases hremain : f.remain = 0
    · have hother := (h.half block rfl).mp hremain
      rw [message, message, if_pos hremain, if_pos hother, hzero, hone, htwo,
        h.board block rfl hremain]
    · have hother := mt (h.half block rfl).mpr hremain
      rw [message, message, if_neg hremain, if_neg hother, hword, htwo]
  | status | coolantTemperature =>
    have hzero : f.byte 0 = g.byte 0 := h.byte_eq (by decide : 0 < 1)
    rw [message, message, hzero]
  | _ =>
    have hword : f.word = g.word := h.word_eq (by decide : 2 ≤ 2)
    rw [message, message, hword]

end Frame.AgreesFor

/-- Two rows agree on all places but one. -/
def CellRow.SameBut (index : Nat) (r s : CellRow) : Prop := ∀ i, i ≠ index → r.get i = s.get i

/-- Writing the place in which two rows differ makes them the same. -/
theorem CellRow.SameBut.set_eq {index : Nat} {r s : CellRow} (h : r.SameBut index s) (x : Single) :
    r.set index x = s.set index x := by
  apply CellRow.ext_get
  intro i
  rw [get_set, get_set]
  split_ifs with hi
  · rfl
  · exact h i hi

namespace Effect

def isWrite : Effect → Bool
  | note _ => false
  | _ => true

def metric? : Effect → Option Metric
  | publish metric _ => some metric
  | _ => none

attribute [simp] isWrite metric?

/-- A history of effects says something of a metric if one of them publishes it. -/
theorem isSome_lastSaid?_valueOf_iff {metric : Metric} {effects : List Effect} :
    (lastSaid? (valueOf? metric) effects).isSome ↔ metric ∈ effects.filterMap metric? := by
  have hvalue (effect : Effect) :
      (∃ value, effect.valueOf? metric = some value) ↔ effect.metric? = some metric := by
    cases effect <;> simp [eq_comm]
  rw [isSome_lastSaid?_iff, List.mem_filterMap]
  simp only [hvalue]

end Effect

namespace Decoder

/-! ## Metrics read and written -/

variable (decoder : Decoder)

def metricsRead : Message → List Metric
  | .busVoltage raw => if raw = Reading.busOff then [.packVoltage] else []
  | .current _ => [.busVoltage]
  | .stateOfCharge _ => [.chargeInProgress]
  | .status status =>
    match status.chargeType with
    | .alternating => []
    | .rapid => [.current, .power, .busVoltage]
    | .notCharging =>
      .chargeInProgress :: if decoder.store.flag .chargeInProgress then [.stateOfCharge] else []
  | _ => []

def metricsWritten : Message → List Metric
  | .busVoltage _ => [.busVoltage]
  | .current _ => [.current, .power]
  | .packVoltage _ => [.packVoltage]
  | .stateOfCharge _ =>
    .rawStateOfCharge :: (if decoder.store.flag .chargeInProgress then [.chargeState] else []) ++
      [.stateOfCharge, .idealRange]
  | .status status =>
    match status.chargeType with
    | .alternating => [.chargeInProgress, .chargeType]
    | .rapid =>
      [.chargeInProgress, .chargeType, .chargeCurrent, .chargePower, .chargeCurrentLimit,
        .chargeVoltage]
    | .notCharging =>
      if decoder.store.flag .chargeInProgress then [.chargeType, .chargeState, .chargeInProgress]
      else []
  | .coolantTemperature _ => [.coolantTemperature]
  | .stateOfHealth _ => [.stateOfHealth]
  | .rangeEstimate _ => [.rangeEstimate]
  | .firstHalf _ _ _ => [.packLeastVoltage]
  | .secondHalf block _ _ _ _ =>
    (if (decoder.highByte? block).isSome then [.packGreatestVoltage] else []) ++
      [.packColdest, .packWarmest]

/-- A row with a cell just written has an extreme. -/
theorem filterMap_metric?_extremeEffects (cells : CellMetric) (block : BlockIndex) (x : Single)
    (metric : Metric) (pick : Single → Single → Single) :
    (extremeEffects metric pick (decoder.rowWith cells block x)).filterMap Effect.metric? =
      [metric] := by
  have hsome : ((decoder.rowWith cells block x).extreme pick).isSome :=
    CellRow.isSome_extreme_iff.mpr ⟨block, by simp [rowWith]⟩
  obtain ⟨y, hy⟩ := Option.isSome_iff_exists.mp hsome
  simp [extremeEffects, hy]

/-- The metrics that are written are read off the message and the decoder beforehand. -/
theorem filterMap_metric?_messageEffects (message : Message) :
    (decoder.messageEffects message).filterMap Effect.metric? = decoder.metricsWritten message := by
  cases message with
  | stateOfCharge raw =>
    cases hflag : decoder.store.flag .chargeInProgress <;>
      simp [messageEffects, stateOfChargeEffects, metricsWritten, hflag]
  | status status =>
    rw [messageEffects, metricsWritten]
    rcases decoder.store.statusEffects_cases status with
      ⟨-, htype, heffects⟩ | ⟨-, htype, heffects⟩ | ⟨-, htype, hflag, heffects⟩ |
        ⟨-, htype, hflag, heffects⟩ <;>
      simp [*, Store.alternatingEffects, Store.rapidEffects, Store.endEffects, List.filterMap_cons]
  | firstHalf block leastCell high =>
    simp [messageEffects, firstHalfEffects, metricsWritten, cellEffect, List.filterMap_cons,
      filterMap_metric?_extremeEffects]
  | secondHalf block low coldest warmest board =>
    cases hbyte : decoder.highByte? block <;> cases board <;>
      simp [messageEffects, greatestEffects, temperatureEffects, metricsWritten, cellEffect, hbyte,
        List.filterMap_cons, filterMap_metric?_extremeEffects]
  | _ => simp [messageEffects, metricsWritten]

/-! ## What decides the effects -/

/-- Two decoders agree on what a message reads: the window of a state of charge, the metrics, the
byte that it completes, and all places but its own of the rows over which it takes an extreme. -/
structure AgreesFor (d e : Decoder) (message : Message) : Prop where
  window : message.pid = .stateOfCharge →
    ChargeWindow.ofParameters d.parameters = ChargeWindow.ofParameters e.parameters
  metric : ∀ metric ∈ d.metricsRead message, d.store.get metric = e.store.get metric
  highByte : ∀ block ∈ message.completes?, d.highByte? block = e.highByte? block
  row (extreme : PackExtreme) (block : BlockIndex) (x : Single) :
    d.cell? extreme.cells message = some (block, x) →
      (d.store.row extreme.cells).SameBut block (e.store.row extreme.cells)

namespace AgreesFor

variable {d e : Decoder} {message : Message}

theorem number_eq (h : d.AgreesFor e message) {metric : Metric}
    (hmetric : metric ∈ d.metricsRead message) : d.store.number metric = e.store.number metric := by
  rw [Store.number, Store.number, Store.number?, Store.number?, h.metric metric hmetric]

theorem flag_eq (h : d.AgreesFor e message) {metric : Metric}
    (hmetric : metric ∈ d.metricsRead message) : d.store.flag metric = e.store.flag metric := by
  rw [Store.flag, Store.flag, h.metric metric hmetric]

/-- The place in which the rows may differ is the one that is written over. -/
theorem rowWith_eq (h : d.AgreesFor e message) (extreme : PackExtreme) {block : BlockIndex}
    {x : Single} (hcell : d.cell? extreme.cells message = some (block, x)) :
    d.rowWith extreme.cells block x = e.rowWith extreme.cells block x :=
  (h.row extreme block x hcell).set_eq x

theorem statusEffects_eq {status : Status} (h : d.AgreesFor e (.status status)) :
    d.store.statusEffects status = e.store.statusEffects status := by
  rw [Store.statusEffects_eq, Store.statusEffects_eq]
  cases htype : status.chargeType with
  | alternating => rfl
  | rapid =>
    have hcurrent : d.store.number .current = e.store.number .current :=
      h.number_eq (by simp [metricsRead, htype])
    have hpower : d.store.number .power = e.store.number .power :=
      h.number_eq (by simp [metricsRead, htype])
    have hvoltage : d.store.number .busVoltage = e.store.number .busVoltage :=
      h.number_eq (by simp [metricsRead, htype])
    simp only [Store.rapidEffects, hcurrent, hpower, hvoltage]
  | notCharging =>
    have hflag : d.store.flag .chargeInProgress = e.store.flag .chargeInProgress :=
      h.flag_eq (by simp [metricsRead, htype])
    simp only [← hflag]
    split_ifs with hcharging
    · have hstate : d.store.number .stateOfCharge = e.store.number .stateOfCharge :=
        h.number_eq (by simp [metricsRead, htype, hcharging])
      simp only [Store.endEffects, hstate]
    · rfl

end AgreesFor

/-- What a message does depends on nothing but what it reads. -/
theorem messageEffects_eq_of_agreesFor {d e : Decoder} {message : Message}
    (h : d.AgreesFor e message) : d.messageEffects message = e.messageEffects message := by
  cases message with
  | busVoltage raw =>
    rw [messageEffects, messageEffects]
    split_ifs with hoff
    · rw [h.number_eq (by simp [metricsRead, hoff])]
    · rfl
  | current raw => rw [messageEffects, messageEffects, h.number_eq (by simp [metricsRead])]
  | stateOfCharge raw =>
    rw [messageEffects, messageEffects, stateOfChargeEffects, stateOfChargeEffects, h.window rfl,
      h.flag_eq (by simp [metricsRead])]
  | status status => exact h.statusEffects_eq
  | firstHalf block leastCell high =>
    have hleast : d.rowWith .leastVoltage block (Reading.cellVolts leastCell) =
        e.rowWith .leastVoltage block (Reading.cellVolts leastCell) := h.rowWith_eq .leastVoltage rfl
    rw [messageEffects, messageEffects, firstHalfEffects, firstHalfEffects, hleast]
  | secondHalf block low coldest warmest board =>
    have hbyte : d.highByte? block = e.highByte? block := h.highByte block rfl
    have hgreatest : d.greatestEffects block low = e.greatestEffects block low := by
      rw [greatestEffects, greatestEffects, ← hbyte]
      cases hhigh : d.highByte? block with
      | none => rfl
      | some high =>
        have hrow : d.rowWith .greatestVoltage block (Reading.cellVolts (wordOfBytes high low)) =
            e.rowWith .greatestVoltage block (Reading.cellVolts (wordOfBytes high low)) :=
          h.rowWith_eq .greatestVoltage (by simp [PackExtreme.cells, cell?, hhigh])
        simp only [hrow]
    have hcoldest : d.rowWith .coldest block (Reading.halfDegrees coldest) =
        e.rowWith .coldest block (Reading.halfDegrees coldest) := h.rowWith_eq .coldest rfl
    have hwarmest : d.rowWith .warmest block (Reading.halfDegrees warmest) =
        e.rowWith .warmest block (Reading.halfDegrees warmest) := h.rowWith_eq .warmest rfl
    rw [messageEffects, messageEffects, hgreatest, temperatureEffects, temperatureEffects,
      hcoldest, hwarmest]
  | _ => rfl

/-! ## What a frame leaves alone -/

def writes (decoder : Decoder) (frame : Frame) : List Effect :=
  (decoder.effects frame).filter Effect.isWrite

/-- A frame changes nothing but the metrics, the cells and the byte that its message writes. -/
structure Confines (decoder : Decoder) (frame : Frame) (message : Message) : Prop where
  get : ∀ metric ∉ decoder.metricsWritten message,
    (decoder.dispatch frame).store.get metric = decoder.store.get metric
  cell (cells : CellMetric) (index : Nat) :
    (∀ (block : BlockIndex) (x : Single),
      decoder.cell? cells message = some (block, x) → index ≠ block) →
    ((decoder.dispatch frame).store.row cells).get index = (decoder.store.row cells).get index
  highByte (block : BlockIndex) : (∀ high, message.highByte? ≠ some (block, high)) →
    (decoder.dispatch frame).highByte? block = decoder.highByte? block
  parameters : (decoder.dispatch frame).parameters = decoder.parameters

/-- Two decoders write the same for two frames of one message: the same effects in the same order,
so that all they write to holds the same afterwards. -/
structure WriteAlike (d e : Decoder) (f g : Frame) (message : Message) : Prop where
  writes : d.writes f = e.writes g
  metrics : (d.writes f).filterMap Effect.metric? = d.metricsWritten message
  get : ∀ metric ∈ d.metricsWritten message,
    (d.dispatch f).store.get metric = (e.dispatch g).store.get metric
  cell (cells : CellMetric) (block : BlockIndex) (x : Single) :
    d.cell? cells message = some (block, x) →
      ((d.dispatch f).store.row cells).get block = some x ∧
        ((e.dispatch g).store.row cells).get block = some x
  highByte (block : BlockIndex) (high : UInt8) : message.highByte? = some (block, high) →
    (d.dispatch f).highByte? block = some high ∧ (e.dispatch g).highByte? block = some high

section

variable {decoder d e : Decoder} {message : Message} {f g frame : Frame} {pid : Pid}

/-- What a message does not write stays as it is. -/
theorem get_receive_of_notMem_metricsWritten {metric : Metric}
    (h : metric ∉ decoder.metricsWritten message) :
    (decoder.receive message).store.get metric = decoder.store.get metric := by
  rw [← filterMap_metric?_messageEffects, ← Effect.isSome_lastSaid?_valueOf_iff,
    Option.not_isSome_iff_eq_none] at h
  rw [get_receive, h, Option.none_or]

/-- Decoders with the same effects hold the same in what these publish. -/
theorem get_receive_eq_of_mem_metricsWritten
    (h : d.messageEffects message = e.messageEffects message) {metric : Metric}
    (hmetric : metric ∈ d.metricsWritten message) :
    (d.receive message).store.get metric = (e.receive message).store.get metric := by
  rw [← filterMap_metric?_messageEffects, ← Effect.isSome_lastSaid?_valueOf_iff] at hmetric
  obtain ⟨value, hvalue⟩ := Option.isSome_iff_exists.mp hmetric
  rw [get_receive, get_receive, ← h, hvalue, Option.some_or, Option.some_or]

theorem cell_receive_of_cell {cells : CellMetric} {block : BlockIndex} {x : Single}
    (h : decoder.cell? cells message = some (block, x)) :
    ((decoder.receive message).store.row cells).get block = some x := by
  rw [row_receive, h]
  exact CellRow.get_set_self _ _ _

theorem writes_of_answers (h : frame.Answers pid) :
    decoder.writes frame =
      (decoder.messageEffects (frame.message pid)).filter Effect.isWrite := by
  rw [writes, effects, Message.ofFrame_of_answers h]
  rfl

theorem filterMap_metric?_filter_isWrite (effects : List Effect) :
    (effects.filter Effect.isWrite).filterMap Effect.metric? =
      effects.filterMap Effect.metric? := by
  rw [List.filterMap_filter]
  congr 1
  funext effect
  cases effect <;> rfl

/-- A frame writes what its message writes. -/
theorem confines_of_answers (h : frame.Answers pid) :
    decoder.Confines frame (frame.message pid) := by
  have hdispatch : decoder.dispatch frame = decoder.receive (frame.message pid) :=
    dispatch_of_answers decoder h
  constructor
  · intro metric hmetric
    rw [hdispatch, get_receive_of_notMem_metricsWritten hmetric]
  · intro cells index hindex
    rw [hdispatch, receive, cell_applyAll, lastSaid?_cellOf_eq_none hindex, Option.none_or]
  · intro block hblock
    rw [hdispatch, highByte_receive]
    cases hbyte : (frame.message pid).highByte? with
    | none => rfl
    | some kept =>
      obtain ⟨other, high⟩ := kept
      have hne : block ≠ other := fun heq ↦ hblock high (by rw [hbyte, heq])
      exact if_neg hne
  · exact parameters_dispatch decoder frame

/-- Frames that agree are the same message, which has the same effects on decoders that agree. -/
theorem writeAlike_of_agreesFor (hf : f.Answers pid) (hg : g.Answers pid)
    (hframes : f.AgreesFor g pid) (hdecoders : d.AgreesFor e (f.message pid)) :
    WriteAlike d e f g (f.message pid) := by
  have heffects : d.messageEffects (f.message pid) = e.messageEffects (f.message pid) :=
    messageEffects_eq_of_agreesFor hdecoders
  have hd : d.dispatch f = d.receive (f.message pid) := dispatch_of_answers d hf
  have he : e.dispatch g = e.receive (f.message pid) := by
    rw [dispatch_of_answers e hg, hframes.message_eq]
  constructor
  · rw [writes_of_answers hf, writes_of_answers hg, ← hframes.message_eq, heffects]
  · rw [writes_of_answers hf, filterMap_metric?_filter_isWrite, filterMap_metric?_messageEffects]
  · intro metric hmetric
    rw [hd, he, get_receive_eq_of_mem_metricsWritten heffects hmetric]
  · intro cells block x hcell
    have hother : e.cell? cells (f.message pid) = some (block, x) :=
      (cell?_congr fun _ ↦ hdecoders.highByte).symm.trans hcell
    rw [hd, he]
    exact ⟨cell_receive_of_cell hcell, cell_receive_of_cell hother⟩
  · intro block high hbyte
    rw [hd, he, highByte_receive, highByte_receive, hbyte]
    exact ⟨if_pos rfl, if_pos rfl⟩

/-- What frames of one parameter write is decided by the bytes that the parameter uses and by what
their message reads of the decoder, and they leave everything else alone. -/
theorem writeAlike_and_confines (hf : f.Answers pid) (hg : g.Answers pid)
    (hframes : f.AgreesFor g pid) (hdecoders : d.AgreesFor e (f.message pid)) :
    WriteAlike d e f g (f.message pid) ∧ d.Confines f (f.message pid) ∧
      e.Confines g (g.message pid) :=
  ⟨writeAlike_of_agreesFor hf hg hframes hdecoders, confines_of_answers hf, confines_of_answers hg⟩

end

/-- Second halves of a block differ in a byte behind the fourth, and the decoders in the block's
own cell, in an old value and in a byte that is kept for another block. -/
theorem writeAlike_and_confines_of_secondHalf :
    let block : BlockIndex := ⟨0, by decide⟩
    let first : Frame := ⟨0xb0e1, 4, [0x13, 0x88, 0x15]⟩
    let f : Frame := ⟨0xb0e1, 0, [0x10, 0x78, 0x7a, 0x70]⟩
    let g : Frame := ⟨0xb0e1, 0, [0x10, 0x78, 0x7a, 0x70, 0xff]⟩
    let store := (Store.empty.setCell .coldest 0 .nan).set .packColdest (.flag true)
    let d := (start .unset .empty).run [first]
    let e := (start .unset store).run [⟨0xb0e2, 4, [0x13, 0x88, 0x16]⟩, first]
    d.store.get .packColdest ≠ e.store.get .packColdest ∧
      (e.dispatch g).store.get .packColdest = some (.number (Reading.halfDegrees 0x78)) ∧
      WriteAlike d e f g (f.message (.cellBlock block)) := by
  intro block first f g store d e
  have hframes : f.AgreesFor g (.cellBlock block) :=
    ⟨by decide, by intros; decide, by intros; rfl⟩
  have hdecoders : d.AgreesFor e (f.message (.cellBlock block)) := by
    refine ⟨by decide, by decide, by decide, ?_⟩
    intro extreme own x hcell i hi
    obtain rfl : own = block := (Pid.cellBlock.inj (pid_of_cell hcell)).symm
    cases i with
    | zero => exact absurd rfl hi
    | succ i =>
      cases extreme with
      | leastVoltage => cases hcell
      | _ => rfl
  have hall := writeAlike_and_confines (by decide) (by decide) hframes hdecoders
  exact ⟨by decide, by decide, hall.1⟩

end Decoder

end BatteryTelemetry
