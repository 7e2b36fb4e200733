import BatteryTelemetry.Proofs.Charge.Scale
import BatteryTelemetry.Proofs.Decoder.Reachable
import BatteryTelemetry.Proofs.Store.Range

/-!
# Reachable stores are in range

Every message publishes values of the right kind and in range, if the store before it is in range:
a power is computed from a stored voltage, the charge metrics and the bus voltage are copied from
others, and an extreme is one of the numbers in its row. So every reachable store is in range.
-/

namespace BatteryTelemetry

theorem Effect.isAdmitted_number {metric : Metric} {low high : ℚ} {x : Single}
    (hbounds : metric.bounds? = some (low, high)) (h : x.Within low high) :
    (Effect.number metric x).IsAdmitted :=
  ⟨low, high, hbounds, h⟩

theorem within_rapidCurrentLimit : rapidCurrentLimit.Within 82 82 := by
  have hlimit := Single.denotes_literal 82 (by decide)
  exact hlimit.within (by norm_num) (by norm_num)

namespace Store

variable {store : Store}

/-- The charge takes over values whose bounds are its own, or turns their sign. -/
theorem InRange.isAdmitted_statusEffects (h : store.InRange) (status : Status) :
    ∀ effect ∈ store.statusEffects status, effect.IsAdmitted := by
  have hcurrent := (h.within_number .current rfl (by norm_num) (by norm_num)).neg
  have hpower := h.within_number .power rfl (by norm_num) (by norm_num)
  have hvoltage := h.within_number .busVoltage rfl (by norm_num) (by norm_num)
  rw [neg_neg] at hcurrent
  have hcharging (type : ChargeType) : ∀ effect ∈ [Effect.flag .chargeInProgress true,
      .label .chargeType type.label], effect.IsAdmitted := by
    simp only [List.forall_mem_cons]
    exact ⟨rfl, Metric.mem_labels_chargeType type, by simp⟩
  unfold statusEffects
  split
  · exact hcharging .alternating
  · exact hcharging .alternating
  · simp only [List.forall_mem_cons]
    refine ⟨rfl, Metric.mem_labels_chargeType _, ?_, ?_, ?_, ?_, by simp⟩
    · exact Effect.isAdmitted_number rfl hcurrent
    · exact Effect.isAdmitted_number rfl hpower
    · exact Effect.isAdmitted_number rfl within_rapidCurrentLimit
    · exact Effect.isAdmitted_number rfl hvoltage
  · split
    · simp only [List.forall_mem_cons]
      exact ⟨trivial, Metric.mem_labels_chargeType _, Metric.mem_labels_chargeState _, rfl, by simp⟩
    · simp

end Store

namespace Decoder

variable {decoder : Decoder}

/-- Effects that are admitted keep a store in range. -/
theorem inRange_applyAll {effects : List Effect} (h : decoder.store.InRange)
    (heffects : ∀ effect ∈ effects, effect.IsAdmitted) :
    (decoder.applyAll effects).store.InRange := by
  induction effects generalizing decoder with
  | nil => exact h
  | cons effect rest ih =>
    obtain ⟨hhead, hrest⟩ := List.forall_mem_cons.mp heffects
    exact ih (h.apply hhead) hrest

/-- A row in range stays so with another number in range. -/
theorem admits_rowWith (h : decoder.store.InRange) {metric : CellMetric} {block : BlockIndex}
    {x : Single} (hx : metric.Admits x) (index : Nat) (y : Single)
    (hget : (decoder.rowWith metric block x).get index = some y) : metric.Admits y := by
  rw [rowWith, CellRow.get_set] at hget
  split_ifs at hget
  · obtain rfl := Option.some.inj hget
    exact hx
  · exact h.admits_cell hget

/-- A block's number and the extreme of its row are in range together. -/
theorem isAdmitted_extremeEffects {pick : Single → Single → Single}
    {before : Single → Single → Prop} (hselects : Selects pick before)
    (h : decoder.store.InRange) {metric : Metric} (cell : CellMetric) {block : BlockIndex}
    {x : Single} (hbounds : metric.bounds? = some cell.bounds) (hx : cell.Admits x) :
    ∀ effect ∈ extremeEffects metric pick (decoder.rowWith cell block x), effect.IsAdmitted := by
  unfold extremeEffects
  split
  · rename_i y hextreme
    simp only [List.forall_mem_singleton]
    exact Effect.isAdmitted_number hbounds
      (CellRow.within_extreme hselects (admits_rowWith h hx) hextreme)
  · simp

theorem isAdmitted_greatestEffects (h : decoder.store.InRange) (block : BlockIndex) (low : UInt8) :
    ∀ effect ∈ decoder.greatestEffects block low, effect.IsAdmitted := by
  unfold greatestEffects
  split
  · rename_i high _
    have hvolts := Reading.within_cellVolts (wordOfBytes high low)
    exact List.forall_mem_cons.mpr
      ⟨hvolts, isAdmitted_extremeEffects selects_max h .greatestVoltage rfl hvolts⟩
  · simp [Effect.IsAdmitted]

theorem isAdmitted_temperatureEffects (h : decoder.store.InRange) (block : BlockIndex)
    (coldest warmest : UInt8) (board : Option UInt8) :
    ∀ effect ∈ decoder.temperatureEffects block coldest warmest board, effect.IsAdmitted := by
  have hcoldest := Reading.within_halfDegrees coldest
  have hwarmest := Reading.within_halfDegrees warmest
  simp only [temperatureEffects, List.forall_mem_append, List.forall_mem_cons]
  refine ⟨⟨⟨⟨hcoldest, hwarmest, by simp⟩, ?_⟩, ?_⟩, ?_⟩
  · intro effect heffect
    obtain ⟨raw, -, rfl⟩ := Option.map_eq_some_iff.mp (Option.mem_toList.mp heffect)
    exact Reading.within_halfDegrees raw
  · exact isAdmitted_extremeEffects selects_min h .coldest rfl hcoldest
  · exact isAdmitted_extremeEffects selects_max h .warmest rfl hwarmest

/-- Whatever the window, the percentage and the range stay within their bounds. -/
theorem isAdmitted_stateOfChargeEffects (decoder : Decoder) (raw : UInt16) :
    ∀ effect ∈ decoder.stateOfChargeEffects raw, effect.IsAdmitted := by
  have hscale := ChargeWindow.within_scale decoder.parameters raw
  simp only [stateOfChargeEffects, List.forall_mem_append, List.forall_mem_cons]
  refine ⟨⟨?_, ?_⟩, ?_, ?_, by simp⟩
  · exact Effect.isAdmitted_number rfl (Reading.within_tenths raw)
  · split_ifs
    · simp only [List.forall_mem_singleton]
      exact Metric.mem_labels_chargeState _
    · simp
  · exact Effect.isAdmitted_number rfl hscale
  · exact Effect.isAdmitted_number rfl (within_idealRange hscale)

/-- Every message publishes values in range into a store in range. -/
theorem isAdmitted_messageEffects (h : decoder.store.InRange) (message : Message) :
    ∀ effect ∈ decoder.messageEffects message, effect.IsAdmitted := by
  cases message with
  | busVoltage raw =>
    simp only [messageEffects, List.forall_mem_singleton]
    apply Effect.isAdmitted_number rfl
    split_ifs
    · exact h.within_number .packVoltage rfl (by norm_num) (by norm_num)
    · exact Reading.within_quarterVolts raw
  | current raw =>
    have hvolts := h.within_number .busVoltage rfl (by norm_num) (by norm_num)
    have hamperes := Reading.within_amperes raw
    simp only [messageEffects, List.forall_mem_cons]
    refine ⟨Effect.isAdmitted_number rfl hamperes, ?_, by simp⟩
    exact Effect.isAdmitted_number rfl (Reading.within_kilowatts hvolts hamperes)
  | packVoltage raw =>
    simp only [messageEffects, List.forall_mem_singleton]
    exact Effect.isAdmitted_number rfl (Reading.within_quarterVolts raw)
  | stateOfCharge raw => exact isAdmitted_stateOfChargeEffects decoder raw
  | status status => exact h.isAdmitted_statusEffects status
  | coolantTemperature raw =>
    simp only [messageEffects, List.forall_mem_singleton]
    exact Effect.isAdmitted_number rfl (Reading.within_halfDegrees raw)
  | stateOfHealth raw =>
    simp only [messageEffects, List.forall_mem_singleton]
    exact Effect.isAdmitted_number rfl (Reading.within_hundredths raw)
  | rangeEstimate raw =>
    simp only [messageEffects, List.forall_mem_singleton]
    exact Effect.isAdmitted_number rfl (Reading.within_tenths raw)
  | firstHalf block leastCell greatestCellHigh =>
    have hvolts := Reading.within_cellVolts leastCell
    simp only [messageEffects, firstHalfEffects, List.forall_mem_cons]
    exact ⟨trivial, hvolts,
      isAdmitted_extremeEffects selects_min h .leastVoltage rfl hvolts⟩
  | secondHalf block low coldest warmest board =>
    simp only [messageEffects, List.forall_mem_append]
    exact ⟨isAdmitted_greatestEffects h block low,
      isAdmitted_temperatureEffects h block coldest warmest board⟩

/-- Every effect of a message is admitted, so what is reachable is in range. -/
theorem Reachable.inRange (h : Reachable decoder) : decoder.store.InRange :=
  h.store_invariant Store.inRange_empty fun _ message hinRange ↦
    inRange_applyAll hinRange (isAdmitted_messageEffects hinRange message)

/-- In every reachable state each published value is of the kind of its metric and in range, and
a metric read with its own type gives the default only if nothing was published under it. -/
theorem Reachable.inRange_and_typed (h : Reachable decoder) :
    decoder.store.InRange ∧
      (∀ metric : Metric, metric.bounds?.isSome →
        decoder.store.get metric = none ∨
          decoder.store.get metric = some (.number (decoder.store.number metric))) ∧
      (decoder.store.get .chargeInProgress = none ∨
        decoder.store.get .chargeInProgress =
          some (.flag (decoder.store.flag .chargeInProgress))) ∧
      ∀ metric : Metric, metric.labels ≠ [] →
        decoder.store.get metric = (decoder.store.label? metric).map .label := by
  have hinRange := h.inRange
  refine ⟨hinRange, ?_, hinRange.get_eq_flag, ?_⟩
  · exact fun metric hbounds ↦ hinRange.get_eq_number hbounds
  · exact fun metric hlabels ↦ hinRange.get_eq_label hlabels

/-- A bus voltage and a current leave a power in range behind. -/
theorem inRange_and_typed_after_current :
    let decoder := (Decoder.start .unset .empty).run
      [⟨0xb041, 0, [0x06, 0x40]⟩, ⟨0xb043, 0, [0x9c, 0x90]⟩]
    decoder.store.InRange ∧
      decoder.store.get .power = some (.number (decoder.store.number .power)) := by
  intro decoder
  have hreachable : Reachable decoder := (Reachable.start .unset).run _
  obtain ⟨hinRange, hnumber, -⟩ := Reachable.inRange_and_typed hreachable
  have hwritten : decoder.store.get .power ≠ none := by decide
  exact ⟨hinRange, (hnumber .power rfl).resolve_left hwritten⟩

end Decoder

end BatteryTelemetry
