import BatteryTelemetry.Charge.State
import BatteryTelemetry.Decoder.Effect
import BatteryTelemetry.Proofs.Number.Dyadic
import BatteryTelemetry.Proofs.Store.Extreme

/-!
# Types and ranges of published values

Every metric holds values of one kind: numbers between two bounds, flags, or labels from a list.
A store that keeps to this is in range; what is published into it must do so too (`InRange.apply`).
Reading a metric of such a store with its own type gives the published value, and the default only
if there is none.
-/

namespace BatteryTelemetry

def Metric.bounds? : Metric → Option (ℚ × ℚ)
  | busVoltage | packVoltage | chargeVoltage => some (0, 16383.75)
  | current => some (-1000, 638.375)
  | chargeCurrent => some (-638.375, 1000)
  | chargeCurrentLimit => some (82, 82)
  | power | chargePower => some (-16383.75, 16383.75)
  | packLeastVoltage | packGreatestVoltage => some (1, 34)
  | coolantTemperature | packColdest | packWarmest => some (-40, 87.5)
  | stateOfCharge => some (-7, 7200)
  | rawStateOfCharge | rangeEstimate => some (0, 6553.5)
  | idealRange => some (-19, 18864)
  | stateOfHealth => some (0, 656)
  | chargeInProgress | chargeState | chargeType => none

def Metric.labels : Metric → List String
  | chargeState => ["charging", "topoff", "stopped", "done"]
  | chargeType => ["type2", "ccs", "not charging"]
  | _ => []

/-- A value of the kind that a metric holds. -/
def Metric.Admits (metric : Metric) : Value → Prop
  | .number x => ∃ low high, metric.bounds? = some (low, high) ∧ x.Within low high
  | .flag _ => metric = chargeInProgress
  | .label text => text ∈ metric.labels

def CellMetric.bounds : CellMetric → ℚ × ℚ
  | leastVoltage | greatestVoltage => (1, 34)
  | coldest | warmest | board => (-40, 87.5)

def CellMetric.Admits (metric : CellMetric) (x : Single) : Prop :=
  x.Within metric.bounds.1 metric.bounds.2

/-- No metric holds both numbers and labels. -/
theorem Metric.labels_eq_nil_of_bounds {metric : Metric} (h : metric.bounds?.isSome) :
    metric.labels = [] := by
  cases metric <;> first | rfl | cases h

theorem Metric.mem_labels_chargeState (state : ChargeState) : state.label ∈ chargeState.labels := by
  cases state <;> decide

theorem Metric.mem_labels_chargeType (type : ChargeType) : type.label ∈ chargeType.labels := by
  cases type <;> decide

/-- What is published is of the right kind and in range. -/
structure Store.InRange (store : Store) : Prop where
  admits {metric : Metric} {value : Value} : store.get metric = some value → metric.Admits value
  admits_cell {metric : CellMetric} {index : Nat} {x : Single} :
    (store.row metric).get index = some x → metric.Admits x

/-- An effect publishes what its metric admits. -/
def Effect.IsAdmitted : Effect → Prop
  | publish metric value => metric.Admits value
  | publishCell metric _ x => metric.Admits x
  | keep _ _ | note _ => True

namespace Store

variable {store : Store}

theorem inRange_empty : Store.empty.InRange where
  admits h := by simp at h
  admits_cell h := by simp at h

/-- A store stays in range if what is published is admitted. -/
theorem InRange.apply (h : store.InRange) {effect : Effect} (heffect : effect.IsAdmitted) :
    (store.apply effect).InRange := by
  cases effect with
  | publish metric value =>
    refine ⟨?_, h.admits_cell⟩
    intro m v hget
    rw [Store.apply, get_set] at hget
    split_ifs at hget with hm
    · obtain rfl := Option.some.inj hget
      rw [hm]
      exact heffect
    · exact h.admits hget
  | publishCell metric index x =>
    refine ⟨h.admits, ?_⟩
    intro c i y hget
    rw [Store.apply, row_setCell] at hget
    split_ifs at hget with hc
    · rw [CellRow.get_set] at hget
      split_ifs at hget
      · obtain rfl := Option.some.inj hget
        rw [hc]
        exact heffect
      · rw [hc]
        exact h.admits_cell hget
    · exact h.admits_cell hget
  | keep | note => exact h

/-- A metric of numbers holds nothing else, so reading it as a number loses nothing. -/
theorem InRange.get_eq_number (h : store.InRange) {metric : Metric}
    (hbounds : metric.bounds?.isSome) :
    store.get metric = none ∨ store.get metric = some (.number (store.number metric)) := by
  cases hget : store.get metric with
  | none => exact .inl rfl
  | some value =>
    have hadmits := h.admits hget
    cases value with
    | number x => exact .inr (by simp [number, number?, hget])
    | flag b =>
      obtain rfl : metric = .chargeInProgress := hadmits
      cases hbounds
    | label text =>
      have hmem : text ∈ metric.labels := hadmits
      rw [Metric.labels_eq_nil_of_bounds hbounds] at hmem
      cases hmem

theorem InRange.get_eq_flag (h : store.InRange) :
    store.get .chargeInProgress = none ∨
      store.get .chargeInProgress = some (.flag (store.flag .chargeInProgress)) := by
  cases hget : store.get .chargeInProgress with
  | none => exact .inl rfl
  | some value =>
    have hadmits := h.admits hget
    cases value with
    | number x =>
      obtain ⟨low, high, hbounds, -⟩ := hadmits
      cases hbounds
    | flag b => exact .inr (by cases b <;> simp [flag, hget])
    | label text => cases hadmits

/-- A metric of labels holds nothing else. -/
theorem InRange.get_eq_label (h : store.InRange) {metric : Metric} (hlabels : metric.labels ≠ []) :
    store.get metric = (store.label? metric).map .label := by
  cases hget : store.get metric with
  | none => simp [label?, hget]
  | some value =>
    have hadmits := h.admits hget
    cases value with
    | number x =>
      obtain ⟨low, high, hbounds, -⟩ := hadmits
      exact absurd (Metric.labels_eq_nil_of_bounds (Option.isSome_of_eq_some hbounds)) hlabels
    | flag b =>
      obtain rfl : metric = .chargeInProgress := hadmits
      exact absurd rfl hlabels
    | label text => simp [label?, hget]

/-- The number read is in range also where the default stands in for it. -/
theorem InRange.within_number (h : store.InRange) (metric : Metric) {low high : ℚ}
    (hbounds : metric.bounds? = some (low, high)) (hlow : low ≤ 0) (hhigh : 0 ≤ high) :
    (store.number metric).Within low high := by
  rcases h.get_eq_number (Option.isSome_of_eq_some hbounds) with hget | hget
  · have hzero := Single.denotes_literal 0 (by decide)
    rw [Nat.cast_zero] at hzero
    rw [number, number?, hget]
    exact hzero.within hlow hhigh
  · obtain ⟨least, greatest, heq, hwithin⟩ := h.admits hget
    obtain ⟨rfl, rfl⟩ := Prod.mk.inj (Option.some.inj (hbounds.symm.trans heq))
    exact hwithin

end Store

/-- The extreme of a row is one of its numbers, so it keeps their bounds. -/
theorem CellRow.within_extreme {pick : Single → Single → Single}
    {before : Single → Single → Prop} (hselects : Selects pick before)
    {row : CellRow} {low high : ℚ} (hrow : ∀ index x, row.get index = some x → x.Within low high)
    {x : Single} (hx : row.extreme pick = some x) : x.Within low high := by
  obtain ⟨index, hget⟩ := mem_known_iff.mp (mem_known_of_extreme hselects hx)
  exact hrow index x hget

end BatteryTelemetry
