/-!
# Metrics

The catalogue of what is published: twenty-one scalar metrics and five metrics with one value per
cell block. A metric has a place in the catalogue, a name and a unit; `index_injective` and
`exists_index` say that the places number the metrics without gaps.
-/

namespace BatteryTelemetry

/-- A metric with one value, in catalogue order. -/
inductive Metric where
  | busVoltage
  | current
  | power
  | packVoltage
  | rawStateOfCharge
  | stateOfCharge
  | idealRange
  | rangeEstimate
  | coolantTemperature
  | stateOfHealth
  | packLeastVoltage
  | packGreatestVoltage
  | packColdest
  | packWarmest
  | chargeInProgress
  | chargeState
  | chargeType
  | chargeCurrent
  | chargePower
  | chargeVoltage
  | chargeCurrentLimit
deriving DecidableEq, Repr

namespace Metric

def count : Nat := 21

def all : List Metric :=
  [busVoltage, current, power, packVoltage, rawStateOfCharge, stateOfCharge, idealRange,
    rangeEstimate, coolantTemperature, stateOfHealth, packLeastVoltage, packGreatestVoltage,
    packColdest, packWarmest, chargeInProgress, chargeState, chargeType, chargeCurrent,
    chargePower, chargeVoltage, chargeCurrentLimit]

def index (metric : Metric) : Fin count := ⟨metric.ctorIdx, by cases metric <;> decide⟩

def name : Metric → String
  | busVoltage => "bat_voltage"
  | current => "bat_current"
  | power => "bat_power"
  | packVoltage => "bat_pack_voltage"
  | rawStateOfCharge => "soc_raw"
  | stateOfCharge => "bat_soc"
  | idealRange => "range_ideal"
  | rangeEstimate => "range_est"
  | coolantTemperature => "bat_temp"
  | stateOfHealth => "bat_soh"
  | packLeastVoltage => "bat_pack_vmin"
  | packGreatestVoltage => "bat_pack_vmax"
  | packColdest => "bat_pack_tmin"
  | packWarmest => "bat_pack_tmax"
  | chargeInProgress => "charge_inprogress"
  | chargeState => "charge_state"
  | chargeType => "charge_type"
  | chargeCurrent => "charge_current"
  | chargePower => "charge_power"
  | chargeVoltage => "charge_voltage"
  | chargeCurrentLimit => "charge_climit"

/-- The unit of the values; flags and labels have none. -/
def unit : Metric → String
  | busVoltage | packVoltage | packLeastVoltage | packGreatestVoltage | chargeVoltage => "V"
  | current | chargeCurrent | chargeCurrentLimit => "A"
  | power | chargePower => "kW"
  | rawStateOfCharge | stateOfCharge | stateOfHealth => "%"
  | idealRange | rangeEstimate => "km"
  | coolantTemperature | packColdest | packWarmest => "°C"
  | chargeInProgress | chargeState | chargeType => ""

theorem mem_all (metric : Metric) : metric ∈ all := by
  cases metric <;> decide

/-- Metrics have places of their own, so a value written under one is not read under another. -/
theorem index_injective {m n : Metric} (h : m.index = n.index) : m = n := by
  have hall : ∀ m ∈ all, ∀ n ∈ all, m.index = n.index → m = n := by decide
  exact hall m (mem_all m) n (mem_all n) h

theorem exists_index (place : Fin count) : ∃ metric : Metric, metric.index = place := by
  have hall : ∀ place : Fin count, ∃ metric ∈ all, metric.index = place := by decide
  obtain ⟨metric, -, h⟩ := hall place
  exact ⟨metric, h⟩

end Metric

/-- A metric with one value per cell block. -/
inductive CellMetric where
  | leastVoltage
  | greatestVoltage
  | coldest
  | warmest
  | board
deriving DecidableEq, Repr

namespace CellMetric

def count : Nat := 5

def all : List CellMetric := [leastVoltage, greatestVoltage, coldest, warmest, board]

def index (metric : CellMetric) : Fin count := ⟨metric.ctorIdx, by cases metric <;> decide⟩

def name : CellMetric → String
  | leastVoltage => "bat_cell_vmin"
  | greatestVoltage => "bat_cell_vmax"
  | coldest => "bat_cell_tmin"
  | warmest => "bat_cell_tmax"
  | board => "bat_cell_tpcb"

/-- The unit of the values. -/
def unit : CellMetric → String
  | leastVoltage | greatestVoltage => "V"
  | coldest | warmest | board => "°C"

theorem mem_all (metric : CellMetric) : metric ∈ all := by
  cases metric <;> decide

theorem index_injective {m n : CellMetric} (h : m.index = n.index) : m = n := by
  revert h
  cases m <;> cases n <;> decide

theorem exists_index (place : Fin count) : ∃ metric : CellMetric, metric.index = place := by
  have hall : ∀ place : Fin count, ∃ metric ∈ all, metric.index = place := by decide
  obtain ⟨metric, -, h⟩ := hall place
  exact ⟨metric, h⟩

end CellMetric

end BatteryTelemetry
