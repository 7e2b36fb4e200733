import BatteryTelemetry.Decoder.Basic

/-!
# Summaries

The statistics of each cell block and the extremes of the whole pack, as they stand in the store.
-/

namespace BatteryTelemetry

/-- The least and greatest cell voltage and temperature, as far as they are known. -/
structure Extremes where
  leastVoltage : Option Single
  greatestVoltage : Option Single
  coldest : Option Single
  warmest : Option Single
deriving DecidableEq, Repr

namespace Store

def block (store : Store) (index : BlockIndex) : Extremes where
  leastVoltage := (store.row .leastVoltage).get index
  greatestVoltage := (store.row .greatestVoltage).get index
  coldest := (store.row .coldest).get index
  warmest := (store.row .warmest).get index

def blocks (store : Store) : List (BlockIndex × Extremes) :=
  (List.finRange blockCount).map fun index ↦ (index, store.block index)

def pack (store : Store) : Extremes where
  leastVoltage := store.number? .packLeastVoltage
  greatestVoltage := store.number? .packGreatestVoltage
  coldest := store.number? .packColdest
  warmest := store.number? .packWarmest

end Store

end BatteryTelemetry
