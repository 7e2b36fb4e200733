import BatteryTelemetry.Decoder.Summary
import BatteryTelemetry.Document.Json

/-!
# Documents of the store

The values of a store as JSON: all published metrics by name, and the summaries of blocks and
pack.
-/

namespace BatteryTelemetry

def Value.json : Value → Json
  | .number x => .ofSingle x
  | .flag b => .flag b
  | .label text => .text text

/-- A row in a document, null for each unknown block. -/
def CellRow.json (row : CellRow) : Json := .list (row.slots.map Json.ofOption)

/-- The extremes in a document, in a fixed order. -/
def Extremes.fields (extremes : Extremes) : List (String × Json) :=
  [("vmin", .ofOption extremes.leastVoltage), ("vmax", .ofOption extremes.greatestVoltage),
    ("tmin", .ofOption extremes.coldest), ("tmax", .ofOption extremes.warmest)]

namespace Store

/-- The rows that have a slot, in catalogue order. -/
def writtenRows (store : Store) : List (CellMetric × CellRow) :=
  (CellMetric.all.map fun metric ↦ (metric, store.row metric)).filter fun entry ↦
    !entry.2.slots.isEmpty

/-- The fields of all published metrics, in ascending order of their names. -/
def snapshot (store : Store) : List (String × Json) :=
  Json.sortFields
    (store.written.map (fun entry ↦ (entry.1.name, entry.2.json)) ++
      store.writtenRows.map fun entry ↦ (entry.1.name, entry.2.json))

def replayDocument (store : Store) : Json :=
  .object (Json.insertField "pack" (.object (Json.sortFields store.pack.fields)) store.snapshot)

def blocksDocument (store : Store) : Json :=
  .list (store.blocks.map fun entry ↦
    .object (("index", .natural entry.1.val) :: entry.2.fields))

def packDocument (store : Store) : Json := .object store.pack.fields

end Store

end BatteryTelemetry
