import BatteryTelemetry.Store.CellRow
import BatteryTelemetry.Store.Metric
import BatteryTelemetry.Store.Value

/-!
# The metrics store

What has been published so far: at most one value per scalar metric and one row per cell metric.
Reading after a write gives the written value and leaves all else alone (`get_set`, `row_set`,
`get_setCell`, `row_setCell`), and a store is determined by what can be read from it
(`Store.ext_get`).
-/

namespace BatteryTelemetry

structure Store where
  scalars : Vector (Option Value) Metric.count
  rows : Vector CellRow CellMetric.count
deriving DecidableEq

namespace Store

def empty : Store := ⟨Vector.replicate _ none, Vector.replicate _ .empty⟩

def get (store : Store) (metric : Metric) : Option Value := store.scalars[metric.index]

def row (store : Store) (metric : CellMetric) : CellRow := store.rows[metric.index]

def set (store : Store) (metric : Metric) (value : Value) : Store :=
  { store with scalars := store.scalars.set metric.index (some value) }

def setCell (store : Store) (metric : CellMetric) (index : Nat) (x : Single) : Store :=
  { store with rows := store.rows.set metric.index ((store.row metric).set index x) }

/-- The number of a metric, if it holds one. -/
def number? (store : Store) (metric : Metric) : Option Single :=
  match store.get metric with
  | some (.number x) => some x
  | _ => none

/-- The number of a metric, zero if it holds none. -/
def number (store : Store) (metric : Metric) : Single := (store.number? metric).getD 0

/-- Whether a metric holds a raised flag. -/
def flag (store : Store) (metric : Metric) : Bool := store.get metric == some (.flag true)

/-- The label of a metric, if it holds one. -/
def label? (store : Store) (metric : Metric) : Option String :=
  match store.get metric with
  | some (.label text) => some text
  | _ => none

/-- The written scalar metrics in catalogue order. -/
def written (store : Store) : List (Metric × Value) :=
  Metric.all.filterMap fun metric ↦ (store.get metric).map (metric, ·)

theorem get_set (store : Store) (metric : Metric) (value : Value) (m : Metric) :
    (store.set metric value).get m = if m = metric then some value else store.get m := by
  simp only [get, set, Fin.getElem_fin, Vector.getElem_set]
  have : (metric.index : Nat) = m.index ↔ m = metric :=
    ⟨fun h ↦ (Metric.index_injective (Fin.ext h)).symm, fun h ↦ by rw [h]⟩
  simp [this]

@[simp]
theorem row_set (store : Store) (metric : Metric) (value : Value) (c : CellMetric) :
    (store.set metric value).row c = store.row c := rfl

@[simp]
theorem get_setCell (store : Store) (metric : CellMetric) (index : Nat) (x : Single)
    (m : Metric) : (store.setCell metric index x).get m = store.get m := rfl

theorem row_setCell (store : Store) (metric : CellMetric) (index : Nat) (x : Single)
    (c : CellMetric) : (store.setCell metric index x).row c =
      if c = metric then (store.row metric).set index x else store.row c := by
  simp only [row, setCell, Fin.getElem_fin, Vector.getElem_set]
  have : (metric.index : Nat) = c.index ↔ c = metric :=
    ⟨fun h ↦ (CellMetric.index_injective (Fin.ext h)).symm, fun h ↦ by rw [h]⟩
  simp [this]

@[simp]
theorem get_empty (metric : Metric) : empty.get metric = none := by
  simp [get, empty]

@[simp]
theorem row_empty (metric : CellMetric) : empty.row metric = .empty := by
  simp [row, empty]

/-- Two stores are the same if nothing that can be asked of them differs. -/
theorem ext_get {s t : Store} (hget : ∀ m, s.get m = t.get m) (hrow : ∀ c, s.row c = t.row c) :
    s = t := by
  cases s with | mk ss sr
  cases t with | mk ts tr
  congr
  · apply Vector.ext
    intro i hi
    obtain ⟨metric, h⟩ := Metric.exists_index ⟨i, hi⟩
    simpa [get, h] using hget metric
  · apply Vector.ext
    intro i hi
    obtain ⟨metric, h⟩ := CellMetric.exists_index ⟨i, hi⟩
    simpa [row, h] using hrow metric

end Store

end BatteryTelemetry
