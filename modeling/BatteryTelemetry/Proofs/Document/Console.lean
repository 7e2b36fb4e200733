import BatteryTelemetry.Document.Console
import BatteryTelemetry.Proofs.Document.Replay

/-!
# The lines of a run

For a person the store is shown by the lines of the metrics in the document of the run, in catalogue
order (`Store.consoleLines_eq`). A number can be read back from its line, each slot of a row is
within half a thousandth of its number, and a dash stands where the document has a null
(`texts_consoleLines`).
-/

namespace BatteryTelemetry

variable {store : Store} {effects : List Effect}

/-- A line with a name in a column of twenty characters, a value and a unit. -/
def listedLine (name value unit : String) : String :=
  name ++ String.ofList (List.replicate (20 - name.length) ' ') ++ " " ++ value ++ " " ++ unit

/-- Lines for the metrics in a document, in catalogue order, with a text for each scalar metric and
one for each slot of a row. -/
def listedLines (fields : List (String × Json)) (text : Metric → String)
    (slots : CellMetric → List String) : List String :=
  (Metric.all.filter fun metric ↦ (fields.lookup metric.name).isSome).map (fun metric ↦
      listedLine metric.name (text metric) metric.unit) ++
    (CellMetric.all.filter fun metric ↦ (fields.lookup metric.name).isSome).map fun metric ↦
      listedLine metric.name ("[" ++ String.intercalate ", " (slots metric) ++ "]") metric.unit

def IsShown (text : String) : Value → Prop
  | .number x => Single.ofText? .single text.toList = some x
  | .flag b => text = if b then "true" else "false"
  | .label s => text = s

/-- Texts stand for what effects wrote, with a dash where a document has a null. -/
structure Texts (effects : List Effect) (fields : List (String × Json)) (text : Metric → String)
    (slots : CellMetric → List String) : Prop where
  text (metric : Metric) (value : Value) : lastValue? effects metric = some value →
    text metric = value.text ∧ IsShown (text metric) value
  length_slots (metric : CellMetric) (items : List Json) :
    fields.lookup metric.name = some (.list items) → (slots metric).length = items.length
  dash_iff (metric : CellMetric) (items : List Json) (index : Nat) :
    fields.lookup metric.name = some (.list items) →
      ((slots metric)[index]? = some "-" ↔ items[index]? = some .null)
  /-- The other slots are numbers to a thousandth. -/
  number (metric : CellMetric) (index : Nat) (x : Single) :
    lastCell? effects metric index = some x →
      (slots metric)[index]? = some (x.fixed 3) ∧ x.IsRounding 3 (x.fixed 3).toList

/-- A number is read back from its line without the fraction that documents keep. -/
theorem isShown_text {value : Value} (h : value.IsFinite) : IsShown value.text value := by
  cases value with
  | number x =>
    have hx : x.isFinite := h
    exact Single.ofText_text BinaryFormat.isTextual_single hx
  | flag b => cases b <;> rfl
  | label text => rfl

/-- A number to a thousandth has a point, which tells it from a dash. -/
theorem Single.fixed_ne_dash (x : Single) : x.fixed 3 ≠ "-" := by
  cases x with
  | nan => decide
  | infinite negative => cases negative <;> decide
  | finite negative code =>
    intro h
    have hpoint : '.' ∈ ((Single.finite negative code).fixed 3).toList := by
      simp [Single.fixed]
    rw [h] at hpoint
    revert hpoint
    decide

theorem slotText_eq_dash_iff (slot : Option Single) : slotText slot = "-" ↔ slot = none := by
  cases slot with
  | none => simp [slotText]
  | some x => simp [slotText, x.fixed_ne_dash]

/-- The rows with a slot are those in the document. -/
theorem Store.map_writtenRows {β : Type} (store : Store) (f : CellMetric × CellRow → β) :
    store.writtenRows.map f =
      (CellMetric.all.filter fun metric ↦ (store.replayFields.lookup metric.name).isSome).map
        fun metric ↦ f (metric, store.row metric) := by
  rw [writtenRows, List.filter_map, List.map_map]
  congr 1
  refine List.filter_congr fun metric _ ↦ ?_
  rw [store.lookup_replayFields_row]
  split_ifs with hslots <;> simp [hslots]

theorem Store.items_eq_of_lookup {store : Store} (h : store.InRange) {metric : CellMetric}
    {items : List Json} (hitems : store.replayFields.lookup metric.name = some (.list items)) :
    items = (store.row metric).slots.map slotLeaf := by
  rw [lookup_replayFields_slots h, Option.ite_none_left_eq_some] at hitems
  exact (Json.list.inj (Option.some.inj hitems.2)).symm

/-- A dash is shown for what was never written and for nothing else. -/
theorem texts_consoleLines (hrange : store.InRange) (h : store.Holds effects) :
    Texts effects store.replayFields
      (fun metric ↦ ((store.get metric).map Value.text).getD "")
      (fun metric ↦ (store.row metric).slots.map slotText) where
  text metric value hvalue := by
    rw [← h.get] at hvalue
    rw [hvalue]
    exact ⟨rfl, isShown_text (isFinite_of_inRange hrange (.scalar metric) value hvalue)⟩
  length_slots metric items hitems := by
    rw [Store.items_eq_of_lookup hrange hitems, List.length_map, List.length_map]
  dash_iff metric items index hitems := by
    rw [Store.items_eq_of_lookup hrange hitems, List.getElem?_map, List.getElem?_map]
    cases (store.row metric).slots[index]? with
    | none => simp
    | some slot => simp [slotText_eq_dash_iff, slotLeaf_eq_null_iff]
  number metric index x hx := by
    rw [← h.cell] at hx
    rw [List.getElem?_map, Option.join_eq_some_iff.mp hx]
    exact ⟨rfl, Single.isRounding_fixed (hrange.admits_cell hx).isFinite (by decide)⟩

/-- Both views of a store choose the same metrics. -/
theorem Store.consoleLines_eq (store : Store) :
    store.consoleLines = listedLines store.replayFields
      (fun metric ↦ ((store.get metric).map Value.text).getD "")
      (fun metric ↦ (store.row metric).slots.map slotText) := by
  rw [consoleLines, listedLines, store.map_writtenRows]
  simp only [store.lookup_replayFields_scalar, Option.isSome_map]
  congr 1
  refine store.map_written fun metric value hget ↦ ?_
  rw [hget]
  rfl

end BatteryTelemetry
