import BatteryTelemetry.Proofs.Decoder.Range
import BatteryTelemetry.Proofs.Document.Listing
import BatteryTelemetry.Proofs.Document.Printed
import BatteryTelemetry.Proofs.Pack.Extremes
import BatteryTelemetry.Proofs.Store.Writes

/-!
# The document of a run

After a run the document of the store has a field for each metric that an effect of the run wrote
and one for the extremes of the pack, and no two fields of one name (`shows_replayDocument`). Its
text can be read back, and each field has lines of its own (`prints_replayDocument`). The values of
a run are finite, so a null stands for what was never written and for nothing else.
-/

namespace BatteryTelemetry

/-- Of fields whose names ascend each one is found under its name. -/
theorem Json.lookup_eq_some_iff {fields : List (String × Json)} (h : Ascending fields)
    {name : String} {value : Json} : fields.lookup name = some value ↔ (name, value) ∈ fields := by
  induction fields with
  | nil => simp
  | cons head rest ih =>
    obtain ⟨hhead, hrest⟩ := List.pairwise_cons.mp h
    obtain ⟨other, kept⟩ := head
    rw [List.lookup_cons, List.mem_cons]
    by_cases hname : name = other
    · subst hname
      have hlater : (name, value) ∉ rest := fun hmem ↦ lt_irrefl name (hhead (name, value) hmem)
      simp [hlater, eq_comm]
    · rw [beq_eq_false_iff_ne.mpr hname]
      simp [hname, ih hrest]

/-- No metric has the name of the field for the pack. -/
theorem pack_notMem_metricNames : "pack" ∉ metricNames := by decide

theorem Metric.name_mem_metricNames (metric : Metric) : metric.name ∈ metricNames :=
  List.mem_append_left _ (List.mem_map_of_mem metric.mem_all)

theorem CellMetric.name_mem_metricNames (metric : CellMetric) : metric.name ∈ metricNames :=
  List.mem_append_right _ (List.mem_map_of_mem metric.mem_all)

namespace Store

variable {store : Store}

theorem ascending_snapshot (store : Store) : Json.Ascending store.snapshot :=
  Json.ascending_sortFields _

/-- A snapshot has a field for each part and no other one. -/
theorem lookup_snapshot (name : String) (value : Json) :
    store.snapshot.lookup name = some value ↔ ∃ part ∈ store.parts, part.field = (name, value) := by
  rw [Json.lookup_eq_some_iff store.ascending_snapshot, store.snapshot_perm.mem_iff,
    List.mem_map]

/-- A scalar metric has a field exactly if it was written. -/
theorem lookup_snapshot_scalar (store : Store) (metric : Metric) :
    store.snapshot.lookup metric.name = (store.get metric).map Value.json := by
  ext value
  rw [lookup_snapshot, Option.map_eq_some_iff]
  constructor
  · rintro ⟨part, hpart, hfield⟩
    cases part with
    | scalar other kept =>
      obtain ⟨hname, hvalue⟩ := Prod.mk.inj hfield
      obtain rfl := Metric.name_injective hname
      exact ⟨kept, scalar_mem_parts.mp hpart, hvalue⟩
    | blocks other row => exact absurd (congrArg Prod.fst hfield) (CellMetric.name_ne other metric)
  · rintro ⟨kept, hget, rfl⟩
    exact ⟨.scalar metric kept, scalar_mem_parts.mpr hget, rfl⟩

/-- A row has a field exactly if it has a slot. -/
theorem lookup_snapshot_row (store : Store) (metric : CellMetric) :
    store.snapshot.lookup metric.name =
      if (store.row metric).slots = [] then none else some (store.row metric).json := by
  ext value
  rw [lookup_snapshot, Option.ite_none_left_eq_some, Option.some_inj]
  constructor
  · rintro ⟨part, hpart, hfield⟩
    cases part with
    | scalar other kept =>
      exact absurd (congrArg Prod.fst hfield).symm (CellMetric.name_ne metric other)
    | blocks other row =>
      obtain ⟨hname, hvalue⟩ := Prod.mk.inj hfield
      obtain rfl := CellMetric.name_injective hname
      obtain ⟨rfl, hslots⟩ := blocks_mem_parts.mp hpart
      exact ⟨hslots, hvalue⟩
  · rintro ⟨hslots, rfl⟩
    exact ⟨.blocks metric _, blocks_mem_parts.mpr ⟨rfl, hslots⟩, rfl⟩

def replayFields (store : Store) : List (String × Json) :=
  Json.insertField "pack" (.object (Json.sortFields store.pack.fields)) store.snapshot

theorem pack_ne : ∀ field ∈ store.snapshot, "pack" ≠ field.1 := by
  intro field hfield heq
  exact pack_notMem_metricNames (heq ▸ store.fst_mem_metricNames hfield)

theorem ascending_replayFields (store : Store) : Json.Ascending store.replayFields :=
  store.ascending_snapshot.insertField _ _

/-- The field for the pack gives way to none of the others. -/
theorem mem_replayFields_iff {field : String × Json} :
    field ∈ store.replayFields ↔
      field = ("pack", .object (Json.sortFields store.pack.fields)) ∨ field ∈ store.snapshot := by
  rw [replayFields, (Json.insertField_perm _ pack_ne).mem_iff, List.mem_cons]

theorem lookup_replayFields_pack (store : Store) :
    store.replayFields.lookup "pack" = some (.object (Json.sortFields store.pack.fields)) :=
  (Json.lookup_eq_some_iff store.ascending_replayFields).mpr (mem_replayFields_iff.mpr (.inl rfl))

/-- Adding the field for the pack changes nothing under the names of metrics. -/
theorem lookup_replayFields (store : Store) {name : String} (h : name ∈ metricNames) :
    store.replayFields.lookup name = store.snapshot.lookup name := by
  have hne : name ≠ "pack" := by
    rintro rfl
    exact pack_notMem_metricNames h
  ext value
  rw [Json.lookup_eq_some_iff store.ascending_replayFields, mem_replayFields_iff,
    Json.lookup_eq_some_iff store.ascending_snapshot]
  simp [hne]

theorem lookup_replayFields_scalar (store : Store) (metric : Metric) :
    store.replayFields.lookup metric.name = (store.get metric).map Value.json := by
  rw [lookup_replayFields store metric.name_mem_metricNames, lookup_snapshot_scalar]

theorem lookup_replayFields_row (store : Store) (metric : CellMetric) :
    store.replayFields.lookup metric.name =
      if (store.row metric).slots = [] then none else some (store.row metric).json := by
  rw [lookup_replayFields store metric.name_mem_metricNames, lookup_snapshot_row]

end Store

/-! ## The document -/

def PackExtreme.fieldName : PackExtreme → String
  | leastVoltage => "vmin"
  | greatestVoltage => "vmax"
  | coldest => "tmin"
  | warmest => "tmax"

def PackExtreme.metricName : PackExtreme → String
  | leastVoltage => "bat_pack_vmin"
  | greatestVoltage => "bat_pack_vmax"
  | coldest => "bat_pack_tmin"
  | warmest => "bat_pack_tmax"

/-- The items of a list show a row: there is one for each block up to the highest that effects
wrote, null for those that they passed over. -/
structure ShowsRow (effects : List Effect) (metric : CellMetric) (items : List Json) : Prop where
  exists_highest : ∃ highest, IsGreatest {index | WritesCell effects metric index} highest ∧
    items.length = highest + 1
  item (index : Nat) (h : index < items.length) :
    items[index] = slotLeaf (lastCell? effects metric index)
  eq_null_iff (index : Nat) (h : index < items.length) :
    items[index] = .null ↔ ¬WritesCell effects metric index

/-- The fields of a document show what effects wrote. -/
structure Shows (effects : List Effect) (fields : List (String × Json)) : Prop where
  /-- No two fields have one name. -/
  names_ascending : Json.Ascending fields
  name_cases (field : String × Json) : field ∈ fields →
    field.1 = "pack" ∨ field.1 ∈ metricNames
  scalar_isSome_iff (metric : Metric) :
    (fields.lookup metric.name).isSome ↔ WritesMetric effects metric
  scalar (metric : Metric) :
    fields.lookup metric.name = (lastValue? effects metric).map Value.leaf
  scalar_ne_null (metric : Metric) : fields.lookup metric.name ≠ some .null
  row_isSome_iff (metric : CellMetric) :
    (fields.lookup metric.name).isSome ↔ ∃ index, WritesCell effects metric index
  row (metric : CellMetric) (value : Json) : fields.lookup metric.name = some value →
    ∃ items, value = .list items ∧ ShowsRow effects metric items
  /-- The extremes of the pack are the values of their metrics, null for a missing one. -/
  pack : ∃ extremes, fields.lookup "pack" = some (.object extremes) ∧
    ∀ extreme : PackExtreme, ∃ value, extremes.lookup extreme.fieldName = some value ∧
      value = (fields.lookup extreme.metricName).getD .null ∧
      (value = .null ↔ fields.lookup extreme.metricName = none)

/-- How a value without parts is printed. A text is one that needs no backslashes. -/
def IsPrinted (text : String) : Json → Prop
  | .null => text = "null"
  | .flag b => text = if b then "true" else "false"
  | .number x => Json.read? .double text = some (.number x)
  | .text s => text = "\"" ++ s ++ "\""
  | _ => False

/-- Lines print an object: a document reader reads its fields from them, and each metric has lines
of its own, two spaces deep, with a comma behind them unless no field follows. -/
structure Prints (fields : List (String × Json)) (lines : List String) : Prop where
  read_eq : Json.read? .double (String.intercalate "\n" lines) = some (.object fields)
  scalar (metric : Metric) (value : Json) : fields.lookup metric.name = some value →
    ∃ text mark, IsPrinted text value ∧ mark ∈ ["", ","] ∧
      "  \"" ++ metric.name ++ "\"" ++ ": " ++ text ++ mark ∈ lines
  row (metric : CellMetric) (items : List Json) : fields.lookup metric.name = some (.list items) →
    ∃ texts mark, List.Forall₂ IsPrinted texts items ∧ mark ∈ ["", ","] ∧
      ("  \"" ++ metric.name ++ "\"" ++ ": [") :: (Json.punctuated texts).map ("    " ++ ·) ++
        ["  ]" ++ mark] <:+: lines

section

variable {store : Store} {effects : List Effect}

theorem lookup_replayFields_leaf (h : store.InRange) (metric : Metric) :
    store.replayFields.lookup metric.name = (store.get metric).map Value.leaf := by
  rw [store.lookup_replayFields_scalar]
  refine Option.map_congr fun value hget ↦ Value.json_eq_leaf ?_
  exact isFinite_of_inRange h (.scalar metric) value hget

theorem lookup_replayFields_slots (h : store.InRange) (metric : CellMetric) :
    store.replayFields.lookup metric.name =
      if (store.row metric).slots = [] then none
      else some (.list ((store.row metric).slots.map slotLeaf)) := by
  rw [store.lookup_replayFields_row, CellRow.json, Store.map_ofOption_slots (isFinite_of_inRange h)]

theorem Value.leaf_ne_null (value : Value) : value.leaf ≠ .null := by
  cases value <;> exact Json.noConfusion

/-- Only an unknown slot is null. -/
theorem slotLeaf_eq_null_iff (slot : Option Single) : slotLeaf slot = .null ↔ slot = none := by
  cases slot <;> simp [slotLeaf]

/-- The last slot of a row is known, so the items end with the highest block. -/
theorem showsRow_of_holds (h : store.Holds effects) {metric : CellMetric}
    (hslots : (store.row metric).slots ≠ []) :
    ShowsRow effects metric ((store.row metric).slots.map slotLeaf) where
  exists_highest := by
    obtain ⟨highest, hgreatest, hlength⟩ := CellRow.exists_isGreatest hslots
    simp only [h.isSome_cell] at hgreatest
    exact ⟨highest, hgreatest, by rw [List.length_map, hlength]⟩
  item index hindex := by
    rw [List.getElem_map, CellRow.getElem_slots, h.cell]
  eq_null_iff index hindex := by
    rw [List.getElem_map, CellRow.getElem_slots, slotLeaf_eq_null_iff, ← h.isSome_cell,
      Option.not_isSome_iff_eq_none]

/-- An extreme in a summary is the number of its metric. -/
theorem Store.ofSummary_pack (store : Store) (extreme : PackExtreme) :
    extreme.ofSummary store.pack = store.number? extreme.metric := by
  cases extreme <;> rfl

theorem Extremes.nodup_fields (extremes : Extremes) : (extremes.fields.map Prod.fst).Nodup := by
  simp [fields]

/-- Each extreme has its field among those of the pack. -/
theorem Store.lookup_pack (store : Store) (extreme : PackExtreme) :
    (Json.sortFields store.pack.fields).lookup extreme.fieldName =
      some (.ofOption (store.number? extreme.metric)) := by
  rw [Json.lookup_eq_some_iff (Json.ascending_sortFields _),
    (Json.sortFields_perm store.pack.nodup_fields).mem_iff, ← ofSummary_pack]
  cases extreme <;> simp [Extremes.fields, PackExtreme.ofSummary, PackExtreme.fieldName]

/-- The document shows what the effects wrote last. -/
theorem shows_replayDocument (hrange : store.InRange) (h : store.Holds effects) :
    Shows effects store.replayFields where
  names_ascending := store.ascending_replayFields
  name_cases field hfield := by
    rcases Store.mem_replayFields_iff.mp hfield with rfl | hfield
    · exact .inl rfl
    · exact .inr (store.fst_mem_metricNames hfield)
  scalar_isSome_iff metric := by
    rw [store.lookup_replayFields_scalar, Option.isSome_map, h.isSome_get]
  scalar metric := by
    rw [lookup_replayFields_leaf hrange, h.get]
  scalar_ne_null metric hnull := by
    rw [lookup_replayFields_leaf hrange] at hnull
    obtain ⟨value, -, hleaf⟩ := Option.map_eq_some_iff.mp hnull
    exact value.leaf_ne_null hleaf
  row_isSome_iff metric := by
    simp only [store.lookup_replayFields_row, ← h.isSome_cell, ← CellRow.slots_ne_nil_iff]
    split_ifs with hslots <;> simp [hslots]
  row metric value hvalue := by
    rw [lookup_replayFields_slots hrange, Option.ite_none_left_eq_some] at hvalue
    obtain ⟨hslots, hvalue⟩ := hvalue
    exact ⟨_, (Option.some.inj hvalue).symm, showsRow_of_holds h hslots⟩
  pack := by
    refine ⟨_, store.lookup_replayFields_pack, fun extreme ↦ ?_⟩
    have hname : extreme.metricName = extreme.metric.name := by cases extreme <;> rfl
    refine ⟨_, store.lookup_pack extreme, ?_⟩
    rw [hname, lookup_replayFields_leaf hrange]
    have hbounds : extreme.metric.bounds?.isSome := by cases extreme <;> rfl
    rcases hrange.get_eq_number hbounds with hget | hget
    · simp [Store.number?, hget, Json.ofOption]
    · have hfinite : (store.number extreme.metric).isFinite :=
        isFinite_of_inRange hrange (.scalar extreme.metric) _ hget
      simp [Store.number?, hget, Json.ofOption, Json.ofSingle, hfinite, Value.leaf]

/-! ## Printing -/

/-- No label that a metric admits needs a backslash. -/
theorem isPrinted_leaf {metric : Metric} {value : Value} (h : metric.Admits value)
    (hfinite : value.IsFinite) : IsPrinted (value.leaf.leaf .wide) value.leaf := by
  cases value with
  | number x =>
    have hdocument : (Json.number x).IsFinite := hfinite
    exact Json.read_compact NumberStyle.isReadable_wide hdocument
  | flag b => cases b <;> rfl
  | label text =>
    have hplain : ∀ metric ∈ Metric.all, ∀ text ∈ metric.labels,
        text.toList.all fun c ↦ Json.escape c = [c] := by decide
    exact Json.quoted_of_escape (hplain metric metric.mem_all text h)

theorem isPrinted_slotLeaf {slot : Option Single} (h : ∀ x ∈ slot, x.isFinite) :
    IsPrinted ((slotLeaf slot).leaf .wide) (slotLeaf slot) := by
  cases slot with
  | none => rfl
  | some x =>
    have hdocument : (Json.number x).IsFinite := h x rfl
    exact Json.read_compact NumberStyle.isReadable_wide hdocument

/-- No name of a metric needs a backslash. -/
theorem indented_quoted {name : String} (h : name ∈ metricNames) :
    "  " ++ Json.quoted name = "  \"" ++ name ++ "\"" := by
  have hplain : ∀ name ∈ metricNames, name.toList.all fun c ↦ Json.escape c = [c] := by decide
  rw [Json.quoted_of_escape (hplain name h), ← String.append_assoc, ← String.append_assoc]
  rfl

theorem Store.isFinite_replayFields (store : Store) : (Json.object store.replayFields).IsFinite := by
  refine Json.fieldsAreFinite_iff.mpr fun field hfield ↦ ?_
  rcases Store.mem_replayFields_iff.mp hfield with rfl | hmem
  · refine Json.fieldsAreFinite_iff.mpr fun field hfield ↦ ?_
    rw [(Json.sortFields_perm store.pack.nodup_fields).mem_iff] at hfield
    simp only [Extremes.fields, List.mem_cons, List.not_mem_nil, or_false] at hfield
    rcases hfield with rfl | rfl | rfl | rfl <;> exact Json.isFinite_ofOption _
  · exact Store.isFinite_of_mem_snapshot hmem

/-- The lines of the document tell its fields, each at its place. -/
theorem prints_replayDocument (h : store.InRange) :
    Prints store.replayFields ((Json.object store.replayFields).lines .wide) where
  read_eq := Json.read_lines NumberStyle.isReadable_wide store.isFinite_replayFields
  scalar metric value hvalue := by
    have hmem := (Json.lookup_eq_some_iff store.ascending_replayFields).mp hvalue
    rw [lookup_replayFields_leaf h] at hvalue
    obtain ⟨kept, hget, rfl⟩ := Option.map_eq_some_iff.mp hvalue
    have hleaf : kept.leaf.IsLeaf := by cases kept <;> trivial
    obtain ⟨mark, hmark, hline⟩ := Json.exists_line_of_mem .wide hmem hleaf
    rw [indented_quoted metric.name_mem_metricNames] at hline
    have hfinite := isFinite_of_inRange h (.scalar metric) kept hget
    exact ⟨_, mark, isPrinted_leaf (h.admits hget) hfinite, hmark, hline⟩
  row metric items hitems := by
    have hmem := (Json.lookup_eq_some_iff store.ascending_replayFields).mp hitems
    rw [lookup_replayFields_slots h, Option.ite_none_left_eq_some] at hitems
    obtain ⟨hslots, hitems⟩ := hitems
    obtain rfl := Json.list.inj (Option.some.inj hitems)
    have hleaf : ∀ item ∈ (store.row metric).slots.map slotLeaf, item.IsLeaf := by
      intro item hitem
      obtain ⟨slot, -, rfl⟩ := List.mem_map.mp hitem
      cases slot <;> trivial
    obtain ⟨mark, hmark, hwithin⟩ :=
      Json.exists_row_of_mem .wide hmem (mt List.map_eq_nil_iff.mp hslots) hleaf
    rw [indented_quoted metric.name_mem_metricNames] at hwithin
    refine ⟨_, mark, ?_, hmark, hwithin⟩
    refine List.forall₂_map_left_iff.mpr (List.forall₂_same.mpr fun item hitem ↦ ?_)
    obtain ⟨slot, hslot, rfl⟩ := List.mem_map.mp hitem
    refine isPrinted_slotLeaf fun x hx ↦ ?_
    rw [Option.mem_def.mp hx] at hslot
    exact Store.isFinite_of_mem_slots (isFinite_of_inRange h) hslot

end

end BatteryTelemetry
