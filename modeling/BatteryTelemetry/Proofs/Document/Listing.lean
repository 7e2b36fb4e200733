import BatteryTelemetry.Document.Snapshot
import BatteryTelemetry.Proofs.Document.Fields
import BatteryTelemetry.Proofs.Document.Reader
import BatteryTelemetry.Proofs.Store.Range

/-!
# The values of a store by place

A store holds values at places: one for each scalar metric and one for each block of a cell metric.
The snapshot of a store has a field for each of its parts, which are the published scalars and the
rows with a slot. Names of metrics differ, so the fields are the parts in the order of their names,
and the leaves that are not null are the values of the store by name and block (`exists_listing`).
-/

namespace BatteryTelemetry

/-- Where a store holds a value. -/
inductive Place where
  | scalar (metric : Metric)
  | block (metric : CellMetric) (index : Nat)

namespace Place

def name : Place → String
  | scalar metric => metric.name
  | block metric _ => metric.name

def index : Place → Nat
  | scalar _ => 0
  | block _ index => index

def path : Place → Json.Path
  | scalar metric => [metric.name]
  | block metric index => [metric.name, toString index]

/-- Places go by the names of their metrics and then by their blocks. -/
def Before (p q : Place) : Prop := p.name < q.name ∨ p.name = q.name ∧ p.index < q.index

end Place

def Store.value? (store : Store) : Place → Option Value
  | .scalar metric => store.get metric
  | .block metric index => ((store.row metric).get index).map .number

/-- All values of a store with their places, in ascending order. -/
structure Store.IsListing (store : Store) (entries : List (Place × Value)) : Prop where
  ascending : entries.Pairwise fun a b ↦ a.1.Before b.1
  mem_iff (place : Place) (value : Value) :
    (place, value) ∈ entries ↔ store.value? place = some value

def snapshotLeaf (entry : Place × Value) : Json.Path × Json := (entry.1.path, entry.2.json)

/-! ## Parts -/

/-- What makes up one field of a snapshot. -/
inductive Part where
  | scalar (metric : Metric) (value : Value)
  | blocks (metric : CellMetric) (row : CellRow)

namespace Part

def field : Part → String × Json
  | scalar metric value => (metric.name, value.json)
  | blocks metric row => (metric.name, row.json)

def entries : Part → List (Place × Value)
  | scalar metric value => [(.scalar metric, value)]
  | blocks metric row => row.slots.zipIdx.flatMap fun slot ↦
    (slot.1.map fun x ↦ (.block metric slot.2, .number x)).toList

theorem name_of_mem_entries {part : Part} {entry : Place × Value} (h : entry ∈ part.entries) :
    entry.1.name = part.field.1 := by
  cases part with
  | scalar metric value =>
    rw [List.mem_singleton.mp h]
    rfl
  | blocks metric row =>
    obtain ⟨slot, -, hslot⟩ := List.mem_flatMap.mp h
    obtain ⟨x, -, rfl⟩ := Option.map_eq_some_iff.mp (Option.mem_toList.mp hslot)
    rfl

theorem mem_entries_blocks {metric : CellMetric} {row : CellRow} {place : Place} {value : Value} :
    (place, value) ∈ (Part.blocks metric row).entries ↔
      ∃ index x, row.get index = some x ∧ place = .block metric index ∧ value = .number x := by
  rw [entries, List.mem_flatMap]
  constructor
  · rintro ⟨⟨slot, index⟩, hslot, hentry⟩
    obtain ⟨x, rfl, heq⟩ := Option.map_eq_some_iff.mp (Option.mem_toList.mp hentry)
    obtain ⟨rfl, rfl⟩ := Prod.mk.inj heq
    refine ⟨index, x, ?_, rfl, rfl⟩
    rw [CellRow.get, List.mem_zipIdx_iff_getElem?.mp hslot]
    rfl
  · rintro ⟨index, x, hget, rfl, rfl⟩
    refine ⟨(some x, index), ?_, by simp⟩
    exact List.mem_zipIdx_iff_getElem?.mpr (Option.join_eq_some_iff.mp hget)

/-- Slots are numbered in ascending order. -/
theorem ascending_entries (part : Part) : part.entries.Pairwise fun a b ↦ a.1.Before b.1 := by
  cases part with
  | scalar metric value => exact List.pairwise_singleton _ _
  | blocks metric row =>
    refine List.pairwise_flatMap.mpr ⟨fun slot _ ↦ ?_, ?_⟩
    · cases slot.1 <;> simp
    · have hindex : (row.slots.zipIdx.map Prod.snd).Pairwise (· < ·) := by
        rw [List.zipIdx_map_snd]
        exact List.pairwise_lt_range' 1
      refine (List.pairwise_map.mp hindex).imp fun {a b} hlt p hp q hq ↦ ?_
      obtain ⟨x, -, rfl⟩ := Option.map_eq_some_iff.mp (Option.mem_toList.mp hp)
      obtain ⟨y, -, rfl⟩ := Option.map_eq_some_iff.mp (Option.mem_toList.mp hq)
      exact .inr ⟨rfl, hlt⟩

end Part

/-- A value that a document can hold. -/
def Value.IsFinite : Value → Prop
  | .number x => x.isFinite
  | _ => True

theorem Value.leaves_json (value : Value) : Json.leaves value.json = [([], value.json)] := by
  cases value with
  | number x => exact Json.leaves_ofSingle x
  | flag | label => rfl

theorem Value.isNull_json {value : Value} (h : value.IsFinite) : value.json.isNull = false := by
  cases value with
  | number x => exact Json.isNull_ofSingle h
  | flag | label => rfl

/-- What a document has for a value that it can hold. -/
def Value.leaf : Value → Json
  | .number x => .number x
  | .flag b => .flag b
  | .label text => .text text

/-- What a document has for a slot of a row, if it can hold its number. -/
def slotLeaf : Option Single → Json
  | none => .null
  | some x => .number x

/-- A finite value is written as it is and never as null. -/
theorem Value.json_eq_leaf {value : Value} (h : value.IsFinite) : value.json = value.leaf := by
  cases value with
  | number x => exact if_pos h
  | flag | label => rfl

theorem ofOption_eq_slotLeaf {slot : Option Single} (h : ∀ x ∈ slot, x.isFinite) :
    Json.ofOption slot = slotLeaf slot := by
  cases slot with
  | none => rfl
  | some x => exact if_pos (h x rfl)

theorem Value.isFinite_json (value : Value) : value.json.IsFinite := by
  cases value with
  | number x => exact Json.isFinite_ofSingle x
  | flag | label => trivial

/-- What is not finite has been replaced by null. -/
theorem CellRow.isFinite_json (row : CellRow) : row.json.IsFinite := by
  refine Json.itemsAreFinite_iff.mpr fun item hitem ↦ ?_
  obtain ⟨slot, -, rfl⟩ := List.mem_map.mp hitem
  exact Json.isFinite_ofOption slot

/-- The leaves of a field that are not null are the values of its part. -/
theorem Part.leaves_field {part : Part} (h : ∀ entry ∈ part.entries, entry.2.IsFinite) :
    ((Json.leaves part.field.2).map (Json.under part.field.1)).filter (fun leaf ↦ !leaf.2.isNull) =
      part.entries.map snapshotLeaf := by
  cases part with
  | scalar metric value =>
    have hfinite : value.IsFinite := h (.scalar metric, value) List.mem_cons_self
    simp [field, entries, Value.leaves_json, Json.under, Value.isNull_json hfinite, snapshotLeaf,
      Place.path]
  | blocks metric row =>
    have hslots : (Json.leaves row.json).map (Json.under metric.name) =
        row.slots.zipIdx.flatMap fun slot ↦
          [([metric.name, toString slot.2], Json.ofOption slot.1)] := by
      rw [CellRow.json, Json.leaves, Json.itemLeaves_eq_flatMap, List.zipIdx_map, List.map_flatMap,
        List.flatMap_map]
      simp [Json.leaves_ofOption, Json.under]
    change List.filter _ ((Json.leaves row.json).map (Json.under metric.name)) = _
    rw [hslots, entries, List.filter_flatMap, List.map_flatMap]
    refine List.flatMap_congr fun slot hslot ↦ ?_
    obtain ⟨number, index⟩ := slot
    cases number with
    | none => rfl
    | some x =>
      have hfinite : (Value.number x).IsFinite := by
        refine h (.block metric index, .number x) (mem_entries_blocks.mpr ⟨index, x, ?_, rfl, rfl⟩)
        rw [CellRow.get, List.mem_zipIdx_iff_getElem?.mp hslot]
        rfl
      have hnull : (Json.ofSingle x).isNull = false := Json.isNull_ofSingle hfinite
      simp [hnull, snapshotLeaf, Place.path, Value.json, Json.ofOption]

/-- A range leaves no room for NaN and infinities. -/
theorem isFinite_of_inRange {store : Store} (h : store.InRange) (place : Place) (value : Value)
    (hvalue : store.value? place = some value) : value.IsFinite := by
  cases place with
  | scalar metric =>
    have hadmits := h.admits hvalue
    cases value with
    | number x =>
      obtain ⟨low, high, -, hwithin⟩ := hadmits
      exact hwithin.isFinite
    | flag | label => trivial
  | block metric index =>
    obtain ⟨x, hget, rfl⟩ := Option.map_eq_some_iff.mp hvalue
    exact (h.admits_cell hget).isFinite

/-! ## Names -/

def metricNames : List String := Metric.all.map Metric.name ++ CellMetric.all.map CellMetric.name

/-- All names are different, those of rows and of scalar metrics together. -/
theorem nodup_metricNames : metricNames.Nodup := by decide

/-- A name belongs to one metric. -/
theorem Metric.name_injective {m n : Metric} (h : m.name = n.name) : m = n := by
  have hnodup : (Metric.all.map Metric.name).Nodup := (List.nodup_append.mp nodup_metricNames).1
  exact List.inj_on_of_nodup_map hnodup (mem_all m) (mem_all n) h

theorem CellMetric.name_injective {m n : CellMetric} (h : m.name = n.name) : m = n := by
  have hnodup : (CellMetric.all.map CellMetric.name).Nodup :=
    (List.nodup_append.mp nodup_metricNames).2.1
  exact List.inj_on_of_nodup_map hnodup (mem_all m) (mem_all n) h

theorem CellMetric.name_ne (cells : CellMetric) (metric : Metric) : cells.name ≠ metric.name :=
  ((List.nodup_append.mp nodup_metricNames).2.2 _ (List.mem_map_of_mem (Metric.mem_all metric)) _
    (List.mem_map_of_mem (CellMetric.mem_all cells))).symm

namespace Store

variable (store : Store)

def parts : List Part :=
  store.written.map (fun entry ↦ .scalar entry.1 entry.2) ++
    store.writtenRows.map fun entry ↦ .blocks entry.1 entry.2

theorem snapshot_eq_sortFields : store.snapshot = Json.sortFields (store.parts.map Part.field) := by
  rw [snapshot, parts, List.map_append, List.map_map, List.map_map]
  rfl

/-- What depends on a published metric, and on its value only as the store has it. -/
theorem map_written {β : Type} {f : Metric × Value → β} {g : Metric → β}
    (h : ∀ metric value, store.get metric = some value → f (metric, value) = g metric) :
    store.written.map f =
      (Metric.all.filter fun metric ↦ (store.get metric).isSome).map g := by
  rw [written]
  induction Metric.all with
  | nil => rfl
  | cons metric rest ih =>
    cases hget : store.get metric with
    | none => simp [hget, ih]
    | some value => simp [hget, ih, h metric value hget]

/-- Parts are in catalogue order, and none has the name of another one. -/
theorem names_sublist : (store.parts.map fun part ↦ part.field.1).Sublist metricNames := by
  rw [parts, List.map_append, List.map_map, List.map_map]
  apply List.Sublist.append
  · rw [store.map_written (g := Metric.name) fun metric value _ ↦ rfl]
    exact List.filter_sublist.map Metric.name
  · have hsublist : store.writtenRows.Sublist
        (CellMetric.all.map fun metric ↦ (metric, store.row metric)) := List.filter_sublist
    have hnames := hsublist.map fun entry ↦ entry.1.name
    rw [List.map_map] at hnames
    exact hnames

theorem nodup_names : (store.parts.map fun part ↦ part.field.1).Nodup :=
  store.names_sublist.nodup nodup_metricNames

/-- A snapshot holds the fields of all parts. -/
theorem snapshot_perm : store.snapshot.Perm (store.parts.map Part.field) := by
  have hnodup := store.nodup_names
  rw [snapshot_eq_sortFields]
  apply Json.sortFields_perm
  rw [List.map_map]
  exact hnodup

/-- A snapshot has no fields but those of metrics. -/
theorem fst_mem_metricNames {field : String × Json} (h : field ∈ store.snapshot) :
    field.1 ∈ metricNames := by
  obtain ⟨part, hpart, rfl⟩ := List.mem_map.mp (store.snapshot_perm.mem_iff.mp h)
  exact store.names_sublist.subset (List.mem_map_of_mem hpart)

variable {store}

theorem isFinite_of_mem_snapshot {field : String × Json} (h : field ∈ store.snapshot) :
    field.2.IsFinite := by
  obtain ⟨part, -, rfl⟩ := List.mem_map.mp (store.snapshot_perm.mem_iff.mp h)
  cases part with
  | scalar metric value => exact value.isFinite_json
  | blocks metric row => exact row.isFinite_json

theorem scalar_mem_parts {metric : Metric} {value : Value} :
    Part.scalar metric value ∈ store.parts ↔ store.get metric = some value := by
  simp [parts, written, Metric.mem_all]

theorem isFinite_of_mem_slots (h : ∀ place value, store.value? place = some value → value.IsFinite)
    {metric : CellMetric} {x : Single} (hslot : some x ∈ (store.row metric).slots) :
    x.isFinite := by
  obtain ⟨index, hindex, hget⟩ := List.getElem_of_mem hslot
  apply h (.block metric index) (.number x)
  rw [value?, CellRow.get, List.getElem?_eq_getElem hindex, hget]
  rfl

theorem map_ofOption_slots (h : ∀ place value, store.value? place = some value → value.IsFinite)
    (metric : CellMetric) :
    (store.row metric).slots.map Json.ofOption = (store.row metric).slots.map slotLeaf := by
  refine List.map_congr_left fun slot hslot ↦ ofOption_eq_slotLeaf fun x hx ↦ ?_
  rw [Option.mem_def.mp hx] at hslot
  exact isFinite_of_mem_slots h hslot

/-- The fields of a store with finite values. -/
theorem map_field_parts (h : ∀ place value, store.value? place = some value → value.IsFinite) :
    store.parts.map Part.field =
      store.written.map (fun entry ↦ (entry.1.name, entry.2.leaf)) ++
        store.writtenRows.map fun entry ↦ (entry.1.name, .list (entry.2.slots.map slotLeaf)) := by
  rw [parts, List.map_append, List.map_map, List.map_map]
  congr 1
  · refine List.map_congr_left fun entry hentry ↦ ?_
    obtain ⟨metric, value⟩ := entry
    have hget : store.get metric = some value := by
      simpa [written, Metric.mem_all] using hentry
    exact congrArg (metric.name, ·) (Value.json_eq_leaf (h (.scalar metric) value hget))
  · refine List.map_congr_left fun entry hentry ↦ ?_
    obtain ⟨metric, -, rfl⟩ := List.mem_map.mp (List.mem_of_mem_filter hentry)
    exact congrArg (metric.name, Json.list ·) (map_ofOption_slots h metric)

theorem blocks_mem_parts {metric : CellMetric} {row : CellRow} :
    Part.blocks metric row ∈ store.parts ↔ row = store.row metric ∧ row.slots ≠ [] := by
  simp only [parts, writtenRows]
  simp [CellMetric.mem_all]
  grind

/-- The values in the parts of a store are all its values. -/
theorem exists_part_iff {place : Place} {value : Value} :
    (∃ part ∈ store.parts, (place, value) ∈ part.entries) ↔ store.value? place = some value := by
  constructor
  · rintro ⟨part, hpart, hentry⟩
    cases part with
    | scalar metric kept =>
      obtain ⟨rfl, rfl⟩ := Prod.mk.inj (List.mem_singleton.mp hentry)
      exact scalar_mem_parts.mp hpart
    | blocks metric row =>
      obtain ⟨rfl, -⟩ := blocks_mem_parts.mp hpart
      obtain ⟨index, x, hget, rfl, rfl⟩ := Part.mem_entries_blocks.mp hentry
      rw [value?, hget]
      rfl
  · intro hvalue
    cases place with
    | scalar metric =>
      exact ⟨.scalar metric value, scalar_mem_parts.mpr hvalue, List.mem_singleton_self _⟩
    | block metric index =>
      obtain ⟨x, hget, rfl⟩ := Option.map_eq_some_iff.mp hvalue
      refine ⟨.blocks metric (store.row metric), blocks_mem_parts.mpr ⟨rfl, ?_⟩, ?_⟩
      · intro hnil
        simp [CellRow.get, hnil] at hget
      · exact Part.mem_entries_blocks.mpr ⟨index, x, hget, rfl, rfl⟩

/-- The leaves of a snapshot that are not null are the values of the store, if these are finite. -/
theorem exists_listing (h : ∀ place value, store.value? place = some value → value.IsFinite) :
    ∃ entries, store.IsListing entries ∧
      (Json.leaves (.object store.snapshot)).filter (fun leaf ↦ !leaf.2.isNull) =
        entries.map snapshotLeaf := by
  obtain ⟨sorted, hperm, hsnapshot⟩ := Json.exists_sortFields_map Part.field store.nodup_names
  rw [← snapshot_eq_sortFields] at hsnapshot
  have hmem (place : Place) (value : Value) :
      (place, value) ∈ sorted.flatMap Part.entries ↔ store.value? place = some value := by
    rw [← exists_part_iff, List.mem_flatMap]
    simp only [hperm.mem_iff]
  have hascending : sorted.Pairwise fun a b ↦ a.field.1 < b.field.1 := by
    have hsorted := Json.ascending_sortFields (store.parts.map Part.field)
    rwa [← snapshot_eq_sortFields, hsnapshot, Json.Ascending, List.pairwise_map] at hsorted
  refine ⟨sorted.flatMap Part.entries, ⟨?_, hmem⟩, ?_⟩
  · refine List.pairwise_flatMap.mpr ⟨fun part _ ↦ part.ascending_entries, ?_⟩
    refine hascending.imp fun {a b} hlt p hp q hq ↦ .inl ?_
    rwa [Part.name_of_mem_entries hp, Part.name_of_mem_entries hq]
  · have hfinite : ∀ part ∈ sorted, ∀ entry ∈ part.entries, entry.2.IsFinite := by
      intro part hpart entry hentry
      apply h entry.1 entry.2
      exact (hmem _ _).mp (List.mem_flatMap.mpr ⟨part, hpart, hentry⟩)
    calc
      (Json.leaves (.object store.snapshot)).filter (fun leaf ↦ !leaf.2.isNull) =
          sorted.flatMap fun part ↦
            ((Json.leaves part.field.2).map (Json.under part.field.1)).filter
              fun leaf ↦ !leaf.2.isNull := by
        rw [Json.leaves, Json.fieldLeaves_eq_flatMap, hsnapshot, List.flatMap_map,
          List.filter_flatMap]
      _ = sorted.flatMap fun part ↦ part.entries.map snapshotLeaf :=
        List.flatMap_congr fun part hpart ↦ Part.leaves_field (hfinite part hpart)
      _ = (sorted.flatMap Part.entries).map snapshotLeaf := List.map_flatMap.symm

end Store

end BatteryTelemetry
