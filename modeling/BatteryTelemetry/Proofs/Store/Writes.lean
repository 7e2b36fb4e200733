import BatteryTelemetry.Proofs.Decoder.Trace
import Mathlib.Order.Bounds.Basic

/-!
# The store as a sparse map

After any effects on an empty store every place holds what was written there last and nothing else
(`Store.holds_after`), so effects that write the same last leave equal stores. A row is stored as
slots up to the highest block written. A write behind the last slot makes room with unknown slots
(`CellRow.slots_set`), and neither loses old numbers nor fills gaps: a slot is unknown exactly if
its block was never written. The known numbers stand in ascending order of the blocks, the scalar
metrics in catalogue order, each once.
-/

namespace BatteryTelemetry

namespace CellRow

variable {row : CellRow} {index : Nat}

/-- Filling a slot behind the last one appends unknown slots first. -/
theorem fill_eq (slots : List (Option Single)) (index : Nat) (x : Single) :
    fill slots index x =
      (slots ++ List.replicate (index + 1 - slots.length) none).set index (some x) := by
  induction slots generalizing index with
  | nil =>
    induction index with
    | zero => rfl
    | succ index ih =>
      rw [fill, ih]
      rfl
  | cons slot rest ih =>
    cases index with
    | zero => simp [fill]
    | succ index =>
      rw [fill, ih]
      simp

/-- Slots up to the index are added without numbers before the number is put in. -/
theorem slots_set (row : CellRow) (index : Nat) (x : Single) :
    (row.set index x).slots =
      (row.slots ++ List.replicate (index + 1 - row.slots.length) none).set index (some x) :=
  fill_eq row.slots index x

theorem getElem_slots (h : index < row.slots.length) : row.slots[index] = row.get index := by
  rw [get, List.getElem?_eq_getElem h]
  rfl

theorem lt_length_of_isSome_get (h : (row.get index).isSome) : index < row.slots.length := by
  by_contra hge
  rw [get, List.getElem?_eq_none (Nat.not_lt.mp hge)] at h
  cases h

/-- The last slot is known. -/
theorem exists_getLast?_eq (h : row.slots ≠ []) : ∃ x, row.slots.getLast? = some (some x) := by
  obtain ⟨slot, hlast⟩ := Option.isSome_iff_exists.mp (List.getLast?_isSome.mpr h)
  cases slot with
  | none => exact absurd hlast row.ends
  | some x => exact ⟨x, hlast⟩

/-- The slots go up to the highest known block. -/
theorem exists_isGreatest (h : row.slots ≠ []) :
    ∃ highest, IsGreatest {index | (row.get index).isSome} highest ∧
      row.slots.length = highest + 1 := by
  have hpos : 0 < row.slots.length := List.length_pos_iff.mpr h
  have hlast := row.ends
  have hlt : row.slots.length - 1 < row.slots.length := Nat.sub_one_lt_of_lt hpos
  rw [List.getLast?_eq_getElem?, List.getElem?_eq_getElem hlt, getElem_slots] at hlast
  refine ⟨row.slots.length - 1, ⟨?_, ?_⟩, (Nat.sub_add_cancel hpos).symm⟩
  · exact Option.isSome_iff_ne_none.mpr fun hnone ↦ hlast (congrArg some hnone)
  · exact fun index hindex ↦ Nat.le_sub_one_of_lt (lt_length_of_isSome_get hindex)

/-- A row has slots exactly if a block of it is known. -/
theorem slots_ne_nil_iff : row.slots ≠ [] ↔ ∃ index, (row.get index).isSome := by
  constructor
  · intro h
    obtain ⟨highest, hgreatest, -⟩ := exists_isGreatest h
    exact ⟨highest, hgreatest.1⟩
  · rintro ⟨index, hsome⟩ hnil
    have hlt := lt_length_of_isSome_get hsome
    simp [hnil] at hlt

/-- The known numbers are those of the blocks in ascending order. -/
theorem known_eq_filterMap (row : CellRow) :
    row.known = (List.range row.slots.length).filterMap row.get := by
  have hslots : row.slots = (List.range row.slots.length).map row.get := by
    apply List.ext_getElem
    · simp
    · intro index hindex _
      rw [getElem_slots, List.getElem_map, List.getElem_range]
  calc
    row.known = ((List.range row.slots.length).map row.get).filterMap id := by
      rw [← hslots, known]
    _ = (List.range row.slots.length).filterMap row.get := List.filterMap_map

/-- The answers in a list are those of the entries that give one. -/
theorem map_some_filterMap {α β : Type} (f : α → Option β) (l : List α) :
    (l.filterMap f).map some = (l.filter fun a ↦ (f a).isSome).map f := by
  induction l with
  | nil => rfl
  | cons a rest ih => cases h : f a <;> simp [h, ih]

/-- The known numbers are those of the known blocks in ascending order. -/
theorem exists_ascending (row : CellRow) :
    ∃ indices : List Nat, indices.Pairwise (· < ·) ∧
      (∀ index, index ∈ indices ↔ (row.get index).isSome) ∧
      row.known.map some = indices.map row.get := by
  refine ⟨(List.range row.slots.length).filter fun index ↦ (row.get index).isSome,
    List.pairwise_lt_range.filter _, fun index ↦ ?_, ?_⟩
  · rw [List.mem_filter, List.mem_range, and_iff_right_iff_imp]
    exact lt_length_of_isSome_get
  · rw [known_eq_filterMap, map_some_filterMap]

end CellRow

namespace Store

variable {store : Store} {effects : List Effect}

theorem Holds.isSome_get (h : store.Holds effects) (metric : Metric) :
    (store.get metric).isSome ↔ WritesMetric effects metric := by
  rw [h.get, isSome_lastValue?_iff]

/-- A place of a row is known exactly if an effect wrote it. -/
theorem Holds.isSome_cell (h : store.Holds effects) (metric : CellMetric) (index : Nat) :
    ((store.row metric).get index).isSome ↔ WritesCell effects metric index := by
  rw [h.cell, isSome_lastCell?_iff]

/-- What effects write last determines the store. -/
theorem Holds.unique {other : Store} {others : List Effect} (h : store.Holds effects)
    (hother : other.Holds others)
    (hvalue : ∀ metric, lastValue? effects metric = lastValue? others metric)
    (hcell : ∀ metric index, lastCell? effects metric index = lastCell? others metric index) :
    store = other := by
  apply ext_get
  · intro metric
    rw [h.get, hother.get, hvalue]
  · intro metric
    apply CellRow.ext_get
    intro index
    rw [h.cell, hother.cell, hcell]

theorem mem_written_iff {metric : Metric} {value : Value} :
    (metric, value) ∈ store.written ↔ store.get metric = some value := by
  simp [written, Metric.mem_all]

/-- The written metrics are in catalogue order, and none is there twice. -/
theorem ascending_written (store : Store) :
    store.written.Pairwise fun a b ↦ a.1.index < b.1.index := by
  have hall : Metric.all.Pairwise fun m n ↦ m.index < n.index := by decide
  apply hall.filterMap
  intro m n hlt a ha b hb
  obtain ⟨_, _, rfl⟩ := Option.map_eq_some_iff.mp ha
  obtain ⟨_, _, rfl⟩ := Option.map_eq_some_iff.mp hb
  exact hlt

/-- A store is the sparse map of what effects write, whatever their order and their indices. -/
structure IsSparseMap (store : Store) (effects : List Effect) : Prop where
  get (metric : Metric) : store.get metric = lastValue? effects metric
  cell (metric : CellMetric) (index : Nat) :
    (store.row metric).get index = lastCell? effects metric index
  slots_eq_nil_iff (metric : CellMetric) :
    (store.row metric).slots = [] ↔ ∀ index, ¬WritesCell effects metric index
  exists_highest (metric : CellMetric) : (store.row metric).slots ≠ [] →
    ∃ highest, IsGreatest {index | WritesCell effects metric index} highest ∧
      (store.row metric).slots.length = highest + 1
  last_known (metric : CellMetric) : (store.row metric).slots ≠ [] →
    ∃ x, (store.row metric).slots.getLast? = some (some x)
  slot_eq_none_iff (metric : CellMetric) (index : Nat)
    (h : index < (store.row metric).slots.length) :
    (store.row metric).slots[index] = none ↔ ¬WritesCell effects metric index
  /-- The known numbers are those written last, in ascending order of the blocks. -/
  known (metric : CellMetric) : ∃ indices : List Nat, indices.Pairwise (· < ·) ∧
    (∀ index, index ∈ indices ↔ WritesCell effects metric index) ∧
    (store.row metric).known.map some = indices.map (lastCell? effects metric)
  written_ascending : store.written.Pairwise fun a b ↦ a.1.index < b.1.index
  mem_written_iff (metric : Metric) (value : Value) :
    (metric, value) ∈ store.written ↔ lastValue? effects metric = some value
  /-- Effects that write the same last leave the same store. -/
  unique (others : List Effect) :
    (∀ metric, lastValue? effects metric = lastValue? others metric) →
    (∀ metric index, lastCell? effects metric index = lastCell? others metric index) →
    store = after others

/-- Effects on an empty store leave what they wrote last, whatever their order. -/
theorem after_isSparseMap (effects : List Effect) : (after effects).IsSparseMap effects := by
  have hholds := holds_after effects
  refine
    { get := hholds.get
      cell := hholds.cell
      slots_eq_nil_iff := fun metric ↦ ?_
      exists_highest := fun metric hslots ↦ ?_
      last_known := fun metric hslots ↦ CellRow.exists_getLast?_eq hslots
      slot_eq_none_iff := fun metric index hindex ↦ ?_
      known := fun metric ↦ ?_
      written_ascending := ascending_written _
      mem_written_iff := fun metric value ↦ ?_
      unique := fun others hvalue hcell ↦ ?_ }
  · rw [← not_exists, ← not_iff_not, not_not]
    simp only [← hholds.isSome_cell]
    exact CellRow.slots_ne_nil_iff
  · obtain ⟨highest, hgreatest, hlength⟩ := CellRow.exists_isGreatest hslots
    simp only [hholds.isSome_cell] at hgreatest
    exact ⟨highest, hgreatest, hlength⟩
  · rw [CellRow.getElem_slots, ← hholds.isSome_cell, Option.not_isSome_iff_eq_none]
  · obtain ⟨indices, hascending, hmem, hknown⟩ := ((after effects).row metric).exists_ascending
    simp only [hholds.isSome_cell] at hmem
    refine ⟨indices, hascending, hmem, hknown.trans ?_⟩
    exact List.map_congr_left fun index _ ↦ hholds.cell metric index
  · rw [Store.mem_written_iff, hholds.get]
  · exact hholds.unique (holds_after others) hvalue hcell

/-- Out of order and with gaps: slots that are passed over stay unknown until they are written. -/
example : ((after [.publishCell .coldest 2 20, .publishCell .coldest 0 18,
    .publishCell .coldest 2 21]).row .coldest).slots = [some 18, none, some 21] := by
  decide

end Store

end BatteryTelemetry
