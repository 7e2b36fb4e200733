import BatteryTelemetry.Proofs.Decoder.Receive

/-!
# The effects of a run

A run has the effects of its frames one after the other, each frame's computed from the decoder
before it. Applying them all is running the frames (`run_eq_applyAll_trace`). Effects on an empty
store leave what was written last (`Store.holds_after`), and so does a run (`holds_run`): a metric
or a cell is known exactly if one of its effects wrote it.
-/

namespace BatteryTelemetry

def WritesMetric (effects : List Effect) (metric : Metric) : Prop :=
  ∃ value, .publish metric value ∈ effects

def WritesCell (effects : List Effect) (metric : CellMetric) (index : Nat) : Prop :=
  ∃ x, .publishCell metric index x ∈ effects

def lastValue? (effects : List Effect) (metric : Metric) : Option Value :=
  lastSaid? (Effect.valueOf? metric) effects

def lastCell? (effects : List Effect) (metric : CellMetric) (index : Nat) : Option Single :=
  lastSaid? (Effect.cellOf? metric index) effects

theorem isSome_lastValue?_iff {effects : List Effect} {metric : Metric} :
    (lastValue? effects metric).isSome ↔ WritesMetric effects metric := by
  have hread (effect : Effect) (value : Value) :
      effect.valueOf? metric = some value ↔ effect = .publish metric value := by
    cases effect with
    | publish m v => by_cases h : metric = m <;> simp [h, eq_comm]
    | publishCell | keep | note => simp
  rw [lastValue?, isSome_lastSaid?_iff, WritesMetric]
  simp only [hread]
  constructor
  · rintro ⟨effect, hmem, value, rfl⟩
    exact ⟨value, hmem⟩
  · rintro ⟨value, hmem⟩
    exact ⟨_, hmem, value, rfl⟩

theorem isSome_lastCell?_iff {effects : List Effect} {metric : CellMetric} {index : Nat} :
    (lastCell? effects metric index).isSome ↔ WritesCell effects metric index := by
  have hread (effect : Effect) (x : Single) :
      effect.cellOf? metric index = some x ↔ effect = .publishCell metric index x := by
    cases effect with
    | publishCell m i y =>
      by_cases h : metric = m <;> by_cases hi : index = i <;> simp [h, hi, eq_comm]
    | publish | keep | note => simp
  rw [lastCell?, isSome_lastSaid?_iff, WritesCell]
  simp only [hread]
  constructor
  · rintro ⟨effect, hmem, x, rfl⟩
    exact ⟨x, hmem⟩
  · rintro ⟨x, hmem⟩
    exact ⟨_, hmem, x, rfl⟩

/-- A store holds what effects wrote last, and nothing else. -/
structure Store.Holds (store : Store) (effects : List Effect) : Prop where
  get (metric : Metric) : store.get metric = lastValue? effects metric
  cell (metric : CellMetric) (index : Nat) :
    (store.row metric).get index = lastCell? effects metric index

namespace Decoder

/-- The store does not depend on what else a decoder keeps. -/
theorem store_applyAll (decoder : Decoder) (effects : List Effect) :
    (decoder.applyAll effects).store = effects.foldl Store.apply decoder.store := by
  induction effects generalizing decoder with
  | nil => rfl
  | cons effect rest ih => exact ih (decoder.apply effect)

end Decoder

namespace Store

def after (effects : List Effect) : Store := effects.foldl apply .empty

/-- On an empty store nothing is held that the effects did not write. -/
theorem holds_after (effects : List Effect) : (after effects).Holds effects := by
  have hstore := Decoder.store_applyAll (.start .unset .empty) effects
  constructor
  · intro metric
    have hget := Decoder.get_applyAll (.start .unset .empty) effects metric
    rw [hstore, Decoder.start, get_empty, Option.or_none] at hget
    exact hget
  · intro metric index
    have hcell := Decoder.cell_applyAll (.start .unset .empty) effects metric index
    rw [hstore, Decoder.start, row_empty, CellRow.get_empty, Option.or_none] at hcell
    exact hcell

end Store

namespace Decoder

variable (decoder : Decoder)

def trace (decoder : Decoder) : List Frame → List Effect
  | [] => []
  | frame :: rest => decoder.effects frame ++ (decoder.dispatch frame).trace rest

theorem applyAll_append (first second : List Effect) :
    decoder.applyAll (first ++ second) = (decoder.applyAll first).applyAll second :=
  List.foldl_append

/-- A run is the application of its effects, one after the other. -/
theorem run_eq_applyAll_trace (frames : List Frame) :
    decoder.run frames = decoder.applyAll (decoder.trace frames) := by
  induction frames generalizing decoder with
  | nil => rfl
  | cons frame rest ih =>
    rw [trace, applyAll_append]
    exact ih (decoder.dispatch frame)

/-- A run on an empty store leaves what its effects wrote last. -/
theorem holds_run (parameters : Parameters) (frames : List Frame) :
    ((start parameters .empty).run frames).store.Holds
      ((start parameters .empty).trace frames) := by
  rw [run_eq_applyAll_trace, store_applyAll]
  exact Store.holds_after _

end Decoder

end BatteryTelemetry
