import BatteryTelemetry.Document.Console
import BatteryTelemetry.Proofs.Number.Digits
import BatteryTelemetry.Proofs.Store.Range

/-!
# Lines for a person

A console line is one line: neither the texts of numbers nor the labels that a metric admits break
it, and no name or unit does.
-/

namespace BatteryTelemetry

/-- The text does not break a line. -/
def IsUnbroken (text : String) : Prop := '\n' ∉ text.toList

theorem isUnbroken_append {first second : String} :
    IsUnbroken (first ++ second) ↔ IsUnbroken first ∧ IsUnbroken second := by
  simp [IsUnbroken]

theorem lineFeed_notMem_toDigits (n : Nat) : '\n' ∉ Nat.toDigits 10 n := by
  intro hmem
  have hdigit := (Numeral.isWritten_toDigits (by decide : 1 < 10) n).isSome_digit (by decide)
    (by decide) '\n' hmem
  revert hdigit
  decide

theorem lineFeed_notMem_zeros (count : Nat) : '\n' ∉ NumberStyle.zeros count := by
  simp [NumberStyle.zeros]

theorem lineFeed_notMem_layPoint {digits : List Char} (h : '\n' ∉ digits) (point : Int)
    (keepsFraction : Bool) : '\n' ∉ NumberStyle.layPoint digits point keepsFraction := by
  have htake (n : Nat) : '\n' ∉ digits.take n := mt List.mem_of_mem_take h
  have hdrop (n : Nat) : '\n' ∉ digits.drop n := mt List.mem_of_mem_drop h
  unfold NumberStyle.layPoint
  split
  · simp [lineFeed_notMem_zeros, h]
  · dsimp only
    split
    · cases keepsFraction <;> simp [lineFeed_notMem_zeros, h]
    · simp [htake, hdrop]

/-- A number is written with digits, a point and a sign, or with letters. -/
theorem isUnbroken_plain (x : Single) : IsUnbroken (NumberStyle.plain.text x) := by
  have hsign : '\n' ∉ (if x.isNegative then ['-'] else []) := by
    cases x.isNegative <;> decide
  have hmagnitude (n : Nat) : '\n' ∉ NumberStyle.plain.magnitude n := by
    have hpositional (exponent : Int) : NumberStyle.plain.isPositional exponent = true := rfl
    simp only [NumberStyle.magnitude, hpositional, if_true]
    exact lineFeed_notMem_layPoint (lineFeed_notMem_toDigits _) _ _
  cases x with
  | nan => simp [IsUnbroken, NumberStyle.text]
  | infinite negative => simp [IsUnbroken, NumberStyle.text]
  | finite negative code =>
    rw [IsUnbroken, NumberStyle.text.eq_def]
    dsimp only
    rw [String.toList_ofList, List.mem_append, not_or]
    refine ⟨hsign, ?_⟩
    split
    · decide
    · exact hmagnitude _

theorem isUnbroken_fixed (places : Nat) (x : Single) : IsUnbroken (x.fixed places) := by
  have hsign : '\n' ∉ (if x.isNegative then ['-'] else []) := by
    cases x.isNegative <;> decide
  cases x with
  | nan => simp [IsUnbroken, Single.fixed]
  | infinite negative => simp [IsUnbroken, Single.fixed]
  | finite negative code =>
    rw [IsUnbroken, Single.fixed.eq_def]
    dsimp only
    rw [String.toList_ofList, List.mem_append, List.mem_append, not_or, not_or]
    refine ⟨⟨hsign, lineFeed_notMem_toDigits _⟩, ?_⟩
    split
    · decide
    · simp [lineFeed_notMem_zeros, lineFeed_notMem_toDigits]

theorem isUnbroken_slotText (slot : Option Single) : IsUnbroken (slotText slot) := by
  cases slot with
  | none => simp [IsUnbroken, slotText]
  | some x => exact isUnbroken_fixed 3 x

theorem isUnbroken_intercalate {texts : List String} (h : ∀ text ∈ texts, IsUnbroken text) :
    IsUnbroken (String.intercalate ", " texts) := by
  have hcomma : IsUnbroken ", " := by simp [IsUnbroken]
  induction texts with
  | nil => simp [IsUnbroken]
  | cons first rest ih =>
    obtain ⟨hfirst, hrest⟩ := List.forall_mem_cons.mp h
    cases rest with
    | nil => rwa [String.intercalate_singleton]
    | cons next others =>
      rw [String.intercalate_cons_cons, isUnbroken_append, isUnbroken_append]
      exact ⟨⟨hfirst, hcomma⟩, ih hrest⟩

theorem CellRow.isUnbroken_text (row : CellRow) : IsUnbroken row.text := by
  have hopening : IsUnbroken "[" := by simp [IsUnbroken]
  have hclosing : IsUnbroken "]" := by simp [IsUnbroken]
  rw [text, isUnbroken_append, isUnbroken_append]
  refine ⟨⟨hopening, isUnbroken_intercalate fun text htext ↦ ?_⟩, hclosing⟩
  obtain ⟨slot, -, rfl⟩ := List.mem_map.mp htext
  exact isUnbroken_slotText slot

/-- The labels that a metric admits are known, and none has a line feed in it. -/
theorem Metric.isUnbroken_text {metric : Metric} {value : Value} (h : metric.Admits value) :
    IsUnbroken value.text := by
  cases value with
  | number x => exact isUnbroken_plain x
  | flag b => cases b <;> simp [IsUnbroken, Value.text]
  | label text =>
    have hlabels : ∀ metric ∈ all, ∀ text ∈ metric.labels, '\n' ∉ text.toList := by decide
    exact hlabels metric metric.mem_all text h

theorem isUnbroken_consoleLine {name value unit : String} (hname : IsUnbroken name)
    (hvalue : IsUnbroken value) (hunit : IsUnbroken unit) :
    IsUnbroken (consoleLine name value unit) := by
  have hgap (count : Nat) : IsUnbroken (String.ofList (List.replicate count ' ')) := by
    simp [IsUnbroken]
  have hspace : IsUnbroken " " := by simp [IsUnbroken]
  have hline : consoleLine name value unit =
      name ++ String.ofList (List.replicate (nameWidth - name.length) ' ') ++ " " ++ value ++ " " ++
        unit := rfl
  simp only [hline, isUnbroken_append]
  exact ⟨⟨⟨⟨⟨hname, hgap _⟩, hspace⟩, hvalue⟩, hspace⟩, hunit⟩

/-- Each line for a person is one line. -/
theorem Store.isUnbroken_of_mem_consoleLines {store : Store} (h : store.InRange) {line : String}
    (hline : line ∈ store.consoleLines) : IsUnbroken line := by
  rcases List.mem_append.mp hline with hmem | hmem
  · obtain ⟨⟨metric, value⟩, hwritten, rfl⟩ := List.mem_map.mp hmem
    have hget : store.get metric = some value := by
      simpa [written, Metric.mem_all] using hwritten
    refine isUnbroken_consoleLine ?_ (Metric.isUnbroken_text (h.admits hget)) ?_
    · cases metric <;> simp [IsUnbroken, Metric.name]
    · cases metric <;> simp [IsUnbroken, Metric.unit]
  · obtain ⟨⟨metric, row⟩, -, rfl⟩ := List.mem_map.mp hmem
    refine isUnbroken_consoleLine ?_ row.isUnbroken_text ?_
    · cases metric <;> simp [IsUnbroken, CellMetric.name]
    · cases metric <;> simp [IsUnbroken, CellMetric.unit]

end BatteryTelemetry
