import BatteryTelemetry.Proofs.Document.Layout

/-!
# Printed lines

Over several lines each field of an object is printed two spaces deeper than the object, on lines
that follow each other, with a comma behind the last of them if another field follows
(`exists_lines_of_mem`). A field without parts has one line. A list of items without parts has a
line for each of them, between its brackets (`lines_list`).
-/

namespace BatteryTelemetry.Json

variable {style : NumberStyle}

theorem itemLines_eq_map (style : NumberStyle) (items : List Json) :
    itemLines style items = items.map (lines style) := by
  induction items with
  | nil => rfl
  | cons item rest ih => rw [itemLines, ih, List.map_cons]

theorem fieldLines_eq_map (style : NumberStyle) (fields : List (String × Json)) :
    fieldLines style fields = fields.map fun field ↦ withLabel field.1 (field.2.lines style) := by
  induction fields with
  | nil => rfl
  | cons field rest ih => rw [fieldLines, ih, List.map_cons]

/-- An object with a field has lines of its own for its brackets. -/
theorem lines_object {fields : List (String × Json)} (hne : fields ≠ []) :
    (object fields).lines style = bracket "\x7b" "\x7d" (fieldLines style fields) := by
  cases fields with
  | nil => exact absurd rfl hne
  | cons field rest => rfl

theorem endWith_concat (mark : String) (lines : List String) (last : String) :
    endWith mark (lines ++ [last]) = lines ++ [last ++ mark] := by
  simp [endWith]

/-- Nothing is put behind the last part. -/
theorem endWith_empty {lines : List String} (hne : lines ≠ []) : endWith "" lines = lines := by
  rw [endWith, String.append_empty, List.getLastD_eq_getLast?, List.getLast?_eq_some_getLast hne,
    Option.getD_some, List.dropLast_concat_getLast]

/-- Each part keeps its lines, up to the comma that separates it from the next one. -/
theorem exists_isInfix_separate {parts : List (List String)} {part : List String}
    (hpart : part ∈ parts) (hne : part ≠ []) :
    ∃ mark ∈ ["", ","], endWith mark part <:+: (separate parts).flatten := by
  induction parts with
  | nil => cases hpart
  | cons first rest ih =>
    cases rest with
    | nil =>
      obtain rfl := List.mem_singleton.mp hpart
      have hlines : endWith "" part = (separate [part]).flatten := by
        rw [endWith_empty hne, separate, List.flatten_singleton]
      exact ⟨"", List.mem_cons_self, hlines ▸ List.infix_rfl⟩
    | cons next others =>
      rw [separate, List.flatten_cons]
      rcases List.mem_cons.mp hpart with rfl | hlater
      · exact ⟨",", by decide, (List.prefix_append _ _).isInfix⟩
      · obtain ⟨mark, hmark, hwithin⟩ := ih hlater
        exact ⟨mark, hmark, hwithin.trans (List.suffix_append _ _).isInfix⟩

/-- The lines of a field of an object. -/
theorem exists_lines_of_mem (style : NumberStyle) {fields : List (String × Json)} {name : String} {value : Json}
    (h : (name, value) ∈ fields) : ∃ mark ∈ ["", ","],
      (endWith mark (withLabel name (value.lines style))).map ("  " ++ ·) <:+:
        (object fields).lines style := by
  have hpart : withLabel name (value.lines style) ∈ fieldLines style fields := by
    rw [fieldLines_eq_map]
    exact List.mem_map_of_mem h
  obtain ⟨mark, hmark, hwithin⟩ :=
    exists_isInfix_separate hpart (withLabel_ne_nil name (lines_ne_nil style value))
  refine ⟨mark, hmark, ?_⟩
  rw [lines_object (List.ne_nil_of_mem h), bracket_eq, List.cons_append]
  exact ((hwithin.map _).trans (List.prefix_append _ _).isInfix).trans (List.suffix_cons _ _).isInfix

def IsLeaf : Json → Prop
  | list _ => False
  | object _ => False
  | _ => True

theorem lines_eq_leaf {value : Json} (h : value.IsLeaf) : value.lines style = [value.leaf style] := by
  cases value with
  | list => exact h.elim
  | object => exact h.elim
  | null | flag | natural | number | text => rfl

/-- The line of a field without parts. -/
theorem exists_line_of_mem (style : NumberStyle) {fields : List (String × Json)} {name : String} {value : Json}
    (h : (name, value) ∈ fields) (hleaf : value.IsLeaf) : ∃ mark ∈ ["", ","],
      "  " ++ quoted name ++ ": " ++ value.leaf style ++ mark ∈ (object fields).lines style := by
  obtain ⟨mark, hmark, hwithin⟩ := exists_lines_of_mem style h
  rw [lines_eq_leaf hleaf, withLabel, ← List.nil_append [_], endWith_concat] at hwithin
  refine ⟨mark, hmark, ?_⟩
  have hmem := hwithin.subset List.mem_cons_self
  simpa [String.append_assoc] using hmem

/-- Lines with a comma behind each but the last. -/
def punctuated : List String → List String
  | [] => []
  | [line] => [line]
  | line :: next :: rest => (line ++ ",") :: punctuated (next :: rest)

/-- Parts of one line each are separated line by line. -/
theorem flatten_separate_singletons (lines : List String) :
    (separate (lines.map ([·]))).flatten = punctuated lines := by
  induction lines with
  | nil => rfl
  | cons line rest ih =>
    cases rest with
    | nil => rfl
    | cons next rest =>
      rw [List.map_cons, List.map_cons, separate, List.flatten_cons, punctuated, ← ih]
      rfl

/-- The lines of a list whose items have no parts. -/
theorem lines_list {items : List Json} (hne : items ≠ []) (hleaf : ∀ item ∈ items, item.IsLeaf) :
    (list items).lines style =
      "[" :: (punctuated (items.map (leaf style))).map ("  " ++ ·) ++ ["]"] := by
  have hlines : (list items).lines style = bracket "[" "]" (itemLines style items) := by
    cases items with
    | nil => exact absurd rfl hne
    | cons item rest => rfl
  have hitems : items.map (lines style) = (items.map (leaf style)).map ([·]) := by
    rw [List.map_map]
    exact List.map_congr_left fun item hitem ↦ lines_eq_leaf (hleaf item hitem)
  rw [hlines, bracket_eq, itemLines_eq_map, hitems, flatten_separate_singletons]

/-- The lines of a field with a list of items without parts. -/
theorem exists_row_of_mem (style : NumberStyle) {fields : List (String × Json)} {name : String}
    {items : List Json} (h : (name, list items) ∈ fields) (hne : items ≠ []) (hleaf : ∀ item ∈ items, item.IsLeaf) :
    ∃ mark ∈ ["", ","],
      ("  " ++ quoted name ++ ": [") ::
          (punctuated (items.map (leaf style))).map ("    " ++ ·) ++ ["  ]" ++ mark] <:+:
        (object fields).lines style := by
  obtain ⟨mark, hmark, hwithin⟩ := exists_lines_of_mem style h
  refine ⟨mark, hmark, ?_⟩
  rw [lines_list hne hleaf, List.cons_append, withLabel, ← List.cons_append, endWith_concat,
    List.map_append, List.map_cons, List.map_map] at hwithin
  have hitem (line : String) : "  " ++ ("  " ++ line) = "    " ++ line := by
    rw [← String.append_assoc]
    rfl
  have hclosing : "  " ++ ("]" ++ mark) = "  ]" ++ mark := by
    rw [← String.append_assoc]
    rfl
  simpa [Function.comp_def, String.append_assoc, hitem, hclosing] using hwithin

/-- A text without characters that need a backslash stands as it is. -/
theorem quoted_of_escape {text : String} (h : text.toList.all fun c ↦ escape c = [c]) :
    quoted text = "\"" ++ text ++ "\"" := by
  have hflatMap : text.toList.flatMap escape = text.toList := by
    have hescape : ∀ c ∈ text.toList, escape c = [c] := by simpa using h
    rw [List.flatMap_congr hescape]
    simp
  apply String.toList_inj.mp
  simp [quoted, hflatMap]

end BatteryTelemetry.Json
