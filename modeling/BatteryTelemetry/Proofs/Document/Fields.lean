import BatteryTelemetry.Document.Leaf
import Mathlib.Data.List.Induction
import Mathlib.Data.List.Nodup
import Mathlib.Data.String.Basic

/-!
# Sorted fields

Inserting a field keeps the fields in strictly ascending order of their names, so no two fields of
a sorted object have one name. If the names are different to begin with, no field is lost: sorting
only permutes them (`exists_sortFields_map`, which speaks of whatever the fields are made from).
The leaves of an object are those of its fields, one field after the other.
-/

namespace BatteryTelemetry.Json

def Ascending (fields : List (String × Json)) : Prop := fields.Pairwise fun a b ↦ a.1 < b.1

theorem eq_or_mem_of_mem_insertField {name : String} {value : Json} {fields : List (String × Json)}
    {field : String × Json} (h : field ∈ insertField name value fields) :
    field = (name, value) ∨ field ∈ fields := by
  induction fields with
  | nil => exact .inl (List.mem_singleton.mp h)
  | cons head rest ih =>
    rw [insertField] at h
    split_ifs at h
    · exact List.mem_cons.mp h
    · exact (List.mem_cons.mp h).imp_right (List.mem_cons_of_mem head)
    · rcases List.mem_cons.mp h with rfl | h
      · exact .inr List.mem_cons_self
      · exact (ih h).imp_right (List.mem_cons_of_mem head)

/-- A field is inserted in front of the first one with a later name. -/
theorem Ascending.insertField {fields : List (String × Json)} (h : Ascending fields)
    (name : String) (value : Json) : Ascending (insertField name value fields) := by
  induction fields with
  | nil => exact List.pairwise_singleton _ _
  | cons head rest ih =>
    obtain ⟨hhead, hrest⟩ := List.pairwise_cons.mp h
    rw [Json.insertField]
    split_ifs with hlt heq
    · refine List.pairwise_cons.mpr ⟨fun field hfield ↦ ?_, h⟩
      rcases List.mem_cons.mp hfield with rfl | hfield
      · exact hlt
      · exact String.lt_trans hlt (hhead field hfield)
    · subst heq
      exact List.pairwise_cons.mpr ⟨hhead, hrest⟩
    · refine List.pairwise_cons.mpr ⟨fun field hfield ↦ ?_, ih hrest⟩
      rcases eq_or_mem_of_mem_insertField hfield with rfl | hfield
      · exact ((lt_trichotomy name head.1).resolve_left hlt).resolve_left heq
      · exact hhead field hfield

/-- Inserting under a new name loses no field. The fields are made from items here, so that the
items are permuted along with them. -/
theorem exists_insertField_map {ι : Type} (field : ι → String × Json) (item : ι) {items : List ι}
    (h : ∀ other ∈ items, (field item).1 ≠ (field other).1) :
    ∃ inserted : List ι, inserted.Perm (item :: items) ∧
      insertField (field item).1 (field item).2 (items.map field) = inserted.map field := by
  induction items with
  | nil => exact ⟨[item], .refl _, rfl⟩
  | cons head rest ih =>
    obtain ⟨hhead, hrest⟩ := List.forall_mem_cons.mp h
    by_cases hlt : (field item).1 < (field head).1
    · refine ⟨item :: head :: rest, .refl _, ?_⟩
      rw [List.map_cons, insertField, if_pos hlt, List.map_cons, List.map_cons]
    · obtain ⟨inserted, hperm, heq⟩ := ih hrest
      refine ⟨head :: inserted, (hperm.cons head).trans (.swap item head rest), ?_⟩
      rw [List.map_cons, insertField, if_neg hlt, if_neg hhead, heq, List.map_cons]

/-- Under a new name no field is lost. -/
theorem insertField_perm {name : String} (value : Json) {fields : List (String × Json)}
    (h : ∀ field ∈ fields, name ≠ field.1) :
    (insertField name value fields).Perm ((name, value) :: fields) := by
  obtain ⟨inserted, hperm, heq⟩ := exists_insertField_map id (name, value) h
  rw [List.map_id, List.map_id] at heq
  exact heq ▸ hperm

theorem sortFields_concat (fields : List (String × Json)) (field : String × Json) :
    sortFields (fields ++ [field]) = insertField field.1 field.2 (sortFields fields) :=
  List.foldl_concat ..

/-- Sorted fields have different names. -/
theorem ascending_sortFields (fields : List (String × Json)) : Ascending (sortFields fields) := by
  induction fields using List.reverseRecOn with
  | nil => exact .nil
  | append_singleton fields field ih =>
    rw [sortFields_concat]
    exact ih.insertField field.1 field.2

/-- Sorting fields with different names permutes them. -/
theorem exists_sortFields_map {ι : Type} (field : ι → String × Json) {items : List ι}
    (h : (items.map fun item ↦ (field item).1).Nodup) :
    ∃ sorted : List ι, sorted.Perm items ∧ sortFields (items.map field) = sorted.map field := by
  induction items using List.reverseRecOn with
  | nil => exact ⟨[], .refl _, rfl⟩
  | append_singleton items item ih =>
    rw [List.map_append, List.nodup_append] at h
    obtain ⟨hitems, -, hdisjoint⟩ := h
    obtain ⟨sorted, hperm, heq⟩ := ih hitems
    have hnew : ∀ other ∈ sorted, (field item).1 ≠ (field other).1 := by
      intro other hother hname
      have hmem := List.mem_map_of_mem (f := fun item ↦ (field item).1) (hperm.mem_iff.mp hother)
      exact hdisjoint _ hmem _ (List.mem_singleton_self _) hname.symm
    obtain ⟨inserted, hinserted, hfields⟩ := exists_insertField_map field item hnew
    refine ⟨inserted, hinserted.trans ((hperm.cons item).trans ?_), ?_⟩
    · exact (List.perm_append_singleton item items).symm
    · rw [List.map_append, List.map_singleton, sortFields_concat, heq, hfields]

/-- Fields with different names are all kept. -/
theorem sortFields_perm {fields : List (String × Json)} (h : (fields.map Prod.fst).Nodup) :
    (sortFields fields).Perm fields := by
  obtain ⟨sorted, hperm, heq⟩ := exists_sortFields_map id h
  rw [List.map_id, List.map_id] at heq
  exact heq ▸ hperm

def without (name : String) : Json → Json
  | object fields => object (fields.filter fun field ↦ field.1 ≠ name)
  | other => other

theorem filter_insertField {name : String} {value : Json} {fields : List (String × Json)}
    (h : ∀ field ∈ fields, field.1 ≠ name) :
    (insertField name value fields).filter (fun field ↦ field.1 ≠ name) = fields := by
  induction fields with
  | nil => simp [insertField]
  | cons head rest ih =>
    obtain ⟨hhead, hrest⟩ := List.forall_mem_cons.mp h
    have hkept : (head :: rest).filter (fun field ↦ field.1 ≠ name) = head :: rest :=
      List.filter_eq_self.mpr fun field hfield ↦ decide_eq_true (h field hfield)
    rw [insertField]
    split_ifs with hlt heq
    · rw [List.filter_cons_of_neg (by simp), hkept]
    · exact absurd heq.symm hhead
    · rw [List.filter_cons_of_pos (by simpa using hhead), ih hrest]

theorem fieldLeaves_eq_flatMap (fields : List (String × Json)) :
    fieldLeaves fields = fields.flatMap fun field ↦ (leaves field.2).map (under field.1) := by
  induction fields with
  | nil => simp [fieldLeaves]
  | cons field rest ih => simp [fieldLeaves, ih]

theorem itemLeaves_eq_flatMap (index : Nat) (items : List Json) :
    itemLeaves index items = (items.zipIdx index).flatMap fun item ↦
      (leaves item.1).map (under (toString item.2)) := by
  induction items generalizing index with
  | nil => simp [itemLeaves]
  | cons item rest ih => simp [itemLeaves, ih]

theorem leaves_ofSingle (x : Single) : leaves (ofSingle x) = [([], ofSingle x)] := by
  unfold ofSingle
  split_ifs <;> simp [leaves]

theorem leaves_ofOption (slot : Option Single) :
    leaves (ofOption slot) = [([], ofOption slot)] := by
  cases slot with
  | none => simp [ofOption, leaves]
  | some x => exact leaves_ofSingle x

def isNull : Json → Bool
  | null => true
  | _ => false

theorem isNull_ofSingle {x : Single} (h : x.isFinite) : (ofSingle x).isNull = false := by
  rw [ofSingle, if_pos h]
  rfl

end BatteryTelemetry.Json
