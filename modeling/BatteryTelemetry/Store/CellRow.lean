import BatteryTelemetry.Number.Single

/-!
# Rows of cell values

A row holds one number per cell block, as far as they are known. Its slots end with the last known
one, so a row is determined by its lookups (`CellRow.ext_get`) and writing a slot is a plain
update of them (`get_set`).
-/

namespace BatteryTelemetry

/-- One number per block; the blocks after the last slot are unknown. -/
structure CellRow where
  slots : List (Option Single)
  /-- The last slot is known. -/
  ends : slots.getLast? ≠ some none
deriving DecidableEq

namespace CellRow

def empty : CellRow := ⟨[], by simp⟩

instance : Inhabited CellRow := ⟨empty⟩

/-- Slots with one of them filled; slots that are passed over stay unknown. -/
def fill : List (Option Single) → Nat → Single → List (Option Single)
  | [], 0, x => [some x]
  | [], index + 1, x => none :: fill [] index x
  | _ :: rest, 0, x => some x :: rest
  | slot :: rest, index + 1, x => slot :: fill rest index x

theorem fill_ne_nil (slots : List (Option Single)) (index : Nat) (x : Single) :
    fill slots index x ≠ [] := by
  cases slots <;> cases index <;> simp [fill]

/-- A row never ends in a slot without a number. -/
theorem getLast?_fill {slots : List (Option Single)} (index : Nat) (x : Single)
    (h : slots.getLast? ≠ some none) : (fill slots index x).getLast? ≠ some none := by
  induction slots generalizing index with
  | nil =>
    induction index with
    | zero => simp [fill]
    | succ index ih =>
      rw [fill, List.getLast?_cons_of_ne_nil (fill_ne_nil [] index x)]
      exact ih
  | cons slot rest ih =>
    cases index with
    | zero =>
      cases rest with
      | nil => simp [fill]
      | cons next others =>
        rw [fill, List.getLast?_cons_of_ne_nil (by simp)]
        rwa [List.getLast?_cons_of_ne_nil (by simp)] at h
    | succ index =>
      rw [fill, List.getLast?_cons_of_ne_nil (fill_ne_nil rest index x)]
      apply ih
      cases rest with
      | nil => simp
      | cons next others => rwa [List.getLast?_cons_of_ne_nil (by simp)] at h

def set (row : CellRow) (index : Nat) (x : Single) : CellRow :=
  ⟨fill row.slots index x, getLast?_fill index x row.ends⟩

def get (row : CellRow) (index : Nat) : Option Single := row.slots[index]?.join

def known (row : CellRow) : List Single := row.slots.filterMap id

/-- The outcome of combining the known numbers from the first block on. -/
def extreme (pick : Single → Single → Single) (row : CellRow) : Option Single :=
  match row.known with
  | [] => none
  | x :: rest => some (rest.foldl pick x)

/-- Slots that are passed over answer like those behind the end. -/
theorem getElem?_fill (slots : List (Option Single)) (index : Nat) (x : Single) (i : Nat) :
    (fill slots index x)[i]?.join = if i = index then some x else slots[i]?.join := by
  induction index generalizing slots i with
  | zero => cases slots <;> cases i <;> simp [fill]
  | succ index ih =>
    cases slots with
    | nil =>
      cases i with
      | zero => simp [fill]
      | succ i => simpa [fill] using ih [] i
    | cons slot rest =>
      cases i with
      | zero => simp [fill]
      | succ i => simpa [fill] using ih rest i

theorem get_set (row : CellRow) (index : Nat) (x : Single) (i : Nat) :
    (row.set index x).get i = if i = index then some x else row.get i :=
  getElem?_fill row.slots index x i

@[simp]
theorem get_set_self (row : CellRow) (index : Nat) (x : Single) :
    (row.set index x).get index = some x := by
  simp [get_set]

@[simp]
theorem get_empty (index : Nat) : empty.get index = none := by
  simp [get, empty]

/-- Slots that end with a known one are determined by their lookups. -/
theorem slots_eq_of_join_eq {s t : List (Option Single)} (hs : s.getLast? ≠ some none)
    (ht : t.getLast? ≠ some none) (h : ∀ i : Nat, s[i]?.join = t[i]?.join) : s = t := by
  have isNil : ∀ {t : List (Option Single)}, t.getLast? ≠ some none →
      (∀ i : Nat, t[i]?.join = none) → t = [] := by
    intro t ht h
    cases hlast : t.getLast? with
    | none => simpa using hlast
    | some slot =>
      cases slot with
      | none => exact absurd hlast ht
      | some x =>
        rw [List.getLast?_eq_getElem?] at hlast
        have := h (t.length - 1)
        simp [hlast] at this
  induction s generalizing t with
  | nil => exact (isNil ht fun i ↦ by simpa using (h i).symm).symm
  | cons slot rest ih =>
    cases t with
    | nil => exact isNil hs fun i ↦ by simpa using h i
    | cons other others =>
      have hhead : slot = other := by simpa using h 0
      have htail : ∀ {a : Option Single} {l : List (Option Single)},
          (a :: l).getLast? ≠ some none → l.getLast? ≠ some none := by
        intro a l hl
        cases l with
        | nil => simp
        | cons b l => rwa [List.getLast?_cons_of_ne_nil (by simp)] at hl
      rw [hhead, ih (htail hs) (htail ht) fun i ↦ by simpa using h (i + 1)]

/-- Rows have no more slots than they need, so equal answers make equal rows. -/
theorem ext_get {r s : CellRow} (h : ∀ i, r.get i = s.get i) : r = s := by
  cases r with | mk rs hr
  cases s with | mk ss hs
  have := slots_eq_of_join_eq hr hs h
  subst this
  rfl

end CellRow

end BatteryTelemetry
