import BatteryTelemetry.Proofs.Number.Order
import BatteryTelemetry.Store.CellRow

/-!
# Extremes of rows

The lesser and the greater of two numbers are choices between them in an order
(`selects_min`, `selects_max`). Combined over a row, such a choice takes a known number
(`mem_known_of_extreme`) that comes before all the others (`before_of_extreme`). A NaN takes part
in neither: it gives way to any number, and nothing comes before it.
-/

namespace BatteryTelemetry

/-- A choice between two numbers takes one of them, and the one that comes first in an order. -/
structure Selects (pick : Single → Single → Single) (before : Single → Single → Prop) : Prop where
  pick_eq (x y : Single) : pick x y = x ∨ pick x y = y
  before_left {x : Single} (y : Single) : x ≠ .nan → before (pick x y) x
  before_right (x : Single) {y : Single} : y ≠ .nan → before (pick x y) y
  ne_nan {x y : Single} : before x y → x ≠ .nan
  trans {x y z : Single} : before x y → before y z → before x z

theorem selects_min : Selects Single.min (· ≤ ·) where
  pick_eq x y := by
    unfold Single.min
    split_ifs <;> simp
  before_left {x} y hx := by
    unfold Single.min
    split_ifs with hy h
    · exact Single.le_refl_iff.mpr hx
    · exact Single.le_refl_iff.mpr hx
    · exact (Single.not_lt_iff hx hy).mp h
  before_right x {y} hy := by
    unfold Single.min
    rw [if_neg hy]
    split_ifs with h
    · exact ⟨h.1, h.2.1, h.2.2.le⟩
    · exact Single.le_refl_iff.mpr hy
  ne_nan h := h.1
  trans := Single.le_trans

theorem selects_max : Selects Single.max (· ≥ ·) where
  pick_eq x y := by
    unfold Single.max
    split_ifs <;> simp
  before_left {x} y hx := by
    unfold Single.max
    split_ifs with hy h
    · exact Single.le_refl_iff.mpr hx
    · exact Single.le_refl_iff.mpr hx
    · exact (Single.not_lt_iff hy hx).mp h
  before_right x {y} hy := by
    unfold Single.max
    rw [if_neg hy]
    split_ifs with h
    · exact ⟨h.1, h.2.1, h.2.2.le⟩
    · exact Single.le_refl_iff.mpr hy
  ne_nan h := h.2.1
  trans h k := Single.le_trans k h

/-- A NaN gives way to any number in a choice. -/
structure GivesWay (pick : Single → Single → Single) : Prop where
  left (x : Single) : pick .nan x = x
  right (x : Single) : pick x .nan = x

theorem givesWay_min : GivesWay Single.min := ⟨Single.nan_min, Single.min_nan⟩

theorem givesWay_max : GivesWay Single.max := ⟨Single.nan_max, Single.max_nan⟩

namespace Selects

variable {pick : Single → Single → Single} {before : Single → Single → Prop}

theorem foldl_mem (h : Selects pick before) (rest : List Single) (x : Single) :
    rest.foldl pick x ∈ x :: rest := by
  induction rest generalizing x with
  | nil => simp
  | cons y rest ih =>
    rw [List.foldl_cons]
    rcases List.mem_cons.mp (ih (pick x y)) with heq | hmem
    · rw [heq]
      rcases h.pick_eq x y with hx | hy <;> simp [*]
    · simp [hmem]

/-- The outcome comes before the first number and before all that are combined with it. -/
theorem before_foldl (h : Selects pick before) {rest : List Single} {x : Single} :
    ∀ y ∈ x :: rest, y ≠ .nan → before (rest.foldl pick x) y := by
  induction rest generalizing x with
  | nil =>
    intro y hy hnan
    obtain rfl := List.mem_singleton.mp hy
    rcases h.pick_eq y y with heq | heq <;> simpa [heq] using h.before_left y hnan
  | cons z rest ih =>
    intro y hy hnan
    have hhead : before (pick x z) y → before ((z :: rest).foldl pick x) y := fun hbefore ↦
      h.trans (ih _ List.mem_cons_self (h.ne_nan hbefore)) hbefore
    rcases List.mem_cons.mp hy with rfl | hy
    · exact hhead (h.before_left z hnan)
    · rcases List.mem_cons.mp hy with rfl | hy
      · exact hhead (h.before_right x hnan)
      · exact ih y (List.mem_cons_of_mem _ hy) hnan

end Selects

/-- Lists with the same answers in all places have the same answers in sequence. -/
theorem filterMap_eq_of_getElem? {α β : Type} {f : α → Option β} {s t : List α}
    (h : ∀ i : Nat, s[i]?.bind f = t[i]?.bind f) : s.filterMap f = t.filterMap f := by
  have hnil {l : List α} (hl : ∀ i : Nat, l[i]?.bind f = none) : l.filterMap f = [] := by
    rw [List.filterMap_eq_nil_iff]
    intro a ha
    obtain ⟨i, hi⟩ := List.mem_iff_getElem?.mp ha
    simpa [hi] using hl i
  induction s generalizing t with
  | nil => rw [List.filterMap_nil, hnil fun i ↦ (h i).symm.trans (by simp)]
  | cons a s ih =>
    cases t with
    | nil => rw [List.filterMap_nil, hnil fun i ↦ (h i).trans (by simp)]
    | cons b t =>
      have hhead : f a = f b := by simpa using h 0
      have htail : s.filterMap f = t.filterMap f := ih fun i ↦ by simpa using h (i + 1)
      rw [List.filterMap_cons, List.filterMap_cons, hhead, htail]

namespace CellRow

variable {row : CellRow} {pick : Single → Single → Single} {before : Single → Single → Prop}

theorem mem_known_iff {x : Single} : x ∈ row.known ↔ ∃ index, row.get index = some x := by
  rw [known, List.mem_filterMap]
  simp [get, List.mem_iff_getElem?, Option.join_eq_some_iff]

theorem extreme_eq_none_iff : row.extreme pick = none ↔ ∀ index, row.get index = none := by
  have hknown : row.extreme pick = none ↔ row.known = [] := by
    unfold extreme
    split <;> simp_all
  rw [hknown, List.eq_nil_iff_forall_not_mem]
  simp only [mem_known_iff, not_exists, Option.eq_none_iff_forall_not_mem, Option.mem_def]
  exact forall_comm

theorem isSome_extreme_iff :
    (row.extreme pick).isSome ↔ ∃ index, (row.get index).isSome := by
  rw [← Option.ne_none_iff_isSome, Ne, extreme_eq_none_iff]
  simp [Option.isSome_iff_ne_none]

theorem mem_known_of_extreme (h : Selects pick before) {x : Single}
    (hx : row.extreme pick = some x) : x ∈ row.known := by
  unfold extreme at hx
  split at hx
  · cases hx
  · rename_i first rest hknown
    obtain rfl := Option.some.inj hx
    rw [hknown]
    exact h.foldl_mem rest first

/-- The extreme comes before every known number but NaN. -/
theorem before_of_extreme (h : Selects pick before) {x : Single}
    (hx : row.extreme pick = some x) {y : Single} (hy : y ∈ row.known) (hnan : y ≠ .nan) :
    before x y := by
  unfold extreme at hx
  split at hx
  · cases hx
  · rename_i first rest hknown
    obtain rfl := Option.some.inj hx
    rw [hknown] at hy
    exact h.before_foldl y hy hnan

/-- The number in a place of a row, if it is known and not a NaN. -/
def number? (row : CellRow) (index : Nat) : Option Single := (row.get index).filter (· ≠ .nan)

theorem number?_eq_some_iff {index : Nat} {x : Single} :
    row.number? index = some x ↔ row.get index = some x ∧ x ≠ .nan := by
  simp [number?, Option.filter_eq_some_iff]

/-- The numbers of a row that are not NaN depend on the places that hold them. -/
theorem filter_known_eq {r s : CellRow} (h : ∀ index, r.number? index = s.number? index) :
    r.known.filter (· ≠ .nan) = s.known.filter (· ≠ .nan) := by
  have hjoin (slot? : Option (Option Single)) :
      slot?.join.filter (· ≠ .nan) = slot?.bind fun slot ↦ slot.filter (· ≠ .nan) := by
    cases slot? <;> rfl
  rw [known, known, List.filter_filterMap, List.filter_filterMap]
  apply filterMap_eq_of_getElem?
  intro index
  simpa only [number?, get, hjoin, id] using h index

/-- With a choice in which NaN gives way, the extreme is that of the numbers that are not NaN. -/
theorem extreme_eq_foldl_filter (h : GivesWay pick) (hrow : row.known ≠ []) :
    row.extreme pick = some ((row.known.filter (· ≠ .nan)).foldl pick .nan) := by
  have hstep : (fun x y ↦ if y ≠ .nan then pick x y else x) = pick := by
    funext x y
    split_ifs with hy
    · rfl
    · rw [not_not.mp hy, h.right]
  obtain ⟨first, rest, hknown⟩ := List.exists_cons_of_ne_nil hrow
  calc
    row.extreme pick = some (rest.foldl pick first) := by rw [extreme, hknown]
    _ = some ((first :: rest).foldl pick .nan) := by rw [List.foldl_cons, h.left]
    _ = some ((row.known.filter (· ≠ .nan)).foldl pick .nan) := by
      rw [hknown, List.foldl_filter]
      simp only [decide_eq_true_eq, hstep]

/-- Rows with the same numbers have the same extreme, whatever else they hold. -/
theorem extreme_eq_of_number? (hpick : GivesWay pick) {r s : CellRow}
    (h : ∀ index, r.number? index = s.number? index) {index : Nat} {x : Single}
    (hx : r.number? index = some x) : r.extreme pick = s.extreme pick := by
  have hr : x ∈ r.known := mem_known_iff.mpr ⟨index, (number?_eq_some_iff.mp hx).1⟩
  have hs : x ∈ s.known := mem_known_iff.mpr ⟨index, (number?_eq_some_iff.mp (h index ▸ hx)).1⟩
  rw [extreme_eq_foldl_filter hpick (List.ne_nil_of_mem hr),
    extreme_eq_foldl_filter hpick (List.ne_nil_of_mem hs), filter_known_eq h]

end CellRow

end BatteryTelemetry
