import BatteryTelemetry.Decoder.Summary
import BatteryTelemetry.Proofs.Bus.Reading
import BatteryTelemetry.Proofs.Decoder.Reachable
import BatteryTelemetry.Proofs.Store.Extreme

/-!
# Extremes of the pack

A metric of the pack is written anew with every cell it depends on, so it always holds the extreme
of its row (`Follows`). This needs nothing of the order of the frames: a second half without a kept
byte writes neither, and a rebuild changes nothing that is stored. As every cell is a converted
raw number, the extreme is also the conversion of the extreme raw number.
-/

namespace BatteryTelemetry

inductive PackExtreme where
  | leastVoltage
  | greatestVoltage
  | coldest
  | warmest

namespace PackExtreme

def metric : PackExtreme → Metric
  | leastVoltage => .packLeastVoltage
  | greatestVoltage => .packGreatestVoltage
  | coldest => .packColdest
  | warmest => .packWarmest

def cells : PackExtreme → CellMetric
  | leastVoltage => .leastVoltage
  | greatestVoltage => .greatestVoltage
  | coldest => .coldest
  | warmest => .warmest

def pick : PackExtreme → Single → Single → Single
  | leastVoltage | coldest => Single.min
  | greatestVoltage | warmest => Single.max

def before : PackExtreme → Single → Single → Prop
  | leastVoltage | coldest => (· ≤ ·)
  | greatestVoltage | warmest => (· ≥ ·)

def ofSummary : PackExtreme → Extremes → Option Single
  | leastVoltage => Extremes.leastVoltage
  | greatestVoltage => Extremes.greatestVoltage
  | coldest => Extremes.coldest
  | warmest => Extremes.warmest

/-- The raw numbers of the row. -/
def Raw : PackExtreme → Type
  | leastVoltage | greatestVoltage => UInt16
  | coldest | warmest => UInt8

def convert : (extreme : PackExtreme) → extreme.Raw → Single
  | leastVoltage | greatestVoltage => Reading.cellVolts
  | coldest | warmest => Reading.halfDegrees

/-- The order of raw numbers in which the extreme comes first. -/
def rawBefore : (extreme : PackExtreme) → extreme.Raw → extreme.Raw → Prop
  | leastVoltage => fun a b : UInt16 ↦ a ≤ b
  | greatestVoltage => fun a b : UInt16 ↦ b ≤ a
  | coldest => fun a b : UInt8 ↦ a ≤ b
  | warmest => fun a b : UInt8 ↦ b ≤ a

instance (extreme : PackExtreme) : Inhabited extreme.Raw := by
  cases extreme
  · exact inferInstanceAs (Inhabited UInt16)
  · exact inferInstanceAs (Inhabited UInt16)
  · exact inferInstanceAs (Inhabited UInt8)
  · exact inferInstanceAs (Inhabited UInt8)

/-- Each extreme is picked by the order in which it comes first. -/
theorem selects (extreme : PackExtreme) : Selects extreme.pick extreme.before := by
  cases extreme
  · exact selects_min
  · exact selects_max
  · exact selects_min
  · exact selects_max

/-- A conversion that keeps the order lets the extremes be compared as raw numbers. -/
theorem converts (extreme : PackExtreme) :
    Converts extreme.convert extreme.before extreme.rawBefore := by
  cases extreme
  · exact Reading.converts_cellVolts
  · exact Reading.converts_cellVolts.flip
  · exact Reading.converts_halfDegrees
  · exact Reading.converts_halfDegrees.flip

end PackExtreme

/-- A metric shows the extreme of its row, and nothing if nothing in the row is known. -/
def Store.ShowsExtreme (store : Store) (extreme : PackExtreme) : Prop :=
  store.get extreme.metric = ((store.row extreme.cells).extreme extreme.pick).map .number

/-- A metric holds the extreme of a row of converted raw numbers. -/
structure Store.Follows (store : Store) (extreme : PackExtreme) : Prop where
  value : store.get extreme.metric =
    ((store.row extreme.cells).extreme extreme.pick).map .number
  converted (index : Nat) (x : Single) :
    (store.row extreme.cells).get index = some x → ∃ raw, extreme.convert raw = x

theorem Store.follows_empty (extreme : PackExtreme) : Store.empty.Follows extreme where
  value := by simp [CellRow.extreme, CellRow.known, CellRow.empty]
  converted index x h := by simp at h

namespace Decoder

variable {decoder : Decoder}

/-- What a message says of an extreme is the extreme of the row that it writes. -/
theorem lastSaid?_extreme (extreme : PackExtreme) (message : Message) :
    lastSaid? (Effect.valueOf? extreme.metric) (decoder.messageEffects message) =
      (decoder.cell? extreme.cells message).bind fun (block, x) ↦
        ((decoder.rowWith extreme.cells block x).extreme extreme.pick).map .number := by
  cases message with
  | firstHalf block leastCell high =>
    cases extreme <;>
      simp [messageEffects, firstHalfEffects, cellEffect, cell?, PackExtreme.metric,
        PackExtreme.cells, PackExtreme.pick]
  | secondHalf block low coldest warmest board =>
    cases hbyte : decoder.highByte? block <;> cases board <;> cases extreme <;>
      simp [messageEffects, greatestEffects, temperatureEffects, hbyte, cellEffect, cell?,
        lastSaid?_append, PackExtreme.metric, PackExtreme.cells, PackExtreme.pick]
  | _ =>
    refine (lastSaid?_valueOf_of_notMem ?_).trans rfl
    cases extreme <;> simp [Message.metrics, PackExtreme.metric]

theorem exists_convert_of_cell {extreme : PackExtreme} {message : Message} {block : BlockIndex}
    {x : Single} (h : decoder.cell? extreme.cells message = some (block, x)) :
    ∃ raw, extreme.convert raw = x := by
  cases message with
  | firstHalf b leastCell high =>
    cases extreme <;> simp [cell?, PackExtreme.cells] at h
    exact ⟨leastCell, h.2⟩
  | secondHalf b low coldest warmest board =>
    cases extreme with
    | leastVoltage => simp [cell?, PackExtreme.cells] at h
    | greatestVoltage =>
      simp only [cell?, PackExtreme.cells, Option.map_eq_some_iff, Prod.mk.injEq] at h
      obtain ⟨high, -, -, hx⟩ := h
      exact ⟨wordOfBytes high low, hx⟩
    | coldest =>
      simp [cell?, PackExtreme.cells] at h
      exact ⟨coldest, h.2⟩
    | warmest =>
      simp [cell?, PackExtreme.cells] at h
      exact ⟨warmest, h.2⟩
  | _ => simp [cell?] at h

/-- A message that writes into the row of an extreme publishes the extreme of the new row. -/
theorem get_receive_extreme (decoder : Decoder) (message : Message) (extreme : PackExtreme) :
    (decoder.receive message).store.get extreme.metric =
      if (decoder.cell? extreme.cells message).isSome then
        (((decoder.receive message).store.row extreme.cells).extreme extreme.pick).map .number
      else decoder.store.get extreme.metric := by
  rw [get_receive, lastSaid?_extreme, row_receive]
  cases hcell : decoder.cell? extreme.cells message with
  | none => simp
  | some written =>
    obtain ⟨block, x⟩ := written
    have hsome : ((decoder.rowWith extreme.cells block x).extreme extreme.pick).isSome :=
      CellRow.isSome_extreme_iff.mpr ⟨block, by simp [rowWith]⟩
    obtain ⟨y, hy⟩ := Option.isSome_iff_exists.mp hsome
    simp [hy]

/-- A message that writes into the row has the extreme published anew. -/
theorem showsExtreme_receive_of_isSome {extreme : PackExtreme} {message : Message}
    (h : (decoder.cell? extreme.cells message).isSome) :
    (decoder.receive message).store.ShowsExtreme extreme := by
  rw [Store.ShowsExtreme, get_receive_extreme, if_pos h]

/-- What shows the extreme of its row goes on doing so, whatever the message. -/
theorem showsExtreme_receive {extreme : PackExtreme} (h : decoder.store.ShowsExtreme extreme)
    (message : Message) : (decoder.receive message).store.ShowsExtreme extreme := by
  cases hcell : decoder.cell? extreme.cells message with
  | none =>
    rw [Store.ShowsExtreme, get_receive_extreme, row_receive, hcell, Option.isSome_none,
      if_neg Bool.false_ne_true]
    exact h
  | some written =>
    apply showsExtreme_receive_of_isSome
    rw [hcell]
    rfl

/-- Frames that are not accepted change neither the row nor its extreme. -/
theorem showsExtreme_dispatch {extreme : PackExtreme} (h : decoder.store.ShowsExtreme extreme)
    (frame : Frame) : (decoder.dispatch frame).store.ShowsExtreme extreme := by
  cases hframe : Message.ofFrame frame with
  | error rejection => rwa [dispatch_of_error decoder hframe]
  | ok message =>
    rw [dispatch_of_ok decoder hframe]
    exact showsExtreme_receive h message

/-- A value of a cell always comes from a raw number. -/
theorem follows_receive {extreme : PackExtreme} (h : decoder.store.Follows extreme)
    (message : Message) : (decoder.receive message).store.Follows extreme where
  value := showsExtreme_receive h.value message
  converted index x hx := by
    rw [row_receive] at hx
    cases hcell : decoder.cell? extreme.cells message with
    | none =>
      rw [hcell] at hx
      exact h.converted index x hx
    | some written =>
      obtain ⟨block, y⟩ := written
      simp only [hcell, rowWith, CellRow.get_set] at hx
      split_ifs at hx
      · obtain rfl := Option.some.inj hx
        exact exists_convert_of_cell hcell
      · exact h.converted index x hx

/-- What each message keeps holds in every reachable state. -/
theorem Reachable.follows (h : Reachable decoder) (extreme : PackExtreme) :
    decoder.store.Follows extreme :=
  h.store_invariant (p := fun store ↦ store.Follows extreme) (Store.follows_empty extreme)
    fun _ message hfollows ↦ follows_receive hfollows message

end Decoder

/-- Raw numbers that the known cells of a row may have been converted from. -/
def CellRow.Reads (row : CellRow) (extreme : PackExtreme) (raw : Nat → extreme.Raw) : Prop :=
  ∀ index x, row.get index = some x → extreme.convert (raw index) = x

/-- An extreme is written if a cell of its row is known, and then it is the first known cell and
the conversion of the first raw number. -/
structure Store.HoldsExtreme (store : Store) (extreme : PackExtreme) : Prop where
  isSome_iff : (store.get extreme.metric).isSome ↔
    ∃ index, ((store.row extreme.cells).get index).isSome
  exists_number (value : Value) : store.get extreme.metric = some value →
    ∃ x, value = .number x ∧ (∃ index, (store.row extreme.cells).get index = some x) ∧
      ∀ index y, (store.row extreme.cells).get index = some y → extreme.before x y
  summary : (extreme.ofSummary store.pack).map .number = store.get extreme.metric
  exists_raw : ∃ raw, (store.row extreme.cells).Reads extreme raw
  of_raw (raw : Nat → extreme.Raw) : (store.row extreme.cells).Reads extreme raw →
    ∀ x, store.get extreme.metric = some (.number x) →
      ∃ index, ((store.row extreme.cells).get index).isSome ∧
        extreme.convert (raw index) = x ∧
        ∀ other, ((store.row extreme.cells).get other).isSome →
          extreme.rawBefore (raw index) (raw other)

namespace CellRow

variable {row : CellRow} {extreme : PackExtreme}

/-- Among the raw numbers of the known cells one comes before all others. -/
theorem exists_first_raw (raw : Nat → extreme.Raw) (h : ∃ index, (row.get index).isSome) :
    ∃ index, (row.get index).isSome ∧
      ∀ other, (row.get other).isSome → extreme.rawBefore (raw index) (raw other) := by
  have hbound : ∀ index, (row.get index).isSome → index < row.slots.length := by
    intro index hindex
    by_contra hle
    simp [CellRow.get, List.getElem?_eq_none (Nat.not_lt.mp hle)] at hindex
  have hmem : ∀ index, index ∈ (List.range row.slots.length).filter (row.get · |>.isSome) ↔
      (row.get index).isSome := by
    intro index
    simpa using hbound index
  obtain ⟨index, hindex⟩ := h
  obtain ⟨first, hfirst, hbefore⟩ := extreme.converts.exists_first raw
    (List.ne_nil_of_mem ((hmem index).mpr hindex))
  exact ⟨first, (hmem first).mp hfirst, fun other hother ↦ hbefore other ((hmem other).mpr hother)⟩

/-- The conversion of the first raw number is the first known cell. -/
theorem convert_first_raw {raw : Nat → extreme.Raw} (hraw : row.Reads extreme raw) {x : Single}
    (hx : row.extreme extreme.pick = some x) {index : Nat} (hindex : (row.get index).isSome)
    (hfirst : ∀ other, (row.get other).isSome → extreme.rawBefore (raw index) (raw other)) :
    extreme.convert (raw index) = x := by
  obtain ⟨holder, hholder⟩ := mem_known_iff.mp (mem_known_of_extreme extreme.selects hx)
  obtain ⟨y, hy⟩ := Option.isSome_iff_exists.mp hindex
  have hxraw := hraw holder x hholder
  have hyraw := hraw index y hy
  have hle := before_of_extreme extreme.selects hx (mem_known_iff.mpr ⟨index, hy⟩)
    (hyraw ▸ extreme.converts.ne_nan _)
  have hge := extreme.converts.mono (hfirst holder (by simp [hholder]))
  rw [← hxraw, ← hyraw] at hle
  rw [extreme.converts.antisymm hge hle, hxraw]

end CellRow

/-- The extreme of the values is the conversion of the extreme raw number. -/
theorem Store.holdsExtreme_of_follows {store : Store} {extreme : PackExtreme}
    (h : store.Follows extreme) : store.HoldsExtreme extreme where
  isSome_iff := by rw [h.value, Option.isSome_map, CellRow.isSome_extreme_iff]
  exists_number value hvalue := by
    rw [h.value] at hvalue
    obtain ⟨x, hx, rfl⟩ := Option.map_eq_some_iff.mp hvalue
    refine ⟨x, rfl, CellRow.mem_known_iff.mp (CellRow.mem_known_of_extreme extreme.selects hx), ?_⟩
    intro index y hy
    obtain ⟨raw, hraw⟩ := h.converted index y hy
    exact CellRow.before_of_extreme extreme.selects hx (CellRow.mem_known_iff.mpr ⟨index, hy⟩)
      (hraw ▸ extreme.converts.ne_nan raw)
  summary := by
    have hsummary : extreme.ofSummary store.pack = store.number? extreme.metric := by
      cases extreme <;> rfl
    rw [hsummary, Store.number?, h.value]
    cases (store.row extreme.cells).extreme extreme.pick <;> rfl
  exists_raw := by
    have hslot : ∀ index, ∃ raw, ∀ x, (store.row extreme.cells).get index = some x →
        extreme.convert raw = x := by
      intro index
      cases hcell : (store.row extreme.cells).get index with
      | none => exact ⟨default, by simp⟩
      | some x =>
        obtain ⟨raw, hraw⟩ := h.converted index x hcell
        exact ⟨raw, by simpa using hraw⟩
    choose raw hraw using hslot
    exact ⟨raw, hraw⟩
  of_raw raw hraw x hx := by
    rw [h.value, Option.map_eq_some_iff] at hx
    obtain ⟨y, hy, heq⟩ := hx
    obtain rfl := Value.number.inj heq
    obtain ⟨index, hindex, hfirst⟩ := CellRow.exists_first_raw raw
      (CellRow.isSome_extreme_iff.mp (by rw [hy]; rfl))
    exact ⟨index, hindex, CellRow.convert_first_raw hraw hy hindex hfirst, hfirst⟩

/-- In every reachable state each extreme of the pack is the one of the known cells. -/
theorem Decoder.Reachable.holdsExtreme {decoder : Decoder} (h : Reachable decoder)
    (extreme : PackExtreme) : decoder.store.HoldsExtreme extreme :=
  Store.holdsExtreme_of_follows (h.follows extreme)

/-- A block that no longer holds the extreme hands it on to another block. -/
theorem Decoder.holdsExtreme_after_improvement :
    let decoder := (Decoder.start .unset .empty).run [⟨0xb0e1, 4, [0x13, 0x88, 0x15]⟩,
      ⟨0xb0e3, 4, [0x14, 0x50, 0x15]⟩, ⟨0xb0e1, 4, [0x14, 0xb4, 0x15]⟩]
    decoder.store.get .packLeastVoltage = some (.number (Reading.cellVolts 0x1450)) ∧
      decoder.store.HoldsExtreme .leastVoltage := by
  intro decoder
  exact ⟨by decide, Reachable.holdsExtreme ((Reachable.start .unset).run _) _⟩

end BatteryTelemetry
