import BatteryTelemetry.Proofs.Block.History
import BatteryTelemetry.Proofs.Decoder.Commute

/-!
# Kept bytes

A kept byte goes into the greatest voltage of its block and from there into the greatest voltage of
the pack, and nowhere else. Two decoders that begin with different kept bytes, such as one that goes
on and one that is rebuilt, therefore agree on all other metrics at all times. On a block they agree
again as soon as both halves of it have arrived, and on the pack when this holds of every block
whose second half arrived (`convergesWith_of_store_eq`).
-/

namespace BatteryTelemetry

/-- Two stores agree on all that no kept byte goes into. -/
structure Store.SameButGreatest (s t : Store) : Prop where
  get (metric : Metric) : metric ≠ .packGreatestVoltage → s.get metric = t.get metric
  row (metric : CellMetric) : metric ≠ .greatestVoltage → s.row metric = t.row metric

/-- A first half of a block is followed by a second half of it, however much later. -/
def Frame.Completes (block : BlockIndex) (frames : List Frame) : Prop :=
  ∃ early first middle second late, frames = early ++ first :: (middle ++ second :: late) ∧
    first.IsFirstHalf block ∧ second.IsSecondHalf block

namespace Decoder

variable {d e : Decoder} {frame : Frame} {block : BlockIndex}

/-- A relation between decoders that every frame keeps holds after a run if it held before. -/
theorem run_rel {r : Decoder → Decoder → Prop}
    (hstep : ∀ d e frame, r d e → r (d.dispatch frame) (e.dispatch frame)) (h : r d e)
    (frames : List Frame) : r (d.run frames) (e.run frames) :=
  List.foldl_rel h fun frame _ d e ↦ hstep d e frame

/-- Two decoders agree on all that decides the metrics no kept byte goes into. -/
def SameButBytes (d e : Decoder) : Prop :=
  d.parameters = e.parameters ∧ d.store.SameButGreatest e.store

theorem SameButBytes.row_receive (h : SameButBytes d e) (message : Message) {metric : CellMetric}
    (hmetric : metric ≠ .greatestVoltage) :
    (d.receive message).store.row metric = (e.receive message).store.row metric := by
  have hcell : d.cell? metric message = e.cell? metric message :=
    cell?_congr fun hgreatest ↦ absurd hgreatest hmetric
  rw [Decoder.row_receive, Decoder.row_receive, hcell]
  simp only [rowWith, h.2.row metric hmetric]

theorem SameButBytes.get_receive (h : SameButBytes d e) (message : Message) {metric : Metric}
    (hmetric : metric ≠ .packGreatestVoltage) :
    (d.receive message).store.get metric = (e.receive message).store.get metric := by
  by_cases hextreme : ∃ extreme : PackExtreme, extreme.metric = metric
  · obtain ⟨extreme, rfl⟩ := hextreme
    have hcells : extreme.cells ≠ .greatestVoltage := by
      cases extreme with
      | greatestVoltage => exact absurd rfl hmetric
      | _ => simp [PackExtreme.cells]
    have hcell : d.cell? extreme.cells message = e.cell? extreme.cells message :=
      cell?_congr fun hgreatest ↦ absurd hgreatest hcells
    rw [get_receive_extreme, get_receive_extreme, hcell,
      h.row_receive message hcells, h.2.get _ hmetric]
  by_cases hblock : ∃ block, message.pid = .cellBlock block
  -- A message of a block writes extremes only.
  · have hmem : metric ∉ message.metrics := by
      intro hmem
      obtain ⟨block, hpid⟩ := hblock
      rcases Message.stream?_of_mem_metrics hmem with hnone | hsome
      · exact hextreme (Metric.exists_extreme_of_stream?_eq_none hnone)
      · rw [hpid] at hsome
        exact Metric.stream?_ne_block block hsome
    rw [get_receive_of_notMem hmem, get_receive_of_notMem hmem, h.2.get metric hmetric]
  · have hreads : ∀ metric ∈ message.reads, d.store.get metric = e.store.get metric := by
      intro metric hread
      apply h.2.get
      rintro rfl
      have hstream := Message.stream?_of_mem_reads hread
      simp [Metric.stream?] at hstream
    rw [Decoder.get_receive, Decoder.get_receive,
      messageEffects_congr h.1 hreads (not_exists.mp hblock), h.2.get metric hmetric]

/-- Frames go on to write the same, since a kept byte goes into the greatest voltages only. -/
theorem SameButBytes.dispatch (h : SameButBytes d e) (frame : Frame) :
    SameButBytes (d.dispatch frame) (e.dispatch frame) := by
  refine ⟨by rw [parameters_dispatch, parameters_dispatch, h.1], ?_⟩
  cases hframe : Message.ofFrame frame with
  | error rejection =>
    rw [dispatch_of_error d hframe, dispatch_of_error e hframe]
    exact h.2
  | ok message =>
    rw [dispatch_of_ok d hframe, dispatch_of_ok e hframe]
    exact ⟨fun _ ↦ h.get_receive message, fun _ ↦ h.row_receive message⟩

/-! ## The greatest voltage of a block -/

/-- Two decoders agree on the kept byte and the greatest voltage of a block. -/
structure SameBlock (block : BlockIndex) (d e : Decoder) : Prop where
  highByte : d.highByte? block = e.highByte? block
  greatest : (d.store.row .greatestVoltage).get block = (e.store.row .greatestVoltage).get block

/-- A block keeps the byte of its latest first half, or the one that it had. -/
theorem highByte_dispatch_congr (h : d.highByte? block = e.highByte? block) (frame : Frame) :
    (d.dispatch frame).highByte? block = (e.dispatch frame).highByte? block := by
  rw [highByte_dispatch, highByte_dispatch, h]

theorem SameBlock.dispatch (h : SameBlock block d e) (frame : Frame) :
    SameBlock block (d.dispatch frame) (e.dispatch frame) where
  highByte := highByte_dispatch_congr h.highByte frame
  greatest := by rw [cell_dispatch, cell_dispatch, h.highByte, h.greatest]

/-- Two decoders that agree on a block agree on it ever after. -/
theorem SameBlock.run (h : SameBlock block d e) (frames : List Frame) :
    SameBlock block (d.run frames) (e.run frames) :=
  run_rel (r := SameBlock block) (fun _ _ frame h ↦ h.dispatch frame) h frames

theorem highByte_run_congr (h : d.highByte? block = e.highByte? block) (frames : List Frame) :
    (d.run frames).highByte? block = (e.run frames).highByte? block :=
  run_rel (r := fun d e ↦ d.highByte? block = e.highByte? block)
    (fun _ _ frame h ↦ highByte_dispatch_congr h frame) h frames

theorem highByte_dispatch_of_isFirstHalf (decoder : Decoder) (h : frame.IsFirstHalf block) :
    (decoder.dispatch frame).highByte? block = some (frame.byte 2) := by
  rw [highByte_dispatch, if_pos h, Option.some_or]

/-- A byte is kept for a block as long as it lives. -/
theorem isSome_highByte_run (decoder : Decoder) (h : (decoder.highByte? block).isSome)
    (frames : List Frame) : ((decoder.run frames).highByte? block).isSome := by
  induction frames generalizing decoder with
  | nil => exact h
  | cons frame rest ih =>
    apply ih
    rw [highByte_dispatch, Option.isSome_or, h, Bool.or_true]

/-- A second half makes two decoders agree on its block that keep the same byte for it. -/
theorem sameBlock_dispatch_of_isSecondHalf (hsecond : frame.IsSecondHalf block)
    (hsome : (d.highByte? block).isSome) (h : d.highByte? block = e.highByte? block) :
    SameBlock block (d.dispatch frame) (e.dispatch frame) where
  highByte := highByte_dispatch_congr h frame
  greatest := by
    obtain ⟨high, hhigh⟩ := Option.isSome_iff_exists.mp hsome
    rw [cell_dispatch, cell_dispatch, ← h, hhigh]
    simp [Frame.cell?, hsecond]

/-- After both halves of a block two decoders agree on it, whatever they began with. -/
theorem sameBlock_run_of_completes (d e : Decoder) {frames : List Frame}
    (h : Frame.Completes block frames) : SameBlock block (d.run frames) (e.run frames) := by
  obtain ⟨early, first, middle, second, late, rfl, hfirst, hsecond⟩ := h
  have hkept := highByte_dispatch_of_isFirstHalf (d.run early) hfirst
  have hkept' := highByte_dispatch_of_isFirstHalf (e.run early) hfirst
  simp only [run_append, run_cons]
  apply SameBlock.run
  apply sameBlock_dispatch_of_isSecondHalf hsecond
  · apply isSome_highByte_run
    rw [hkept]
    rfl
  · apply highByte_run_congr
    rw [hkept, hkept']

/-! ## Every place of the row -/

/-- Places of a row that belong to no block are never written. -/
theorem cell_dispatch_of_ne (decoder : Decoder) (frame : Frame) (metric : CellMetric) {index : Nat}
    (h : ∀ block : BlockIndex, index ≠ block) :
    ((decoder.dispatch frame).store.row metric).get index =
      (decoder.store.row metric).get index := by
  cases hframe : Message.ofFrame frame with
  | error rejection => rw [dispatch_of_error decoder hframe]
  | ok message =>
    rw [dispatch_of_ok decoder hframe, row_receive]
    split
    · rename_i block x _
      rw [rowWith, CellRow.get_set, if_neg (h block)]
    · rfl

/-- Without a second half the greatest voltage in a place stays. -/
theorem greatest_run_of_not_isSecondHalf (decoder : Decoder) {index : Nat} {frames : List Frame}
    (h : ∀ frame ∈ frames, ∀ block : BlockIndex, index = block → ¬frame.IsSecondHalf block) :
    ((decoder.run frames).store.row .greatestVoltage).get index =
      (decoder.store.row .greatestVoltage).get index := by
  induction frames generalizing decoder with
  | nil => rfl
  | cons frame rest ih =>
    rw [run_cons, ih _ fun other hother ↦ h other (List.mem_cons_of_mem _ hother)]
    by_cases hindex : ∃ block : BlockIndex, index = block
    · obtain ⟨block, rfl⟩ := hindex
      rw [cell_dispatch, Frame.cell?, if_neg (h frame List.mem_cons_self block rfl),
        Option.none_or]
    · exact cell_dispatch_of_ne decoder frame _ (not_exists.mp hindex)

/-- Two decoders on one store agree on the greatest voltage in a place if they keep the same byte
for it, and also if every second half that writes there has a first half to go with. -/
theorem greatest_run_congr (hstore : d.store = e.store) {index : Nat} {frames : List Frame}
    (h : ∀ block : BlockIndex, index = block → d.highByte? block = e.highByte? block ∨
      ∀ frame ∈ frames, frame.IsSecondHalf block → Frame.Completes block frames) :
    ((d.run frames).store.row .greatestVoltage).get index =
      ((e.run frames).store.row .greatestVoltage).get index := by
  by_cases hsecond : ∃ frame ∈ frames, ∃ block : BlockIndex, index = block ∧
      frame.IsSecondHalf block
  · obtain ⟨frame, hframe, block, rfl, hsecond⟩ := hsecond
    rcases h block rfl with hbyte | hcompletes
    · exact (SameBlock.run ⟨hbyte, by rw [hstore]⟩ frames).greatest
    · exact (sameBlock_run_of_completes d e (hcompletes frame hframe hsecond)).greatest
  · have hnone : ∀ frame ∈ frames, ∀ block : BlockIndex, index = block →
        ¬frame.IsSecondHalf block := by
      intro frame hframe block hindex hhalf
      exact hsecond ⟨frame, hframe, block, hindex, hhalf⟩
    rw [greatest_run_of_not_isSecondHalf d hnone, greatest_run_of_not_isSecondHalf e hnone, hstore]

/-! ## The greatest voltage of the pack -/

/-- Without a second half no greatest voltage is written. -/
theorem packGreatest_run_of_not_isSecondHalf (decoder : Decoder) {frames : List Frame}
    (h : ∀ frame ∈ frames, ∀ block, ¬frame.IsSecondHalf block) :
    (decoder.run frames).store.get .packGreatestVoltage =
      decoder.store.get .packGreatestVoltage := by
  induction frames generalizing decoder with
  | nil => rfl
  | cons frame rest ih =>
    rw [run_cons, ih _ fun other hother ↦ h other (List.mem_cons_of_mem _ hother)]
    cases hframe : Message.ofFrame frame with
    | error rejection => rw [dispatch_of_error decoder hframe]
    | ok message =>
      rw [dispatch_of_ok decoder hframe]
      apply get_receive_of_notMem
      cases message with
      | secondHalf block =>
        have hsecond := (Message.ofFrame_eq_secondHalf_iff.mp hframe).1
        exact absurd hsecond (h frame List.mem_cons_self block)
      | _ => simp [Message.metrics]

theorem showsExtreme_run {decoder : Decoder} {extreme : PackExtreme}
    (h : decoder.store.ShowsExtreme extreme) (frames : List Frame) :
    (decoder.run frames).store.ShowsExtreme extreme := by
  induction frames generalizing decoder with
  | nil => exact h
  | cons frame rest ih => exact ih (showsExtreme_dispatch h frame)

/-- After both halves of a block the pack shows the greatest voltage of the known blocks. -/
theorem showsExtreme_run_of_completes (decoder : Decoder) {frames : List Frame}
    (h : Frame.Completes block frames) :
    (decoder.run frames).store.ShowsExtreme .greatestVoltage := by
  obtain ⟨early, first, middle, second, late, rfl, hfirst, hsecond⟩ := h
  simp only [run_append, run_cons]
  apply showsExtreme_run
  rw [dispatch_of_isSecondHalf _ hsecond]
  apply showsExtreme_receive_of_isSome
  rw [PackExtreme.cells, cell?, Option.isSome_map]
  apply isSome_highByte_run
  rw [highByte_dispatch_of_isFirstHalf _ hfirst]
  rfl

/-! ## Two decoders on one store -/

/-- What two decoders have in common along a run. The greatest voltages in a place are the same
from the beginning if they keep the same byte for it; if both halves of every block with a second
half arrive, the stores are the same in the end. -/
structure ConvergesWith (d e : Decoder) (frames : List Frame) : Prop where
  sameButGreatest (early : List Frame) : early <+: frames →
    (d.run early).store.SameButGreatest (e.run early).store
  greatest (early : List Frame) : early <+: frames → ∀ index : Nat,
    (∀ block : BlockIndex, index = block → d.highByte? block = e.highByte? block) →
      ((d.run early).store.row .greatestVoltage).get index =
        ((e.run early).store.row .greatestVoltage).get index
  store_eq : (∀ block, ∀ frame ∈ frames, frame.IsSecondHalf block →
    Frame.Completes block frames) → (d.run frames).store = (e.run frames).store

/-- Kept bytes do not matter to anything but the greatest voltages. -/
theorem sameButGreatest_run (hparameters : d.parameters = e.parameters)
    (hstore : d.store = e.store) (frames : List Frame) :
    (d.run frames).store.SameButGreatest (e.run frames).store := by
  have hbefore : SameButBytes d e :=
    ⟨hparameters, fun _ _ ↦ by rw [hstore], fun _ _ ↦ by rw [hstore]⟩
  exact (run_rel (r := SameButBytes) (fun _ _ frame h ↦ h.dispatch frame) hbefore frames).2

/-- If every second half has a first one before it, bytes that were kept earlier do not matter at
all. -/
theorem store_run_eq_of_completes (hparameters : d.parameters = e.parameters)
    (hstore : d.store = e.store) {frames : List Frame}
    (h : ∀ block, ∀ frame ∈ frames, frame.IsSecondHalf block → Frame.Completes block frames) :
    (d.run frames).store = (e.run frames).store := by
  have hsame := sameButGreatest_run hparameters hstore frames
  have hrow : (d.run frames).store.row .greatestVoltage =
      (e.run frames).store.row .greatestVoltage := by
    apply CellRow.ext_get
    intro index
    exact greatest_run_congr hstore fun block _ ↦ .inr (h block)
  have hpack : (d.run frames).store.get .packGreatestVoltage =
      (e.run frames).store.get .packGreatestVoltage := by
    by_cases hsecond : ∃ frame ∈ frames, ∃ block, frame.IsSecondHalf block
    · obtain ⟨frame, hframe, block, hsecond⟩ := hsecond
      have hcompletes := h block frame hframe hsecond
      calc
        (d.run frames).store.get .packGreatestVoltage =
            (((d.run frames).store.row .greatestVoltage).extreme Single.max).map .number :=
          showsExtreme_run_of_completes d hcompletes
        _ = (((e.run frames).store.row .greatestVoltage).extreme Single.max).map .number := by
          rw [hrow]
        _ = _ := (showsExtreme_run_of_completes e hcompletes).symm
    · have hnone : ∀ frame ∈ frames, ∀ block, ¬frame.IsSecondHalf block := by
        intro frame hframe block hhalf
        exact hsecond ⟨frame, hframe, block, hhalf⟩
      rw [packGreatest_run_of_not_isSecondHalf d hnone,
        packGreatest_run_of_not_isSecondHalf e hnone, hstore]
  apply Store.ext_get
  · intro metric
    by_cases hmetric : metric = .packGreatestVoltage
    · rw [hmetric, hpack]
    · exact hsame.get metric hmetric
  · intro metric
    by_cases hmetric : metric = .greatestVoltage
    · rw [hmetric, hrow]
    · exact hsame.row metric hmetric

/-- Whatever the store, the parameters, the frames and the bytes kept at the beginning, decoders
that differ in these bytes agree off the greatest voltages and come together again. -/
theorem convergesWith_of_store_eq (hparameters : d.parameters = e.parameters)
    (hstore : d.store = e.store) (frames : List Frame) : d.ConvergesWith e frames where
  sameButGreatest early _ := sameButGreatest_run hparameters hstore early
  greatest _ _ _ h := greatest_run_congr hstore fun block hindex ↦ .inl (h block hindex)
  store_eq := store_run_eq_of_completes hparameters hstore

/-- A decoder that is rebuilt in the middle of a block skips a greatest voltage, which the next
two halves make up for. -/
theorem convergesWith_rebuild_within_block :
    let decoder := (start .unset .empty).dispatch ⟨0xb0e1, 4, [0x13, 0x88, 0x15]⟩
    let rebuilt := decoder.rebuild .unset
    let second : Frame := ⟨0xb0e1, 0, [0x10, 0x78, 0x7a]⟩
    let frames : List Frame := [second, ⟨0xb0e1, 4, [0x13, 0x88, 0x15]⟩, second]
    (decoder.run [second]).store ≠ (rebuilt.run [second]).store ∧
      (decoder.run [second]).store.SameButGreatest (rebuilt.run [second]).store ∧
      (decoder.run frames).store = (rebuilt.run frames).store := by
  intro decoder rebuilt second frames
  have hconverges := convergesWith_of_store_eq (d := decoder) (e := rebuilt) rfl rfl frames
  refine ⟨by decide, hconverges.sameButGreatest [second] (by simp [frames]), ?_⟩
  apply hconverges.store_eq
  intro block frame hframe hsecond
  have hcode : ∀ frame ∈ frames, frame.code = (Pid.cellBlock ⟨0, by decide⟩).code := by decide
  have hblock : Pid.cellBlock ⟨0, by decide⟩ = Pid.cellBlock block :=
    Pid.code_injective ((hcode frame hframe).symm.trans hsecond.1.1)
  obtain rfl := Pid.cellBlock.inj hblock
  exact ⟨[second], ⟨0xb0e1, 4, [0x13, 0x88, 0x15]⟩, [], second, [], rfl, by decide, by decide⟩

end Decoder

end BatteryTelemetry
