import BatteryTelemetry.Proofs.Decoder.Footprint

/-!
# Streams of frames

The parameters form streams: each cell block is one, so are the coolant temperature, the state of
health and the range estimate, and the parameters that read each other's metrics are one stream
together. Messages of different streams may be received in either order (`receive_comm`). Two
blocks write the same rows and the same extremes of the pack, but in different places of a row, and
an extreme depends on nothing but its row; all else of a message is neither written nor read by a
message of another stream. So the frames of each stream decide a run, however they interleave.
-/

namespace BatteryTelemetry

/-- Parameters that have nothing to do with those of other streams. -/
inductive Stream where
  | block (block : BlockIndex)
  | coolantTemperature
  | stateOfHealth
  | rangeEstimate
  /-- Voltages, current, state of charge and status. -/
  | electric
deriving DecidableEq

def Pid.stream : Pid → Stream
  | cellBlock block => .block block
  | coolantTemperature => .coolantTemperature
  | stateOfHealth => .stateOfHealth
  | rangeEstimate => .rangeEstimate
  | busVoltage | current | packVoltage | stateOfCharge | status => .electric

def Frame.stream? (frame : Frame) : Option Stream := (Pid.ofCode? frame.code).map Pid.stream

/-- The stream whose messages write and read a metric; an extreme of the pack has no single one. -/
def Metric.stream? : Metric → Option Stream
  | packLeastVoltage | packGreatestVoltage | packColdest | packWarmest => none
  | coolantTemperature => some .coolantTemperature
  | stateOfHealth => some .stateOfHealth
  | rangeEstimate => some .rangeEstimate
  | _ => some .electric

namespace Metric

variable {metric : Metric}

/-- Only the extremes of the pack are written by more than one stream. -/
theorem exists_extreme_of_stream?_eq_none (h : metric.stream? = none) :
    ∃ extreme : PackExtreme, extreme.metric = metric := by
  cases metric with
  | packLeastVoltage => exact ⟨.leastVoltage, rfl⟩
  | packGreatestVoltage => exact ⟨.greatestVoltage, rfl⟩
  | packColdest => exact ⟨.coldest, rfl⟩
  | packWarmest => exact ⟨.warmest, rfl⟩
  | _ => cases h

theorem stream?_ne_block (block : BlockIndex) : metric.stream? ≠ some (.block block) := by
  cases metric <;> simp [stream?]

end Metric

namespace Message

def reads : Message → List Metric
  | busVoltage _ => [.packVoltage]
  | current _ => [.busVoltage]
  | stateOfCharge _ => [.chargeInProgress]
  | status _ => [.chargeInProgress, .stateOfCharge, .current, .power, .busVoltage]
  | _ => []

variable {message : Message} {metric : Metric}

theorem stream?_of_mem_reads (h : metric ∈ message.reads) :
    metric.stream? = some message.pid.stream := by
  have hall : ∀ metric ∈ message.reads, metric.stream? = some message.pid.stream := by
    cases message <;> simp [reads, Metric.stream?, pid, Pid.stream]
  exact hall metric h

/-- A message writes within its own stream, extremes of the pack apart. -/
theorem stream?_of_mem_metrics (h : metric ∈ message.metrics) :
    metric.stream? = none ∨ metric.stream? = some message.pid.stream := by
  have hall : ∀ metric ∈ message.metrics,
      metric.stream? = none ∨ metric.stream? = some message.pid.stream := by
    cases message <;> simp [metrics, Metric.stream?, pid, Pid.stream]
  exact hall metric h

theorem stream?_of_ofFrame {frame : Frame} (h : ofFrame frame = .ok message) :
    frame.stream? = some message.pid.stream := by
  rw [Frame.stream?, Pid.ofCode_eq_some_iff.mpr (answers_of_ofFrame h).1.symm]
  rfl

end Message

namespace Decoder

variable {decoder d e : Decoder} {m n : Message}

/-- Two decoders are the same if nothing that can be asked of them differs. -/
theorem ext_views (hparameters : d.parameters = e.parameters)
    (hget : ∀ metric, d.store.get metric = e.store.get metric)
    (hrow : ∀ metric, d.store.row metric = e.store.row metric)
    (hbyte : ∀ block, d.highByte? block = e.highByte? block) : d = e := by
  cases d with | mk dstore dparameters dbytes
  cases e with | mk estore eparameters ebytes
  obtain rfl : dstore = estore := Store.ext_get hget hrow
  obtain rfl : dparameters = eparameters := hparameters
  obtain rfl : dbytes = ebytes := by
    apply Vector.ext
    intro index hindex
    exact hbyte ⟨index, hindex⟩
  rfl

theorem mem_reads_of_mem_metricsRead {metric : Metric} (h : metric ∈ d.metricsRead m) :
    metric ∈ m.reads := by
  cases m with
  | status status =>
    cases htype : status.chargeType <;> simp [metricsRead, htype, Message.reads] at h ⊢ <;> grind
  | _ => simp_all [metricsRead, Message.reads]

/-- What a message of no block does depends on the metrics that it reads. -/
theorem messageEffects_congr (hparameters : d.parameters = e.parameters)
    (hreads : ∀ metric ∈ m.reads, d.store.get metric = e.store.get metric)
    (hblock : ∀ block, m.pid ≠ .cellBlock block) :
    d.messageEffects m = e.messageEffects m := by
  apply messageEffects_eq_of_agreesFor
  constructor
  · intro _
    rw [hparameters]
  · intro metric hmetric
    exact hreads metric (mem_reads_of_mem_metricsRead hmetric)
  · intro block hcompletes
    exact absurd (Message.pid_of_completes hcompletes) (hblock block)
  · intro extreme block x hcell
    exact absurd (pid_of_cell hcell) (hblock block)

theorem highByte_receive_comm (h : m.pid ≠ n.pid) (block : BlockIndex) :
    ((decoder.receive m).receive n).highByte? block =
      ((decoder.receive n).receive m).highByte? block := by
  by_cases hm : m.pid = .cellBlock block
  · have hn : n.pid ≠ .cellBlock block := fun hn ↦ h (hm.trans hn.symm)
    rw [highByte_receive_of_pid_ne hn, highByte_receive, highByte_receive _ m,
      highByte_receive_of_pid_ne hn]
  · rw [highByte_receive_of_pid_ne hm, highByte_receive, highByte_receive _ n,
      highByte_receive_of_pid_ne hm]

/-- A message about something else does not change what a message writes into a row. -/
theorem cell?_receive (h : m.pid ≠ n.pid) (metric : CellMetric) :
    (decoder.receive m).cell? metric n = decoder.cell? metric n := by
  apply cell?_congr
  intro _ block hblock
  exact highByte_receive_of_pid_ne (Message.pid_of_completes hblock ▸ h)

theorem row_receive_comm (h : m.pid ≠ n.pid) (metric : CellMetric) :
    ((decoder.receive m).receive n).store.row metric =
      ((decoder.receive n).receive m).store.row metric := by
  simp only [row_receive, cell?_receive h, cell?_receive h.symm, rowWith]
  cases hm : decoder.cell? metric m with
  | none => simp
  | some first =>
    cases hn : decoder.cell? metric n with
    | none => simp
    | some second =>
      obtain ⟨p, x⟩ := first
      obtain ⟨q, y⟩ := second
      have hne : (p : Nat) ≠ q := by
        intro heq
        rw [pid_of_cell hm, pid_of_cell hn, Fin.ext heq] at h
        exact h rfl
      apply CellRow.ext_get
      intro index
      simp only [CellRow.get_set]
      split_ifs <;> simp_all

/-- An extreme is that of its row, in whatever order the row was filled. -/
theorem get_receive_extreme_comm (h : m.pid ≠ n.pid) (extreme : PackExtreme) :
    ((decoder.receive m).receive n).store.get extreme.metric =
      ((decoder.receive n).receive m).store.get extreme.metric := by
  have hrow : ((decoder.receive m).receive n).store.row extreme.cells =
      ((decoder.receive n).receive m).store.row extreme.cells := row_receive_comm h _
  simp only [get_receive_extreme, cell?_receive h, cell?_receive h.symm, hrow]
  cases hm : decoder.cell? extreme.cells m <;> cases hn : decoder.cell? extreme.cells n
  · rfl
  · simp [row_receive _ m, cell?_receive h.symm, hm]
  · rw [← hrow]
    simp [row_receive _ n, cell?_receive h, hn]
  · rfl

/-- A message leaves the metrics of other streams alone. -/
theorem get_receive_of_stream?_ne {metric : Metric} {stream : Stream}
    (hmetric : metric.stream? = some stream) (h : stream ≠ m.pid.stream) :
    (decoder.receive m).store.get metric = decoder.store.get metric := by
  apply get_receive_of_notMem
  intro hmem
  rcases Message.stream?_of_mem_metrics hmem with hnone | hsome
  · simp [hnone] at hmetric
  · rw [hmetric] at hsome
    exact h (Option.some.inj hsome)

/-- A message of no block has the same effects before and after a message of another stream. -/
theorem messageEffects_receive (h : m.pid.stream ≠ n.pid.stream)
    (hblock : ∀ block, n.pid ≠ .cellBlock block) :
    (decoder.receive m).messageEffects n = decoder.messageEffects n := by
  refine messageEffects_congr (parameters_applyAll decoder _) ?_ hblock
  intro metric hmetric
  exact get_receive_of_stream?_ne (Message.stream?_of_mem_reads hmetric) h.symm

theorem get_receive_comm_of_stream?_ne (h : m.pid.stream ≠ n.pid.stream) {metric : Metric}
    {stream : Stream} (hmetric : metric.stream? = some stream) (hm : stream ≠ m.pid.stream) :
    ((decoder.receive m).receive n).store.get metric =
      ((decoder.receive n).receive m).store.get metric := by
  have hlater : ((decoder.receive n).receive m).store.get metric =
      (decoder.receive n).store.get metric := get_receive_of_stream?_ne hmetric hm
  rw [hlater]
  by_cases hblock : ∃ block, n.pid = .cellBlock block
  -- A message of a block writes no metric that has a stream.
  · obtain ⟨block, hn⟩ := hblock
    have hne : stream ≠ n.pid.stream := by
      rintro rfl
      rw [hn] at hmetric
      exact Metric.stream?_ne_block block hmetric
    rw [get_receive_of_stream?_ne hmetric hne, get_receive_of_stream?_ne hmetric hne,
      get_receive_of_stream?_ne hmetric hm]
  · rw [get_receive, get_receive decoder n, get_receive_of_stream?_ne hmetric hm,
      messageEffects_receive h (not_exists.mp hblock)]

/-- A metric has at most one of two streams, or is an extreme. -/
theorem get_receive_comm (h : m.pid.stream ≠ n.pid.stream) (metric : Metric) :
    ((decoder.receive m).receive n).store.get metric =
      ((decoder.receive n).receive m).store.get metric := by
  cases hmetric : metric.stream? with
  | none =>
    obtain ⟨extreme, rfl⟩ := Metric.exists_extreme_of_stream?_eq_none hmetric
    exact get_receive_extreme_comm (fun hpid ↦ h (congrArg Pid.stream hpid)) extreme
  | some stream =>
    by_cases hm : stream = m.pid.stream
    · exact (get_receive_comm_of_stream?_ne h.symm hmetric (hm ▸ h)).symm
    · exact get_receive_comm_of_stream?_ne h hmetric hm

/-- Messages of different streams may be received in either order. -/
theorem receive_comm (h : m.pid.stream ≠ n.pid.stream) :
    (decoder.receive m).receive n = (decoder.receive n).receive m := by
  have hpid : m.pid ≠ n.pid := fun heq ↦ h (congrArg Pid.stream heq)
  refine ext_views ?_ (get_receive_comm h) (row_receive_comm hpid) (highByte_receive_comm hpid)
  simp only [receive, parameters_applyAll]

variable (decoder)

/-- A frame with an unknown code changes nothing. -/
theorem dispatch_of_stream?_eq_none {frame : Frame} (h : frame.stream? = none) :
    decoder.dispatch frame = decoder := by
  cases hframe : Message.ofFrame frame with
  | error rejection => exact dispatch_of_error decoder hframe
  | ok message =>
    rw [Message.stream?_of_ofFrame hframe] at h
    cases h

/-- Frames of different streams may be dispatched in either order. -/
theorem dispatch_comm {a b : Frame} (h : a.stream? ≠ b.stream?) :
    (decoder.dispatch a).dispatch b = (decoder.dispatch b).dispatch a := by
  cases ha : Message.ofFrame a with
  | error rejection => rw [dispatch_of_error _ ha, dispatch_of_error _ ha]
  | ok m =>
    cases hb : Message.ofFrame b with
    | error rejection => rw [dispatch_of_error _ hb, dispatch_of_error _ hb]
    | ok n =>
      rw [dispatch_of_ok _ ha, dispatch_of_ok _ hb, dispatch_of_ok _ ha, dispatch_of_ok _ hb]
      apply receive_comm
      rwa [Message.stream?_of_ofFrame ha, Message.stream?_of_ofFrame hb,
        Ne, Option.some_inj] at h

/-- The frames of each stream decide a run: from whatever state, two interleavings of the same
streams, with whatever unknown frames among them, end in the same state. -/
theorem run_eq_of_streams {xs ys : List Frame}
    (h : ∀ stream, xs.filter (·.stream? = some stream) = ys.filter (·.stream? = some stream)) :
    decoder.run xs = decoder.run ys :=
  foldl_eq_of_streams (fun d _ ↦ d.dispatch_of_stream?_eq_none)
    (fun d _ _ ↦ d.dispatch_comm) h decoder

/-- Two blocks, the coolant temperature and unknown frames take turns in two ways, on a store that
knows a slot behind the last block and no number in it. -/
theorem run_eq_of_streams_interleaved :
    let decoder := start .unset (Store.empty.setCell .leastVoltage 12 .nan)
    let xs : List Frame := [⟨0xb0e1, 4, [0x13, 0x88, 0x15]⟩, ⟨0xb0e1, 0, [0x10, 0x78, 0x7a]⟩,
      ⟨0xb0e2, 4, [0x13, 0x24, 0x15]⟩, ⟨0xb05c, 0, [0x78]⟩, ⟨0x1234, 0, [0x78]⟩]
    let ys : List Frame := [⟨0xb05c, 0, [0x78]⟩, ⟨0xb0e2, 4, [0x13, 0x24, 0x15]⟩,
      ⟨0xb0e1, 4, [0x13, 0x88, 0x15]⟩, ⟨0x4321, 0, []⟩, ⟨0xb0e1, 0, [0x10, 0x78, 0x7a]⟩]
    xs ≠ ys ∧ decoder.run xs = decoder.run ys ∧
      (decoder.run ys).store.get .packLeastVoltage = some (.number (Reading.cellVolts 0x1324)) := by
  intro decoder xs ys
  refine ⟨by decide, run_eq_of_streams decoder ?_, by decide⟩
  intro stream
  cases stream with
  | block block =>
    revert block
    decide
  | _ => decide

end Decoder

end BatteryTelemetry
