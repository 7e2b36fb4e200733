import BatteryTelemetry.Proofs.Bus.Answer
import BatteryTelemetry.Proofs.Decoder.Receive

/-!
# Dispatching a frame

A frame that answers a parameter does what its message does (`dispatch_of_answers`); any other
frame does nothing. Most metrics have one parameter as their source and are written by its answers
only (`get_dispatch_of_source`). After a run such a metric shows the latest answer, in the light of
what the decoder held just before it (`get_run_of_source`).
-/

namespace BatteryTelemetry

/-- The one parameter whose messages write a metric, if there is only one. -/
def Metric.source? : Metric → Option Pid
  | busVoltage => some .busVoltage
  | current | power => some .current
  | packVoltage => some .packVoltage
  | rawStateOfCharge | stateOfCharge | idealRange => some .stateOfCharge
  | rangeEstimate => some .rangeEstimate
  | coolantTemperature => some .coolantTemperature
  | stateOfHealth => some .stateOfHealth
  | chargeInProgress | chargeType | chargeCurrent | chargePower | chargeVoltage
  | chargeCurrentLimit => some .status
  | chargeState | packLeastVoltage | packGreatestVoltage | packColdest | packWarmest => none

/-- Of all messages only those of the source write the metric. -/
theorem Message.pid_eq_source {message : Message} {metric : Metric} {pid : Pid}
    (hsource : metric.source? = some pid) (hmem : metric ∈ message.metrics) :
    message.pid = pid := by
  have hall : ∀ metric ∈ message.metrics,
      metric.source? = none ∨ metric.source? = some message.pid := by
    cases message <;> simp [metrics, Metric.source?, Message.pid]
  rcases hall metric hmem with hnone | hsome
  · rw [hnone] at hsource
    cases hsource
  · rw [hsome] at hsource
    exact Option.some.inj hsource

namespace Decoder

variable (decoder : Decoder)

/-- An accepted frame is received as what it says. -/
theorem dispatch_of_answers {frame : Frame} {pid : Pid} (h : frame.Answers pid) :
    decoder.dispatch frame = decoder.receive (frame.message pid) :=
  dispatch_of_ok decoder (Message.ofFrame_of_answers h)

theorem parameters_dispatch (frame : Frame) :
    (decoder.dispatch frame).parameters = decoder.parameters :=
  parameters_applyAll decoder _

theorem parameters_run (frames : List Frame) :
    (decoder.run frames).parameters = decoder.parameters := by
  induction frames generalizing decoder with
  | nil => rfl
  | cons frame rest ih => exact (ih (decoder.dispatch frame)).trans (parameters_dispatch _ _)

@[simp]
theorem parameters_start (parameters : Parameters) (store : Store) :
    (start parameters store).parameters = parameters := rfl

variable (metric : Metric) {pid : Pid}

/-- Only frames of the source change the metric. -/
theorem get_dispatch_of_source (hsource : metric.source? = some pid) (frame : Frame) :
    (decoder.dispatch frame).store.get metric =
      if frame.Answers pid then (decoder.receive (frame.message pid)).store.get metric
      else decoder.store.get metric := by
  split_ifs with hanswers
  · rw [dispatch_of_answers decoder hanswers]
  · cases hframe : Message.ofFrame frame with
    | error rejection => rw [dispatch_of_error decoder hframe]
    | ok message =>
      rw [dispatch_of_ok decoder hframe]
      apply get_receive_of_notMem
      intro hmem
      have hmessage := Message.answers_of_ofFrame hframe
      rw [Message.pid_eq_source hsource hmem] at hmessage
      exact hanswers hmessage

variable (parameters : Parameters) (frames : List Frame)

/-- A metric that needs nothing but the answer shows the latest answer. -/
theorem get_run_of_answer (hsource : metric.source? = some pid) {value : Frame → Value}
    (hvalue : ∀ decoder frame, decoder.parameters = parameters →
      (receive decoder (frame.message pid)).store.get metric = some (value frame)) :
    ((start parameters .empty).run frames).store.get metric =
      (latest? (·.Answers pid) frames).map value := by
  induction frames using List.reverseRecOn with
  | nil => simp [run, start]
  | append_singleton frames last ih =>
    rw [run_append, latest?_concat]
    calc
      _ = _ := get_dispatch_of_source _ metric hsource last
      _ = _ := by
        rw [hvalue _ _ (parameters_run _ _), ih]
        split_ifs <;> rfl

end Decoder

end BatteryTelemetry
