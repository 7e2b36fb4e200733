import BatteryTelemetry.Proofs.Charge.Report
import BatteryTelemetry.Proofs.Decoder.Commute
import BatteryTelemetry.Proofs.Decoder.Footprint
import Mathlib.Data.List.Destutter

/-!
# Redelivery

A frame that is delivered twice in a row does nothing the second time. Most messages write nothing
that they read, and the cell of a half is written before an extreme is taken, so the second delivery
has the effects of the first (`messageEffects_receive_self`), and effects that happened override
themselves (`applyAll_applyAll`). The one message that reads what it wrote is a status that ended a
charge; it finds no charge in progress and has no effect.
-/

namespace BatteryTelemetry.Decoder

variable (decoder : Decoder)

/-- Effects that happen again change nothing. -/
theorem applyAll_applyAll (effects : List Effect) :
    (decoder.applyAll effects).applyAll effects = decoder.applyAll effects := by
  apply ext_views
  · rw [parameters_applyAll]
  · intro metric
    rw [get_applyAll, get_applyAll, ← Option.or_assoc, Option.or_self]
  · intro metric
    apply CellRow.ext_get
    intro index
    rw [cell_applyAll, cell_applyAll, ← Option.or_assoc, Option.or_self]
  · intro block
    rw [highByte_applyAll, highByte_applyAll, ← Option.or_assoc, Option.or_self]

variable {decoder} {message : Message}

/-- A message that writes no metric it reads finds all it reads unchanged. -/
theorem agreesFor_receive_self
    (h : ∀ metric ∈ (decoder.receive message).metricsRead message,
      metric ∉ decoder.metricsWritten message) :
    (decoder.receive message).AgreesFor decoder message where
  window _ := by rw [receive, parameters_applyAll]
  metric metric hmetric := get_receive_of_notMem_metricsWritten (h metric hmetric)
  highByte block hblock := by
    rw [highByte_receive]
    cases message <;> simp_all [Message.completes?, Message.highByte?]
  row extreme block x hcell i hi := by
    rw [row_receive]
    cases hwritten : decoder.cell? extreme.cells message with
    | none => rfl
    | some cell =>
      obtain ⟨other, y⟩ := cell
      have hpid : Pid.cellBlock other = .cellBlock block :=
        (pid_of_cell hwritten).symm.trans (pid_of_cell hcell)
      have hne : i ≠ other := Pid.cellBlock.inj hpid ▸ hi
      exact (CellRow.get_set _ _ _ i).trans (if_neg hne)

/-- No charge is in progress after a status that is not a charging one. -/
theorem flag_receive_of_not_isCharging {status : Status} (h : status.isCharging = false) :
    (decoder.receive (.status status)).store.flag .chargeInProgress = false := by
  rw [Store.flag, chargeInProgress_receive_status, if_neg (by simp [h])]
  split_ifs with hflag
  · rfl
  · exact eq_false_of_ne_true hflag

variable (decoder message)

/-- A message has the same effects once more, or none if it was the end of a charge. -/
theorem messageEffects_receive_self :
    (decoder.receive message).messageEffects message = decoder.messageEffects message ∨
      (decoder.receive message).messageEffects message = [] := by
  by_cases hend : ∃ status : Status, message = .status status ∧ status.isCharging = false
  · obtain ⟨status, rfl, hstatus⟩ := hend
    refine .inr ?_
    rw [messageEffects, Store.statusEffects_eq, Status.chargeType_eq_notCharging hstatus,
      flag_receive_of_not_isCharging hstatus]
    rfl
  · refine .inl (messageEffects_eq_of_agreesFor (agreesFor_receive_self ?_))
    cases message with
    | status status =>
      have hstatus : status.isCharging = true := by simpa using hend
      rcases Status.chargeType_cases hstatus with htype | htype <;>
        simp [metricsRead, metricsWritten, htype]
    | _ => simp [metricsRead, metricsWritten]

/-- A message that is received again changes nothing. -/
theorem receive_receive : (decoder.receive message).receive message = decoder.receive message := by
  rw [receive]
  rcases messageEffects_receive_self decoder message with heffects | heffects
  · rw [heffects]
    exact applyAll_applyAll decoder _
  · rw [heffects]
    rfl

/-- A frame that is repeated at once may be left out. -/
theorem run_cons_cons_self (frame : Frame) (rest : List Frame) :
    decoder.run (frame :: frame :: rest) = decoder.run (frame :: rest) := by
  rw [run_cons, run_cons, run_cons]
  cases hframe : Message.ofFrame frame with
  | error rejection => rw [dispatch_of_error _ hframe, dispatch_of_error _ hframe]
  | ok message => rw [dispatch_of_ok _ hframe, dispatch_of_ok _ hframe, receive_receive]

theorem run_destutter' (frames : List Frame) (frame : Frame) :
    decoder.run (frames.destutter' (· ≠ ·) frame) = decoder.run (frame :: frames) := by
  induction frames generalizing decoder frame with
  | nil => rfl
  | cons next rest ih =>
    by_cases h : frame ≠ next
    · rw [List.destutter'_cons_pos rest h, run_cons, ih]
      rfl
    · obtain rfl := not_not.mp h
      rw [List.destutter'_cons_neg rest h, ih, run_cons_cons_self]

/-- Frames that repeat the frame just before them may be left out of a run. -/
theorem run_destutter (frames : List Frame) :
    decoder.run (frames.destutter (· ≠ ·)) = decoder.run frames := by
  cases frames with
  | nil => rfl
  | cons frame rest => exact run_destutter' decoder rest frame

/-- Redelivery of a frame changes nothing, whatever the decoder holds. -/
theorem dispatch_dispatch (frame : Frame) :
    (decoder.dispatch frame).dispatch frame = decoder.dispatch frame :=
  run_cons_cons_self decoder frame []

end BatteryTelemetry.Decoder
