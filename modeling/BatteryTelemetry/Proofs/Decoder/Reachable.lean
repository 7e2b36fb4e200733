import BatteryTelemetry.Proofs.Decoder.Receive

/-!
# Reachable decoders

A decoder starts on an empty store. From then on frames are dispatched, statuses are reported
without a frame, and the decoder is rebuilt with other parameters, in any order. A property of the
store that every message keeps holds at all times (`Reachable.store_invariant`), because a frame
has at most one message and a rebuild leaves the store alone.
-/

namespace BatteryTelemetry.Decoder

/-- The decoders that come about from an empty store. -/
inductive Reachable : Decoder → Prop
  | start (parameters : Parameters) : Reachable (.start parameters .empty)
  | dispatch {decoder : Decoder} (frame : Frame) :
    Reachable decoder → Reachable (decoder.dispatch frame)
  | report {decoder : Decoder} (status : Status) :
    Reachable decoder → Reachable (decoder.report status)
  | rebuild {decoder : Decoder} (parameters : Parameters) :
    Reachable decoder → Reachable (decoder.rebuild parameters)

theorem Reachable.run {decoder : Decoder} (h : Reachable decoder) (frames : List Frame) :
    Reachable (decoder.run frames) := by
  induction frames generalizing decoder with
  | nil => exact h
  | cons frame rest ih => exact ih (h.dispatch frame)

/-- What messages keep of the store holds in every reachable state, since rebuilding a decoder keeps
its store. -/
theorem Reachable.store_invariant {p : Store → Prop} (hempty : p .empty)
    (hreceive : ∀ (decoder : Decoder) message, p decoder.store → p (decoder.receive message).store)
    {decoder : Decoder} (h : Reachable decoder) : p decoder.store := by
  induction h with
  | start parameters => exact hempty
  | @dispatch decoder frame _ ih =>
    cases hframe : Message.ofFrame frame with
    | error rejection => rwa [dispatch_of_error decoder hframe]
    | ok message =>
      rw [dispatch_of_ok decoder hframe]
      exact hreceive decoder message ih
  | @report decoder status _ ih =>
    rw [report_eq_receive]
    exact hreceive decoder (.status status) ih
  | rebuild parameters _ ih => exact ih

end BatteryTelemetry.Decoder
