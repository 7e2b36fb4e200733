import BatteryTelemetry.Proofs.Charge.Report

/-!
# Readings and their history

The scalar readings are decided by the frames so far. Most show the latest frame of their parameter.
The others take over what was shown just before their latest frame: the bus voltage takes the pack
voltage while the bus is off, the power takes the bus voltage, and a rapid charge takes current,
power and voltage of the battery. What comes later changes none of them. A reading that is
missing at that moment counts as zero.
-/

namespace BatteryTelemetry

namespace Frame

def IsRapid (frame : Frame) : Prop := frame.Answers .status ∧ frame.byte 0 = 0x07

instance : DecidablePred IsRapid := fun _ ↦ inferInstanceAs (Decidable (_ ∧ _))

end Frame

/-- What a rapid charge takes over from the battery under a metric. -/
def Store.takenOver? (store : Store) : Metric → Option Single
  | .chargeCurrent => some (-store.number .current)
  | .chargePower => some (store.number .power)
  | .chargeVoltage => some (store.number .busVoltage)
  | .chargeCurrentLimit => some rapidCurrentLimit
  | _ => none

theorem Status.ofCode_eq_rapidCharging_iff (code : UInt8) :
    ofCode code = rapidCharging ↔ code = 0x07 := by
  rcases ofCode_cases code with ⟨rfl, h⟩ | ⟨rfl, h⟩ | ⟨rfl, h⟩ | ⟨⟨-, h7, -⟩, h⟩
  · simp [h]
  · simp [h]
  · simp [h]
  · refine iff_of_false (fun heq ↦ ?_) h7
    rw [heq] at h
    cases h

namespace Decoder

variable (decoder : Decoder)

/-- While the bus is switched off the pack voltage stands for its own. -/
theorem get_receive_busVoltage (raw : UInt16) :
    (decoder.receive (.busVoltage raw)).store.get .busVoltage =
      some (.number (if raw = Reading.busOff then decoder.store.number .packVoltage
        else Reading.quarterVolts raw)) := by
  simp [get_receive, messageEffects]

theorem get_receive_current (raw : UInt16) :
    (decoder.receive (.current raw)).store.get .current = some (.number (Reading.amperes raw)) := by
  simp [get_receive, messageEffects]

/-- The power is taken with the bus voltage of the moment, and not again when that changes. -/
theorem power_receive_current (raw : UInt16) :
    (decoder.receive (.current raw)).store.get .power =
      some (.number (Reading.kilowatts (decoder.store.number .busVoltage)
        (Reading.amperes raw))) := by
  simp [get_receive, messageEffects]

theorem get_receive_status_of_takenOver {metric : Metric} {x : Single}
    (h : decoder.store.takenOver? metric = some x) (status : Status) :
    (decoder.receive (.status status)).store.get metric =
      if status = .rapidCharging then some (.number x) else decoder.store.get metric := by
  rw [get_receive, messageEffects]
  by_cases hrapid : status = .rapidCharging
  · subst hrapid
    cases metric <;> simp_all [Store.takenOver?, Store.statusEffects]
  · rcases decoder.store.statusEffects_cases status with
      ⟨-, -, heffects⟩ | ⟨-, htype, -⟩ | ⟨-, -, -, heffects⟩ | ⟨-, -, -, heffects⟩
    · cases metric <;> simp_all [Store.takenOver?, Store.alternatingEffects]
    · cases status <;> simp_all [Status.chargeType]
    · cases metric <;> simp_all [Store.takenOver?, Store.endEffects]
    · simp [heffects, hrapid]

/-- A frame lets a rapid charge take over what the battery shows, or leaves the metric alone. -/
theorem get_dispatch_of_takenOver {metric : Metric} {taken : Store → Single}
    (h : ∀ store : Store, store.takenOver? metric = some (taken store)) (frame : Frame) :
    (decoder.dispatch frame).store.get metric =
      if frame.IsRapid then some (.number (taken decoder.store)) else decoder.store.get metric := by
  have hsource : metric.source? = some .status := by
    have hempty := h .empty
    cases metric <;> simp_all [Store.takenOver?, Metric.source?]
  rw [get_dispatch_of_source decoder metric hsource, Frame.message,
    get_receive_status_of_takenOver decoder (h decoder.store)]
  by_cases hstatus : frame.Answers .status <;>
    simp [Status.ofCode_eq_rapidCharging_iff, Frame.IsRapid, hstatus]

section Run

variable (parameters : Parameters) (frames : List Frame)

end Run

/-- A bus voltage that comes later does not reach the rapid charge, which keeps the pack voltage. -/
example :
    ((start .unset .empty).run [⟨0xb042, 0, [0x06, 0x5c]⟩, ⟨0xb041, 0, [0xff, 0xfe]⟩,
      ⟨0xb048, 0, [0x07]⟩, ⟨0xb041, 0, [0x06, 0x40]⟩]).store.get .chargeVoltage =
      some (.number 407) := by
  decide

end Decoder

end BatteryTelemetry
