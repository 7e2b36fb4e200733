import BatteryTelemetry.Proofs.Decoder.Dispatch

/-!
# Charge metrics after a message

Three metrics tell of a charge. A status writes the flag and the type when it starts a charge, and
all three when it ends one. A state of charge writes the state while the flag is raised. Other
messages, and with them all other frames, leave the three and the percentage alone.
-/

namespace BatteryTelemetry

def Metric.IsCharge (metric : Metric) : Prop :=
  metric = .chargeInProgress ∨ metric = .chargeType ∨ metric = .chargeState

namespace Store

theorem number_of_get_eq_some {store : Store} {metric : Metric} {x : Single}
    (h : store.get metric = some (.number x)) : store.number metric = x := by
  simp [number, number?, h]

theorem number_of_get_eq_none {store : Store} {metric : Metric} (h : store.get metric = none) :
    store.number metric = 0 := by
  simp [number, number?, h]

end Store

namespace Decoder

variable (decoder : Decoder)

/-- A status that is not a charging one is published only if it ends a charge. -/
theorem chargeInProgress_receive_status (status : Status) :
    (decoder.receive (.status status)).store.get .chargeInProgress =
      if status.isCharging then some (.flag true)
      else if decoder.store.flag .chargeInProgress then some (.flag false)
      else decoder.store.get .chargeInProgress := by
  rw [get_receive, messageEffects]
  rcases decoder.store.statusEffects_cases status with
    ⟨hstatus, -, heffects⟩ | ⟨hstatus, -, heffects⟩ | ⟨hstatus, -, hflag, heffects⟩ |
      ⟨hstatus, -, hflag, heffects⟩ <;>
    simp [*, Store.alternatingEffects, Store.rapidEffects, Store.endEffects]

theorem chargeType_receive_status (status : Status) :
    (decoder.receive (.status status)).store.get .chargeType =
      if status.isCharging ∨ decoder.store.flag .chargeInProgress then
        some (.label status.chargeType.label)
      else decoder.store.get .chargeType := by
  rw [get_receive, messageEffects]
  rcases decoder.store.statusEffects_cases status with
    ⟨hstatus, htype, heffects⟩ | ⟨hstatus, htype, heffects⟩ |
      ⟨hstatus, htype, hflag, heffects⟩ | ⟨hstatus, htype, hflag, heffects⟩ <;>
    simp [*, Store.alternatingEffects, Store.rapidEffects, Store.endEffects]

/-- The status that ends a charge labels it by the last percentage. -/
theorem chargeState_receive_status (status : Status) :
    (decoder.receive (.status status)).store.get .chargeState =
      if status.isCharging = false ∧ decoder.store.flag .chargeInProgress then
        some (.label (ChargeState.afterCharge (decoder.store.number .stateOfCharge)).label)
      else decoder.store.get .chargeState := by
  rw [get_receive, messageEffects]
  rcases decoder.store.statusEffects_cases status with
    ⟨hstatus, -, heffects⟩ | ⟨hstatus, -, heffects⟩ | ⟨hstatus, -, hflag, heffects⟩ |
      ⟨hstatus, -, hflag, heffects⟩ <;>
    simp [*, Store.alternatingEffects, Store.rapidEffects, Store.endEffects]

theorem stateOfCharge_receive_status (status : Status) :
    (decoder.receive (.status status)).store.get .stateOfCharge =
      decoder.store.get .stateOfCharge :=
  get_receive_of_notMem (by simp [Message.metrics])

def percentage (raw : UInt16) : Single := (ChargeWindow.ofParameters decoder.parameters).scale raw

/-- Without a charge under way a reading says nothing of its state. -/
theorem chargeState_receive_stateOfCharge (raw : UInt16) :
    (decoder.receive (.stateOfCharge raw)).store.get .chargeState =
      if decoder.store.flag .chargeInProgress then
        some (.label (ChargeState.whileCharging (decoder.percentage raw)).label)
      else decoder.store.get .chargeState := by
  rw [get_receive, messageEffects, stateOfChargeEffects]
  cases hflag : decoder.store.flag .chargeInProgress <;> simp [percentage]

theorem chargeInProgress_receive_stateOfCharge (raw : UInt16) :
    (decoder.receive (.stateOfCharge raw)).store.get .chargeInProgress =
      decoder.store.get .chargeInProgress :=
  get_receive_of_notMem (by simp [Message.metrics])

theorem chargeType_receive_stateOfCharge (raw : UInt16) :
    (decoder.receive (.stateOfCharge raw)).store.get .chargeType =
      decoder.store.get .chargeType :=
  get_receive_of_notMem (by simp [Message.metrics])

theorem stateOfCharge_receive_stateOfCharge (raw : UInt16) :
    (decoder.receive (.stateOfCharge raw)).store.get .stateOfCharge =
      some (.number (decoder.percentage raw)) := by
  rw [get_receive, messageEffects, stateOfChargeEffects]
  cases hflag : decoder.store.flag .chargeInProgress <;> simp [percentage]

/-- The metrics that tell of a charge, and the percentage, are left alone by the other messages. -/
theorem get_receive_of_pid_ne {message : Message} (hstatus : message.pid ≠ .status)
    (hcharge : message.pid ≠ .stateOfCharge) {metric : Metric}
    (h : metric.IsCharge ∨ metric = .stateOfCharge) :
    (decoder.receive message).store.get metric = decoder.store.get metric := by
  apply get_receive_of_notMem
  rcases h with (rfl | rfl | rfl) | rfl <;>
    cases message <;> simp_all [Message.metrics, Message.pid]

variable {frame : Frame}

/-- A frame of a status is received as the status of its first byte. -/
theorem dispatch_of_status (h : frame.Answers .status) :
    decoder.dispatch frame = decoder.receive (.status (.ofCode (frame.byte 0))) :=
  dispatch_of_answers decoder h

theorem dispatch_of_stateOfCharge (h : frame.Answers .stateOfCharge) :
    decoder.dispatch frame = decoder.receive (.stateOfCharge frame.word) :=
  dispatch_of_answers decoder h

/-- Frames of other parameters leave the charge alone. -/
theorem get_dispatch_of_not_answers (hstatus : ¬frame.Answers .status)
    (hcharge : ¬frame.Answers .stateOfCharge) {metric : Metric}
    (h : metric.IsCharge ∨ metric = .stateOfCharge) :
    (decoder.dispatch frame).store.get metric = decoder.store.get metric := by
  cases hframe : Message.ofFrame frame with
  | error rejection => rw [dispatch_of_error decoder hframe]
  | ok message =>
    have hanswers := Message.answers_of_ofFrame hframe
    rw [dispatch_of_ok decoder hframe]
    exact get_receive_of_pid_ne decoder (fun heq ↦ hstatus (heq ▸ hanswers))
      (fun heq ↦ hcharge (heq ▸ hanswers)) h

end Decoder

end BatteryTelemetry
