import BatteryTelemetry.Proofs.Charge.Report
import BatteryTelemetry.Proofs.Charge.Threshold

/-!
# A charge and its history

The charge metrics are decided by the status frames and the state-of-charge frames so far. Nothing
is written before the first charging status. From then on the flag and the type are those of the
latest status. The state comes from the latest of two events: a reading while the latest status
was a charging one, and the first other status after a charging one, which is judged by the latest
reading before it. Both judge raw readings, by the thresholds of the vehicle's firmware.
-/

namespace BatteryTelemetry

namespace Frame

def IsCharging (frame : Frame) : Prop :=
  frame.Answers .status ∧ (frame.byte 0 = 0x06 ∨ frame.byte 0 = 0x07 ∨ frame.byte 0 = 0x0c)

instance : DecidablePred IsCharging := fun _ ↦ inferInstanceAs (Decidable (_ ∧ _))

def chargeType (frame : Frame) : String :=
  if frame.byte 0 = 0x06 ∨ frame.byte 0 = 0x0c then "type2"
  else if frame.byte 0 = 0x07 then "ccs"
  else "not charging"

def chargeUnderWay (frames : List Frame) : Bool :=
  (latest? (·.Answers .status) frames).any fun status ↦ status.IsCharging

def isDone (parameters : Parameters) (frames : List Frame) : Bool :=
  (latest? (·.Answers .stateOfCharge) frames).any fun reading ↦
    parameters.doneFrom ≤ reading.word.toNat

/-- The published text for the state of a charge that a frame leads to after the frames before
it. -/
def chargeState? (parameters : Parameters) (early : List Frame) (frame : Frame) : Option String :=
  if ¬chargeUnderWay early then none
  else if frame.Answers .stateOfCharge then
    some (if parameters.toppingOffFrom ≤ frame.word.toNat then "topoff" else "charging")
  else if frame.Answers .status ∧ ¬frame.IsCharging then
    some (if isDone parameters early then "done" else "stopped")
  else none

theorem exists_isCharging_of_chargeUnderWay {frames : List Frame}
    (h : chargeUnderWay frames = true) : ∃ status ∈ frames, status.IsCharging := by
  obtain ⟨status, hstatus, hcharging⟩ := (Option.any_eq_true _ _).mp h
  exact ⟨status, (of_latest?_eq_some hstatus).2, by simpa using hcharging⟩

theorem chargeUnderWay_of_chargeState? {parameters : Parameters} {early : List Frame}
    {frame : Frame} {state : String} (h : chargeState? parameters early frame = some state) :
    chargeUnderWay early = true := by
  by_contra hnot
  rw [chargeState?, if_pos hnot] at h
  cases h

/-- The codes under which a charge is under way. -/
theorem isCharging_ofCode_iff (code : UInt8) :
    (Status.ofCode code).isCharging = true ↔ code = 0x06 ∨ code = 0x07 ∨ code = 0x0c := by
  rcases Status.ofCode_cases code with
    ⟨rfl, h⟩ | ⟨rfl, h⟩ | ⟨rfl, h⟩ | ⟨⟨h6, h7, hc⟩, h⟩
  · simp [h, Status.isCharging]
  · simp [h, Status.isCharging]
  · simp [h, Status.isCharging]
  · simp [h, h6, h7, hc]

/-- The texts by code are the labels of the types. -/
theorem chargeType_eq (frame : Frame) :
    frame.chargeType = (Status.ofCode (frame.byte 0)).chargeType.label := by
  rcases Status.ofCode_cases (frame.byte 0) with
    ⟨hcode, h⟩ | ⟨hcode, h⟩ | ⟨hcode, h⟩ | ⟨⟨h6, h7, hc⟩, h⟩
  · rw [h]
    simp [chargeType, hcode, Status.chargeType, ChargeType.label]
  · rw [h]
    simp [chargeType, hcode, Status.chargeType, ChargeType.label]
  · rw [h]
    simp [chargeType, hcode, Status.chargeType, ChargeType.label]
  · simp [chargeType, h6, h7, hc, Status.chargeType_eq_notCharging h, ChargeType.label]

theorem chargeType_of_not_isCharging {frame : Frame} (h : frame.Answers .status)
    (hcharging : ¬frame.IsCharging) : frame.chargeType = "not charging" := by
  have hcode : ¬(Status.ofCode (frame.byte 0)).isCharging := by
    rw [isCharging_ofCode_iff]
    exact fun hcode ↦ hcharging ⟨h, hcode⟩
  rw [chargeType_eq, Status.chargeType_eq_notCharging (Bool.eq_false_iff.mpr hcode)]
  rfl

end Frame

def chargeStatus? (frames : List Frame) : Option Frame :=
  if ∃ frame ∈ frames, frame.IsCharging then latest? (·.Answers .status) frames else none

/-- Before the first charging status the others do not count. -/
theorem chargeStatus?_concat (frames : List Frame) (last : Frame) :
    chargeStatus? (frames ++ [last]) =
      if last.IsCharging then some last
      else if last.Answers .status then (chargeStatus? frames).map fun _ ↦ last
      else chargeStatus? frames := by
  have hexists : (∃ frame ∈ frames ++ [last], frame.IsCharging) ↔
      last.IsCharging ∨ ∃ frame ∈ frames, frame.IsCharging := by
    simp [or_and_right, exists_or, or_comm]
  unfold chargeStatus?
  rw [latest?_concat]
  by_cases hlast : last.IsCharging
  · rw [if_pos (hexists.mpr (.inl hlast)), if_pos hlast.1, if_pos hlast]
  · simp only [hexists, hlast, false_or, if_false]
    split_ifs with hbefore hstatus
    · cases hlatest : latest? (·.Answers .status) frames with
      | none =>
        obtain ⟨frame, hmem, hcharging⟩ := hbefore
        exact absurd hcharging.1 (latest?_eq_none_iff.mp hlatest frame hmem)
      | some status => rfl
    · rfl
    · rfl
    · rfl

theorem answers_of_chargeStatus? {frames : List Frame} {status : Frame}
    (h : chargeStatus? frames = some status) : status.Answers .status := by
  unfold chargeStatus? at h
  split_ifs at h
  exact (of_latest?_eq_some h).1

/-- A charge is under way after the same frames for which the latest status says so. -/
theorem any_isCharging_chargeStatus? (frames : List Frame) :
    (chargeStatus? frames).any (fun status ↦ status.IsCharging) = Frame.chargeUnderWay frames := by
  unfold chargeStatus? Frame.chargeUnderWay
  split_ifs with h
  · rfl
  · cases hlatest : latest? (·.Answers .status) frames with
    | none => rfl
    | some status =>
      have hmem := (of_latest?_eq_some hlatest).2
      have hnot : ¬status.IsCharging := fun hcharging ↦ h ⟨status, hmem, hcharging⟩
      simp [hnot]

namespace Decoder

variable (decoder : Decoder) (frame : Frame)

/-- A charge begins with any charging status and ends with the first one that is not. -/
theorem chargeInProgress_dispatch :
    (decoder.dispatch frame).store.get .chargeInProgress =
      if frame.IsCharging then some (.flag true)
      else if frame.Answers .status ∧ decoder.store.flag .chargeInProgress then some (.flag false)
      else decoder.store.get .chargeInProgress := by
  by_cases hstatus : frame.Answers .status
  · rw [dispatch_of_status decoder hstatus, chargeInProgress_receive_status]
    simp [Frame.IsCharging, hstatus, Frame.isCharging_ofCode_iff]
  · have hnot : ¬frame.IsCharging := fun h ↦ hstatus h.1
    by_cases hcharge : frame.Answers .stateOfCharge
    · rw [dispatch_of_stateOfCharge decoder hcharge, chargeInProgress_receive_stateOfCharge]
      simp [hnot, hstatus]
    · rw [get_dispatch_of_not_answers decoder hstatus hcharge (by simp [Metric.IsCharge])]
      simp [hnot, hstatus]

/-- The type is published anew with each charging status and once at the end of a charge. -/
theorem chargeType_dispatch :
    (decoder.dispatch frame).store.get .chargeType =
      if frame.IsCharging ∨ frame.Answers .status ∧ decoder.store.flag .chargeInProgress then
        some (.label frame.chargeType)
      else decoder.store.get .chargeType := by
  by_cases hstatus : frame.Answers .status
  · rw [dispatch_of_status decoder hstatus, chargeType_receive_status]
    simp [Frame.IsCharging, hstatus, Frame.isCharging_ofCode_iff, Frame.chargeType_eq]
  · have hnot : ¬frame.IsCharging := fun h ↦ hstatus h.1
    by_cases hcharge : frame.Answers .stateOfCharge
    · rw [dispatch_of_stateOfCharge decoder hcharge, chargeType_receive_stateOfCharge]
      simp [hnot, hstatus]
    · rw [get_dispatch_of_not_answers decoder hstatus hcharge (by simp [Metric.IsCharge])]
      simp [hnot, hstatus]

/-- The state follows the readings during a charge and is settled by the status that ends it. -/
theorem chargeState_dispatch :
    (decoder.dispatch frame).store.get .chargeState =
      if ¬decoder.store.flag .chargeInProgress then decoder.store.get .chargeState
      else if frame.Answers .stateOfCharge then
        some (.label (ChargeState.whileCharging (decoder.percentage frame.word)).label)
      else if frame.Answers .status ∧ ¬frame.IsCharging then
        some (.label (ChargeState.afterCharge (decoder.store.number .stateOfCharge)).label)
      else decoder.store.get .chargeState := by
  by_cases hstatus : frame.Answers .status
  · have hcharge : ¬frame.Answers .stateOfCharge := fun h ↦ absurd (hstatus.unique h) (by simp)
    rw [dispatch_of_status decoder hstatus, chargeState_receive_status]
    cases hflag : decoder.store.flag .chargeInProgress <;>
      simp [Frame.IsCharging, hstatus, hcharge, ← Frame.isCharging_ofCode_iff]
  · by_cases hcharge : frame.Answers .stateOfCharge
    · rw [dispatch_of_stateOfCharge decoder hcharge, chargeState_receive_stateOfCharge]
      cases hflag : decoder.store.flag .chargeInProgress <;> simp [hcharge]
    · rw [get_dispatch_of_not_answers decoder hstatus hcharge (by simp [Metric.IsCharge])]
      simp [hstatus, hcharge]

section Run

variable (parameters : Parameters) (frames : List Frame)

theorem stateOfCharge_run :
    ((start parameters .empty).run frames).store.get .stateOfCharge =
      (latest? (·.Answers .stateOfCharge) frames).map fun reading ↦
        .number ((ChargeWindow.ofParameters parameters).scale reading.word) := by
  apply get_run_of_answer .stateOfCharge parameters frames rfl
  rintro d reading rfl
  exact stateOfCharge_receive_stateOfCharge d reading.word

theorem chargeInProgress_run :
    ((start parameters .empty).run frames).store.get .chargeInProgress =
      (chargeStatus? frames).map fun status ↦ .flag status.IsCharging := by
  induction frames using List.reverseRecOn with
  | nil => simp [run, start, chargeStatus?]
  | append_singleton frames last ih =>
    rw [run_append, chargeStatus?_concat]
    calc
      _ = _ := chargeInProgress_dispatch ((start parameters .empty).run frames) last
      _ = _ := by
        rw [Store.flag, ih]
        cases chargeStatus? frames with
        | none => split_ifs <;> simp_all
        | some status => split_ifs <;> simp_all

/-- The decoder remembers of the statuses whether the latest one was a charging one. -/
theorem flag_run :
    ((start parameters .empty).run frames).store.flag .chargeInProgress =
      Frame.chargeUnderWay frames := by
  rw [Store.flag, chargeInProgress_run, ← any_isCharging_chargeStatus?]
  cases chargeStatus? frames with
  | none => rfl
  | some status => by_cases h : status.IsCharging <;> simp [h]

theorem chargeType_run :
    ((start parameters .empty).run frames).store.get .chargeType =
      (chargeStatus? frames).map fun status ↦ .label status.chargeType := by
  induction frames using List.reverseRecOn with
  | nil => simp [run, start, chargeStatus?]
  | append_singleton frames last ih =>
    rw [run_append, chargeStatus?_concat]
    calc
      _ = _ := chargeType_dispatch ((start parameters .empty).run frames) last
      _ = _ := by
        rw [flag_run, ← any_isCharging_chargeStatus?, ih]
        cases hstatus : chargeStatus? frames with
        | none => split_ifs <;> simp_all
        | some status =>
          have htype : ¬status.IsCharging → status.chargeType = "not charging" :=
            Frame.chargeType_of_not_isCharging (answers_of_chargeStatus? hstatus)
          split_ifs <;> simp_all [Frame.chargeType_of_not_isCharging]

/-- Before the first reading the percentage counts as zero, so the charge ends as stopped. -/
theorem afterCharge_run :
    ChargeState.afterCharge
        (((start parameters .empty).run frames).store.number .stateOfCharge) =
      if Frame.isDone parameters frames then .done else .stopped := by
  have hget := stateOfCharge_run parameters frames
  rw [Frame.isDone]
  cases hlatest : latest? (·.Answers .stateOfCharge) frames with
  | none =>
    rw [hlatest, Option.map_none] at hget
    rw [Store.number_of_get_eq_none hget]
    exact show ChargeState.afterCharge 0 = .stopped by decide
  | some reading =>
    rw [hlatest, Option.map_some] at hget
    rw [Store.number_of_get_eq_some hget, ChargeState.afterCharge_scale]
    simp

/-- A frame of a run writes the state of charge that it leads to. -/
theorem chargeState_run_concat (last : Frame) :
    (((start parameters .empty).run frames).dispatch last).store.get .chargeState =
      ((last.chargeState? parameters frames).map Value.label).or
        (((start parameters .empty).run frames).store.get .chargeState) := by
  rw [chargeState_dispatch, flag_run, percentage, parameters_run, parameters_start,
    ChargeState.whileCharging_scale, afterCharge_run, Frame.chargeState?]
  split_ifs <;> simp [ChargeState.label]

/-- The state is the answer of the latest frame that gives one. -/
theorem chargeState_run (value : Value) :
    ((start parameters .empty).run frames).store.get .chargeState = some value ↔
      ∃ text, value = .label text ∧
        LatestAnswer (Frame.chargeState? parameters) frames text := by
  rw [← latestAnswer_map]
  exact view_foldl_iff_latestAnswer (fun d : Decoder ↦ d.store.get .chargeState) (by simp [start])
    (fun early frame ↦ chargeState_run_concat parameters early frame) frames value

end Run

end Decoder

/-- What the frames tell of a charge is what the charge metrics say. -/
structure Store.IsChargeHistoryOf (store : Store) (parameters : Parameters)
    (frames : List Frame) : Prop where
  unwritten : (∀ frame ∈ frames, ¬frame.IsCharging) →
    store.get .chargeInProgress = none ∧ store.get .chargeType = none ∧
      store.get .chargeState = none
  written : (∃ frame ∈ frames, frame.IsCharging) →
    ∃ status, latest? (·.Answers .status) frames = some status ∧
      store.get .chargeInProgress = some (.flag status.IsCharging) ∧
      store.get .chargeType = some (.label
        (if status.byte 0 = 0x06 ∨ status.byte 0 = 0x0c then "type2"
          else if status.byte 0 = 0x07 then "ccs"
          else "not charging"))
  chargeState (value : Value) : store.get .chargeState = some value ↔
    ∃ text, value = .label text ∧ LatestAnswer (Frame.chargeState? parameters) frames text

/-- Whatever the frames and their order, the charge metrics are those of their history. -/
theorem Decoder.run_isChargeHistoryOf (parameters : Parameters) (frames : List Frame) :
    ((start parameters .empty).run frames).store.IsChargeHistoryOf parameters frames where
  unwritten hnone := by
    have hstatus : chargeStatus? frames = none := if_neg (by simpa using hnone)
    refine ⟨by simp [chargeInProgress_run, hstatus], by simp [chargeType_run, hstatus], ?_⟩
    apply Option.eq_none_iff_forall_not_mem.mpr
    intro value hvalue
    obtain ⟨state, -, early, frame, late, rfl, hread, -⟩ :=
      (chargeState_run parameters frames value).mp hvalue
    obtain ⟨status, hmem, hcharging⟩ := Frame.exists_isCharging_of_chargeUnderWay
      (Frame.chargeUnderWay_of_chargeState? hread)
    exact hnone status (List.mem_append_left _ hmem) hcharging
  written hsome := by
    have hstatus : chargeStatus? frames = latest? (·.Answers .status) frames := if_pos hsome
    cases hlatest : latest? (·.Answers .status) frames with
    | none =>
      obtain ⟨frame, hmem, hcharging⟩ := hsome
      exact absurd hcharging.1 (latest?_eq_none_iff.mp hlatest frame hmem)
    | some status =>
      refine ⟨status, rfl, by simp [chargeInProgress_run, hstatus, hlatest], ?_⟩
      rw [chargeType_run, hstatus, hlatest, Option.map_some]
      rfl
  chargeState := chargeState_run parameters frames

end BatteryTelemetry
