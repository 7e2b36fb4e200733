import BatteryTelemetry.Proofs.Decoder.Trace
import Mathlib.Data.List.Forall2

/-!
# What the parameters decide

The parameters select a window, and the window decides the percentage that is shown. The percentage
goes into the ideal range and into the state of a charge, and nowhere else. Which effects a frame
has is decided by the flag of a charge in progress, by rows and by kept bytes, never by the
percentage, so two decoders with different parameters go in step: their effects agree but for the
values of these three metrics and for notes (`forall₂_messageEffects`), and such effects keep the
decoders in agreement on all else (`SameButPercentage.applyAll`).
-/

namespace BatteryTelemetry

/-- The metric is the percentage or comes from it. -/
def Metric.ShowsPercentage (metric : Metric) : Prop :=
  metric = .stateOfCharge ∨ metric = .idealRange ∨ metric = .chargeState

/-- Two effects are the same but for a value that comes from the percentage, or for what is
noted. -/
inductive Effect.SameButPercentage : Effect → Effect → Prop where
  | same (effect : Effect) : SameButPercentage effect effect
  | publish {metric : Metric} (h : metric.ShowsPercentage) (v w : Value) :
    SameButPercentage (.publish metric v) (.publish metric w)
  | note (m n : Note) : SameButPercentage (.note m) (.note n)

/-- Two stores agree on all that does not come from the percentage, and on which metrics are
written. -/
structure Store.SameButPercentage (s t : Store) : Prop where
  get (metric : Metric) : ¬metric.ShowsPercentage → s.get metric = t.get metric
  isSome_get (metric : Metric) : (s.get metric).isSome = (t.get metric).isSome
  row (metric : CellMetric) : s.row metric = t.row metric

/-- Two decoders agree on their kept bytes and on all that does not come from the percentage. -/
structure Decoder.SameButPercentage (d e : Decoder) : Prop where
  store : d.store.SameButPercentage e.store
  highBytes : d.highBytes = e.highBytes

theorem forall₂_sameButPercentage_refl (effects : List Effect) :
    List.Forall₂ Effect.SameButPercentage effects effects :=
  List.forall₂_same.mpr fun effect _ ↦ .same effect

/-- Effects that are the same but for the percentage write the same metrics. -/
theorem writesMetric_congr {effects others : List Effect}
    (h : List.Forall₂ Effect.SameButPercentage effects others) (metric : Metric) :
    WritesMetric effects metric ↔ WritesMetric others metric := by
  induction h with
  | nil => rfl
  | cons hhead _ ih =>
    simp only [WritesMetric, List.mem_cons, exists_or] at ih ⊢
    rw [ih]
    cases hhead with
    | same => rfl
    | publish | note => simp

namespace Decoder

variable {d e : Decoder}

theorem SameButPercentage.apply (h : d.SameButPercentage e) {f g : Effect}
    (hsame : f.SameButPercentage g) : (d.apply f).SameButPercentage (e.apply g) := by
  cases hsame with
  | same =>
    refine ⟨?_, by simp only [Decoder.apply, h.highBytes]⟩
    cases f with
    | publish m v =>
      refine ⟨fun metric hmetric ↦ ?_, fun metric ↦ ?_, h.store.row⟩
      · simp only [Decoder.apply, Store.apply, Store.get_set, h.store.get metric hmetric]
      · simp only [Decoder.apply, Store.apply, Store.get_set]
        split_ifs
        · rfl
        · exact h.store.isSome_get metric
    | publishCell m index x =>
      refine ⟨h.store.get, h.store.isSome_get, fun metric ↦ ?_⟩
      simp only [Decoder.apply, Store.apply, Store.row_setCell, h.store.row]
    | keep | note => exact h.store
  | @publish m hm v w =>
    refine ⟨⟨fun metric hmetric ↦ ?_, fun metric ↦ ?_, h.store.row⟩, h.highBytes⟩
    · have hne : metric ≠ m := by
        rintro rfl
        exact hmetric hm
      simp only [Decoder.apply, Store.apply, Store.get_set, if_neg hne, h.store.get metric hmetric]
    · simp only [Decoder.apply, Store.apply, Store.get_set]
      split_ifs
      · rfl
      · exact h.store.isSome_get metric
  | note => exact ⟨h.store, h.highBytes⟩

theorem SameButPercentage.applyAll (h : d.SameButPercentage e) {fs gs : List Effect}
    (hsame : List.Forall₂ Effect.SameButPercentage fs gs) :
    (d.applyAll fs).SameButPercentage (e.applyAll gs) := by
  induction hsame generalizing d e with
  | nil => exact h
  | cons hhead _ ih => exact ih (h.apply hhead)

/-- Whether a charge is under way does not come from the percentage. -/
theorem SameButPercentage.flag (h : d.SameButPercentage e) :
    d.store.flag .chargeInProgress = e.store.flag .chargeInProgress := by
  rw [Store.flag, Store.flag, h.store.get _ (by simp [Metric.ShowsPercentage])]

theorem SameButPercentage.number (h : d.SameButPercentage e) (metric : Metric)
    (hmetric : ¬metric.ShowsPercentage) : d.store.number metric = e.store.number metric := by
  rw [Store.number, Store.number, Store.number?, Store.number?, h.store.get metric hmetric]

/-- A reading writes the same metrics under any window. -/
theorem forall₂_stateOfChargeEffects (h : d.SameButPercentage e) (raw : UInt16) :
    List.Forall₂ Effect.SameButPercentage (d.stateOfChargeEffects raw)
      (e.stateOfChargeEffects raw) := by
  rw [stateOfChargeEffects, stateOfChargeEffects, h.flag]
  refine List.rel_append (.cons (.same _) ?_) (.cons ?_ (.cons ?_ .nil))
  · split_ifs
    · exact .cons (.publish (.inr (.inr rfl)) _ _) .nil
    · exact .nil
  · exact .publish (.inl rfl) _ _
  · exact .publish (.inr (.inl rfl)) _ _

/-- A status starts a charge in both decoders or in neither; at its end the two may disagree on
whether the charge is done. -/
theorem forall₂_statusEffects (h : d.SameButPercentage e) (status : Status) :
    List.Forall₂ Effect.SameButPercentage (d.store.statusEffects status)
      (e.store.statusEffects status) := by
  cases status with
  | startingCharge | charging => exact forall₂_sameButPercentage_refl _
  | rapidCharging =>
    have hcurrent := h.number .current (by simp [Metric.ShowsPercentage])
    have hpower := h.number .power (by simp [Metric.ShowsPercentage])
    have hvoltage := h.number .busVoltage (by simp [Metric.ShowsPercentage])
    simp only [Store.statusEffects, hcurrent, hpower, hvoltage]
    exact forall₂_sameButPercentage_refl _
  | _ =>
    simp only [Store.statusEffects, h.flag]
    split_ifs
    · exact .cons (.note _ _) (.cons (.same _) (.cons (.publish (.inr (.inr rfl)) _ _)
        (.cons (.same _) .nil)))
    · exact .nil

/-- Effects of a message agree but for the percentage. -/
theorem forall₂_messageEffects (h : d.SameButPercentage e) (message : Message) :
    List.Forall₂ Effect.SameButPercentage (d.messageEffects message)
      (e.messageEffects message) := by
  have hrow : ∀ (metric : CellMetric) (block : BlockIndex) (x : Single),
      d.rowWith metric block x = e.rowWith metric block x := by
    intro metric block x
    rw [rowWith, rowWith, h.store.row]
  have hbyte : ∀ block, d.highByte? block = e.highByte? block := by
    intro block
    rw [highByte?, highByte?, h.highBytes]
  cases message with
  | stateOfCharge raw => exact forall₂_stateOfChargeEffects h raw
  | status status => exact forall₂_statusEffects h status
  | busVoltage raw =>
    rw [messageEffects, messageEffects, h.number _ (by simp [Metric.ShowsPercentage])]
    exact forall₂_sameButPercentage_refl _
  | current raw =>
    rw [messageEffects, messageEffects, h.number _ (by simp [Metric.ShowsPercentage])]
    exact forall₂_sameButPercentage_refl _
  | firstHalf block leastCell high =>
    rw [messageEffects, messageEffects, firstHalfEffects, firstHalfEffects, hrow]
    exact forall₂_sameButPercentage_refl _
  | secondHalf block low coldest warmest board =>
    simp only [messageEffects, greatestEffects, temperatureEffects, hrow, hbyte]
    exact forall₂_sameButPercentage_refl _
  | _ => exact forall₂_sameButPercentage_refl _

/-- Frames that are not accepted have the same effects in both. -/
theorem forall₂_effects (h : d.SameButPercentage e) (frame : Frame) :
    List.Forall₂ Effect.SameButPercentage (d.effects frame) (e.effects frame) := by
  rw [effects, effects]
  rcases Message.ofFrame frame with rejection | message
  · cases rejection <;> exact forall₂_sameButPercentage_refl _
  · exact .cons (.same _) (forall₂_messageEffects h message)

/-- By induction on the frames: a frame keeps the decoders in step, so the next one has the same
effects in both again. -/
theorem forall₂_trace (h : d.SameButPercentage e) (frames : List Frame) :
    List.Forall₂ Effect.SameButPercentage (d.trace frames) (e.trace frames) := by
  induction frames generalizing d e with
  | nil => exact .nil
  | cons frame rest ih =>
    have heffects := forall₂_effects h frame
    exact List.rel_append heffects (ih (h.applyAll heffects))

/-- What two decoders that differ in their parameters have in common after frames. -/
structure InStep (d e : Decoder) (frames : List Frame) : Prop where
  same : (d.run frames).SameButPercentage (e.run frames)
  /-- The effects so far are the same, one by one, but for the percentage. -/
  trace : List.Forall₂ Effect.SameButPercentage (d.trace frames) (e.trace frames)
  writes_iff (metric : Metric) :
    WritesMetric (d.trace frames) metric ↔ WritesMetric (e.trace frames) metric

/-- The parameters decide the percentage, the ideal range and the state of a charge, but not
whether these are written, and they have no part in anything else: on whatever store and kept
bytes, two decoders that differ in their parameters go in step after every first part of the
frames. -/
theorem inStep_of_parameters (store : Store) (highBytes : Vector (Option UInt8) blockCount)
    (p q : Parameters) (frames : List Frame) (count : Nat) :
    InStep ⟨store, p, highBytes⟩ ⟨store, q, highBytes⟩ (frames.take count) := by
  have hbefore : SameButPercentage ⟨store, p, highBytes⟩ ⟨store, q, highBytes⟩ :=
    ⟨⟨fun _ _ ↦ rfl, fun _ ↦ rfl, fun _ ↦ rfl⟩, rfl⟩
  have htrace := forall₂_trace hbefore (frames.take count)
  refine ⟨?_, htrace, writesMetric_congr htrace⟩
  rw [run_eq_applyAll_trace, run_eq_applyAll_trace]
  exact hbefore.applyAll htrace

/-- A charge that ends at a reading of 93 % is done in one window and was stopped in the other. -/
example :
    let frames : List Frame :=
      [⟨0xb048, 0, [0x06]⟩, ⟨0xb046, 0, [0x03, 0xa2]⟩, ⟨0xb048, 0, [0x01]⟩]
    let label (updated : Bool) :=
      ((start ⟨fun _ ↦ some updated⟩ .empty).run frames).store.get .chargeState
    label true = some (.label "done") ∧ label false = some (.label "stopped") := by decide

end Decoder

end BatteryTelemetry
