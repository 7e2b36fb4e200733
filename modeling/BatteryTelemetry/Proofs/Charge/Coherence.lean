import BatteryTelemetry.Proofs.Charge.Report
import BatteryTelemetry.Proofs.Charge.Threshold
import BatteryTelemetry.Proofs.Decoder.Reachable

/-!
# Coherence of the charge metrics

The flag, the type and the state of a charge are written by different messages, and the state of a
charge outlives it. Still they agree in every reachable state: the flag and the type name one of
three phases, and a state that says how a charge is going stands beside a raised flag and the
percentage that led to it. A charge that tops off is therefore done when it ends.
-/

namespace BatteryTelemetry

inductive ChargePhase where
  | never
  | underWay
  | ended

def ChargePhase.Holds (store : Store) : ChargePhase → Prop
  | never => store.get .chargeInProgress = none ∧ store.get .chargeType = none ∧
      store.get .chargeState = none
  | underWay => store.get .chargeInProgress = some (.flag true) ∧
      (store.get .chargeType = some (.label "type2") ∨
        store.get .chargeType = some (.label "ccs"))
  | ended => store.get .chargeInProgress = some (.flag false) ∧
      store.get .chargeType = some (.label "not charging") ∧
      (store.get .chargeState = some (.label "done") ∨
        store.get .chargeState = some (.label "stopped"))

namespace ChargeState

/-- The published text tells which state it stands for. -/
theorem label_injective {s t : ChargeState} (h : s.label = t.label) : s = t := by
  cases s <;> cases t <;> first | rfl | exact absurd h (by decide)

theorem afterCharge_cases (percentage : Single) :
    afterCharge percentage = done ∨ afterCharge percentage = stopped := by
  unfold afterCharge
  split_ifs <;> simp

/-- A charge that is not in its last phase is below the percentage at which it tops off. -/
theorem lt_of_whileCharging {percentage : Single} (h : whileCharging percentage = charging) :
    percentage < topsOffFrom := by
  unfold whileCharging at h
  split_ifs at h with hlt
  exact hlt

theorem le_of_whileCharging {percentage : Single} (hnan : percentage ≠ .nan)
    (h : whileCharging percentage = toppingOff) : topsOffFrom ≤ percentage := by
  unfold whileCharging at h
  split_ifs at h with hlt
  exact (Single.not_lt_iff hnan (by decide)).mp hlt

/-- A charge that has topped off ends as done, since done begins at a lower percentage. -/
theorem afterCharge_of_topsOffFrom_le {percentage : Single} (h : topsOffFrom ≤ percentage) :
    afterCharge percentage = done :=
  if_pos (Single.le_trans (show doneFrom ≤ topsOffFrom by decide) h)

end ChargeState

namespace Store

/-- The charge metrics agree with each other and with the percentage. -/
structure Coherent (store : Store) : Prop where
  exists_phase : ∃ phase : ChargePhase, phase.Holds store
  charging : store.get .chargeState = some (.label "charging") →
    store.get .chargeInProgress = some (.flag true) ∧
      ∃ x, store.get .stateOfCharge = some (.number x) ∧ x < .ofRatio 199 2
  toppingOff : store.get .chargeState = some (.label "topoff") →
    store.get .chargeInProgress = some (.flag true) ∧
      ∃ x, store.get .stateOfCharge = some (.number x) ∧ .ofRatio 199 2 ≤ x

theorem coherent_empty : Store.empty.Coherent where
  exists_phase := ⟨.never, by simp [ChargePhase.Holds]⟩
  charging h := by simp at h
  toppingOff h := by simp at h

/-- After a charge only the state of its end is left to be shown. -/
theorem coherent_of_ended {store : Store} {state : ChargeState}
    (hprogress : store.get .chargeInProgress = some (.flag false))
    (htype : store.get .chargeType = some (.label ChargeType.notCharging.label))
    (hstate : store.get .chargeState = some (.label state.label))
    (hend : state = .done ∨ state = .stopped) : store.Coherent := by
  have hlabel : ∀ other : ChargeState,
      store.get .chargeState = some (.label other.label) → state = other := by
    intro other hother
    rw [hstate] at hother
    exact ChargeState.label_injective (by simpa using hother)
  refine ⟨⟨.ended, hprogress, htype, ?_⟩, fun h ↦ ?_, fun h ↦ ?_⟩
  · rcases hend with rfl | rfl <;> simp [hstate, ChargeState.label]
  · obtain rfl := hlabel .charging h
    simp at hend
  · obtain rfl := hlabel .toppingOff h
    simp at hend

/-- What does not change the four metrics keeps them coherent. -/
theorem Coherent.congr {s t : Store} (h : s.Coherent)
    (hsame : ∀ metric : Metric, metric.IsCharge ∨ metric = .stateOfCharge →
      t.get metric = s.get metric) : t.Coherent := by
  have hflag := hsame .chargeInProgress (by simp [Metric.IsCharge])
  have htype := hsame .chargeType (by simp [Metric.IsCharge])
  have hstate := hsame .chargeState (by simp [Metric.IsCharge])
  have hsoc := hsame .stateOfCharge (by simp)
  obtain ⟨phase, hphase⟩ := h.exists_phase
  refine ⟨⟨phase, ?_⟩, ?_, ?_⟩
  · cases phase <;> simpa [ChargePhase.Holds, hflag, htype, hstate] using hphase
  · simpa [hflag, hstate, hsoc] using h.charging
  · simpa [hflag, hstate, hsoc] using h.toppingOff

end Store

namespace Decoder

variable {decoder : Decoder}

theorem coherent_receive_status (h : decoder.store.Coherent) (status : Status) :
    (decoder.receive (.status status)).store.Coherent := by
  have hprogress := chargeInProgress_receive_status decoder status
  have htype := chargeType_receive_status decoder status
  have hstate := chargeState_receive_status decoder status
  have hsoc := stateOfCharge_receive_status decoder status
  cases hstatus : status.isCharging with
  | true =>
    simp only [hstatus, if_true, true_or, Bool.true_eq_false, false_and, if_false]
      at hprogress htype hstate
    refine ⟨⟨.underWay, hprogress, ?_⟩, ?_, ?_⟩
    · rw [htype]
      rcases Status.chargeType_cases hstatus with heq | heq <;> simp [heq, ChargeType.label]
    · rw [hstate, hsoc]
      exact fun hlabel ↦ ⟨hprogress, (h.charging hlabel).2⟩
    · rw [hstate, hsoc]
      exact fun hlabel ↦ ⟨hprogress, (h.toppingOff hlabel).2⟩
  | false =>
    cases hflag : decoder.store.flag .chargeInProgress with
    | true =>
      simp only [hstatus, hflag, Bool.false_eq_true, if_false, if_true, or_true, and_self,
        Status.chargeType_eq_notCharging hstatus] at hprogress htype hstate
      exact Store.coherent_of_ended hprogress htype hstate (ChargeState.afterCharge_cases _)
    | false =>
      simp only [hstatus, hflag, Bool.false_eq_true, if_false, or_self, and_false]
        at hprogress htype hstate
      apply h.congr
      rintro metric ((rfl | rfl | rfl) | rfl)
      · exact hprogress
      · exact htype
      · exact hstate
      · exact hsoc

/-- While a charge is under way, the state goes with the percentage; otherwise a percentage cannot
disturb what the state says. -/
theorem coherent_receive_stateOfCharge (h : decoder.store.Coherent) (raw : UInt16) :
    (decoder.receive (.stateOfCharge raw)).store.Coherent := by
  have hprogress := chargeInProgress_receive_stateOfCharge decoder raw
  have htype := chargeType_receive_stateOfCharge decoder raw
  have hstate := chargeState_receive_stateOfCharge decoder raw
  have hsoc := stateOfCharge_receive_stateOfCharge decoder raw
  cases hflag : decoder.store.flag .chargeInProgress with
  | true =>
    have hraised : decoder.store.get .chargeInProgress = some (.flag true) := by
      simpa [Store.flag] using hflag
    rw [hraised] at hprogress
    simp only [hflag, if_true] at hstate
    refine ⟨⟨.underWay, hprogress, ?_⟩, ?_, ?_⟩
    · rw [htype]
      obtain ⟨phase, hphase⟩ := h.exists_phase
      cases phase <;> simp_all [ChargePhase.Holds]
    · rw [hstate, hsoc]
      intro hlabel
      refine ⟨hprogress, _, rfl, ChargeState.lt_of_whileCharging ?_⟩
      exact ChargeState.label_injective (t := .charging) (Value.label.inj (Option.some.inj hlabel))
    · rw [hstate, hsoc]
      intro hlabel
      refine ⟨hprogress, _, rfl, ChargeState.le_of_whileCharging ?_ ?_⟩
      · exact ChargeWindow.scale_ne_nan _ _
      · exact ChargeState.label_injective (t := .toppingOff)
          (Value.label.inj (Option.some.inj hlabel))
  | false =>
    have hlowered : decoder.store.get .chargeInProgress ≠ some (.flag true) := by
      simpa [Store.flag] using hflag
    simp only [hflag, Bool.false_eq_true, if_false] at hstate
    refine ⟨?_, ?_, ?_⟩
    · obtain ⟨phase, hphase⟩ := h.exists_phase
      refine ⟨phase, ?_⟩
      cases phase <;> simpa [ChargePhase.Holds, hprogress, htype, hstate] using hphase
    · rw [hstate]
      exact fun hlabel ↦ absurd (h.charging hlabel).1 hlowered
    · rw [hstate]
      exact fun hlabel ↦ absurd (h.toppingOff hlabel).1 hlowered

theorem coherent_receive (h : decoder.store.Coherent) (message : Message) :
    (decoder.receive message).store.Coherent := by
  cases message with
  | status status => exact coherent_receive_status h status
  | stateOfCharge raw => exact coherent_receive_stateOfCharge h raw
  | _ =>
    exact h.congr fun metric hmetric ↦
      get_receive_of_pid_ne decoder (by simp [Message.pid]) (by simp [Message.pid]) hmetric

/-- What each message keeps holds in every reachable state. -/
theorem Reachable.coherent (h : Reachable decoder) : decoder.store.Coherent :=
  h.store_invariant Store.coherent_empty fun _ message hcoherent ↦
    coherent_receive hcoherent message

/-- A charge that tops off is done when a status ends it. -/
theorem chargeState_receive_status_of_toppingOff (h : decoder.store.Coherent)
    (htop : decoder.store.get .chargeState = some (.label "topoff"))
    {status : Status} (hstatus : status.isCharging = false) :
    (decoder.receive (.status status)).store.get .chargeState =
      some (.label "done") := by
  obtain ⟨hprogress, x, hsoc, hx⟩ := h.toppingOff htop
  have hflag : decoder.store.flag .chargeInProgress = true := by simp [Store.flag, hprogress]
  rw [chargeState_receive_status, if_pos ⟨hstatus, hflag⟩, Store.number_of_get_eq_some hsoc,
    ChargeState.afterCharge_of_topsOffFrom_le hx]
  rfl

end Decoder

/-- The three phases exclude each other. -/
theorem ChargePhase.eq_of_holds {store : Store} {p q : ChargePhase} (hp : p.Holds store)
    (hq : q.Holds store) : p = q := by
  have hprogress : ∀ phase : ChargePhase, phase.Holds store → store.get .chargeInProgress =
      match phase with
      | never => none
      | underWay => some (.flag true)
      | ended => some (.flag false) := by
    rintro (_ | _ | _) h <;> exact h.1
  have heq := (hprogress p hp).symm.trans (hprogress q hq)
  cases p <;> cases q <;> first | rfl | simp at heq

/-- In every reachable state the charge metrics are in one phase and agree with the percentage, and
whatever status ends a charge that tops off, in a frame or without one, the charge is done. -/
theorem Decoder.Reachable.charge_coherent {decoder : Decoder} (h : Reachable decoder) :
    (∃! phase : ChargePhase, phase.Holds decoder.store) ∧ decoder.store.Coherent ∧
      (decoder.store.get .chargeState = some (.label "topoff") →
        (∀ status : Status, status.isCharging = false →
          (decoder.report status).store.get .chargeState =
            some (.label "done")) ∧
        ∀ frame : Frame, frame.Answers .status →
          (Status.ofCode (frame.byte 0)).isCharging = false →
            (decoder.dispatch frame).store.get .chargeState =
              some (.label "done")) := by
  have hcoherent := h.coherent
  obtain ⟨phase, hphase⟩ := hcoherent.exists_phase
  have hunique := fun other hother ↦ ChargePhase.eq_of_holds (p := other) hother hphase
  refine ⟨⟨phase, hphase, hunique⟩, hcoherent, fun htop ↦ ⟨?_, ?_⟩⟩
  · intro status hstatus
    rw [report_eq_receive]
    exact chargeState_receive_status_of_toppingOff hcoherent htop hstatus
  · intro frame hanswers hstatus
    rw [dispatch_of_status decoder hanswers]
    exact chargeState_receive_status_of_toppingOff hcoherent htop hstatus

/-- A percentage of a charge under way lets it top off, and any other status then ends it. -/
theorem Decoder.charge_coherent_while_toppingOff :
    let decoder := (Decoder.start .unset .empty).run
      [⟨0xb048, 0, [0x06]⟩, ⟨0xb046, 0, [0x03, 0xa8]⟩]
    decoder.store.get .chargeState = some (.label "topoff") ∧
      (∃! phase : ChargePhase, phase.Holds decoder.store) ∧ decoder.store.Coherent ∧
      ∀ status : Status, status.isCharging = false →
        (decoder.report status).store.get .chargeState =
          some (.label "done") := by
  intro decoder
  have htop : decoder.store.get .chargeState = some (.label "topoff") := by
    decide
  have hreachable : Reachable decoder := (Reachable.start .unset).run _
  obtain ⟨hphase, hcoherent, hend⟩ := Reachable.charge_coherent hreachable
  exact ⟨htop, hphase, hcoherent, (hend htop).1⟩

end BatteryTelemetry
