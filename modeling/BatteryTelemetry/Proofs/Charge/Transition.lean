import BatteryTelemetry.Charge.Transition
import Mathlib.Tactic.SplitIfs

/-!
# What a status report does

A status report starts a charge of one of two types, ends the charge in progress or has no effect.
Each of the four is one case of `Store.statusEffects_cases`, with what the status stands for and
the flag under which it happens.
-/

namespace BatteryTelemetry

def Status.chargeType : Status → ChargeType
  | .startingCharge | .charging => .alternating
  | .rapidCharging => .rapid
  | _ => .notCharging

theorem Status.chargeType_cases {status : Status} (h : status.isCharging = true) :
    status.chargeType = .alternating ∨ status.chargeType = .rapid := by
  cases status <;> simp_all [chargeType, isCharging]

/-- Statuses without a charge have one type together. -/
theorem Status.chargeType_eq_notCharging {status : Status} (h : status.isCharging = false) :
    status.chargeType = .notCharging := by
  cases status <;> simp_all [chargeType, isCharging]

/-- Three codes stand for the charging statuses, each for its own. -/
theorem Status.ofCode_cases (code : UInt8) :
    code = 0x06 ∧ ofCode code = charging ∨ code = 0x07 ∧ ofCode code = rapidCharging ∨
      code = 0x0c ∧ ofCode code = startingCharge ∨
      (code ≠ 0x06 ∧ code ≠ 0x07 ∧ code ≠ 0x0c) ∧ (ofCode code).isCharging = false := by
  by_cases h6 : code = 0x06
  · subst h6
    exact .inl ⟨rfl, rfl⟩
  by_cases h7 : code = 0x07
  · subst h7
    exact .inr (.inl ⟨rfl, rfl⟩)
  by_cases hc : code = 0x0c
  · subst hc
    exact .inr (.inr (.inl ⟨rfl, rfl⟩))
  refine .inr (.inr (.inr ⟨⟨h6, h7, hc⟩, ?_⟩))
  simp only [ofCode, if_neg h6, if_neg h7, if_neg hc]
  split_ifs <;> rfl

namespace Store

def alternatingEffects : List Effect :=
  [.flag .chargeInProgress true, .label .chargeType ChargeType.alternating.label]

/-- The effects of a rapid charge, which takes over the battery's readings. -/
def rapidEffects (store : Store) : List Effect :=
  [.flag .chargeInProgress true, .label .chargeType ChargeType.rapid.label,
    .number .chargeCurrent (-store.number .current),
    .number .chargePower (store.number .power),
    .number .chargeCurrentLimit rapidCurrentLimit,
    .number .chargeVoltage (store.number .busVoltage)]

def endEffects (store : Store) (status : Status) : List Effect :=
  let state := ChargeState.afterCharge (store.number .stateOfCharge)
  [.note (.chargeEnded status state), .label .chargeType ChargeType.notCharging.label,
    .label .chargeState state.label, .flag .chargeInProgress false]

/-- The type of charge that a status stands for decides its effects. -/
theorem statusEffects_eq (store : Store) (status : Status) :
    store.statusEffects status =
      match status.chargeType with
      | .alternating => alternatingEffects
      | .rapid => store.rapidEffects
      | .notCharging => if store.flag .chargeInProgress then store.endEffects status else [] := by
  cases status <;> rfl

/-- Every proof about a status splits into these cases. -/
theorem statusEffects_cases (store : Store) (status : Status) :
    status.isCharging = true ∧ status.chargeType = .alternating ∧
        store.statusEffects status = alternatingEffects ∨
      status.isCharging = true ∧ status.chargeType = .rapid ∧
        store.statusEffects status = store.rapidEffects ∨
      status.isCharging = false ∧ status.chargeType = .notCharging ∧
        store.flag .chargeInProgress = true ∧
        store.statusEffects status = store.endEffects status ∨
      status.isCharging = false ∧ status.chargeType = .notCharging ∧
        store.flag .chargeInProgress = false ∧ store.statusEffects status = [] := by
  cases hflag : store.flag .chargeInProgress <;> cases status <;>
    simp [statusEffects, alternatingEffects, rapidEffects, endEffects, hflag, Status.isCharging,
      Status.chargeType]

end Store

end BatteryTelemetry
