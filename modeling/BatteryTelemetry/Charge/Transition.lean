import BatteryTelemetry.Bus.Reading
import BatteryTelemetry.Decoder.Effect

/-!
# Charge transitions

What a status report does to the charge metrics. Nothing is remembered besides the published
values: whether a charge is in progress and the percentage at its end are read from the store.
Whether a charge in progress tops off is decided when a percentage arrives, not here.
-/

namespace BatteryTelemetry

/-- The effects of a status report. A rapid charge takes over the battery's current, power and
voltage, the current with its sign turned; a status that is not a charging one ends a charge in
progress and has no effect otherwise. -/
def Store.statusEffects (store : Store) (status : Status) : List Effect :=
  match status with
  | .startingCharge | .charging =>
    [.flag .chargeInProgress true, .label .chargeType ChargeType.alternating.label]
  | .rapidCharging =>
    [.flag .chargeInProgress true, .label .chargeType ChargeType.rapid.label,
      .number .chargeCurrent (-store.number .current),
      .number .chargePower (store.number .power),
      .number .chargeCurrentLimit rapidCurrentLimit,
      .number .chargeVoltage (store.number .busVoltage)]
  | _ =>
    if store.flag .chargeInProgress then
      let state := ChargeState.afterCharge (store.number .stateOfCharge)
      [.note (.chargeEnded status state), .label .chargeType ChargeType.notCharging.label,
        .label .chargeState state.label, .flag .chargeInProgress false]
    else []

end BatteryTelemetry
