/-!
# Vehicle parameters

The decoder is configured by named yes-or-no parameters. A parameter that is not set leaves the
decision to whoever asks.
-/

namespace BatteryTelemetry

structure Parameters where
  lookup? : String → Option Bool

namespace Parameters

def unset : Parameters := ⟨fun _ ↦ none⟩

def get (parameters : Parameters) (name : String) (default : Bool) : Bool :=
  (parameters.lookup? name).getD default

/-- The name of the parameter that selects the window of the updated firmware. -/
def updatedFirmware : String := "updatedbmu"

end Parameters

end BatteryTelemetry
