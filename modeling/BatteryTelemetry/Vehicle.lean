import BatteryTelemetry.Parameters
import BatteryTelemetry.Yaml.Record

/-!
# Vehicles

What is known about a vehicle comes from a settings file, which may leave everything out.
-/

namespace BatteryTelemetry

structure Vehicle where
  /-- The battery management unit runs the updated firmware. -/
  updatedFirmware : Bool := true
deriving DecidableEq, Repr

/-- A vehicle sets the one parameter that concerns it. -/
def Vehicle.parameters (vehicle : Vehicle) : Parameters :=
  ⟨fun name ↦ if name = Parameters.updatedFirmware then some vehicle.updatedFirmware else none⟩

/-- The parameter is always set, so no default is ever used. -/
@[simp]
theorem Vehicle.get_updatedFirmware (vehicle : Vehicle) (default : Bool) :
    vehicle.parameters.get Parameters.updatedFirmware default = vehicle.updatedFirmware := by
  simp [parameters, Parameters.get]

def Vehicle.field : String := "updated_bmu"

def Vehicle.ofRecord (record : Yaml.Record) : Yaml.Loaded Vehicle := do
  let flag ← record.foldlM (fun flag (name, node) ↦
    if name = Vehicle.field then Yaml.givenOnce flag (Yaml.needed node.flag?) else return flag) none
  return ⟨flag.getD true⟩

def Vehicle.load (files : Files) (name : String) : Yaml.Loaded Vehicle :=
  Yaml.load files name Vehicle.ofRecord

end BatteryTelemetry
