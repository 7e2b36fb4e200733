/-!
# Parameter identifiers

The battery management system answers polls for seventeen parameters, each with a 16-bit code.
Nine of them are the statistics of one cell block each. `ofCode_eq_some_iff` says that looking a
code up inverts `code`.
-/

namespace BatteryTelemetry

def blockCount : Nat := 9

/-- A cell block, counted from zero. -/
abbrev BlockIndex := Fin blockCount

/-- A parameter that the decoder understands. -/
inductive Pid where
  | cellBlock (block : BlockIndex)
  | busVoltage
  | current
  | packVoltage
  | stateOfCharge
  | status
  | coolantTemperature
  | stateOfHealth
  | rangeEstimate
deriving DecidableEq, Repr

namespace Pid

def code : Pid → UInt16
  | cellBlock block => 0xb0e1 + UInt16.ofNat block
  | busVoltage => 0xb041
  | current => 0xb043
  | packVoltage => 0xb042
  | stateOfCharge => 0xb046
  | status => 0xb048
  | coolantTemperature => 0xb05c
  | stateOfHealth => 0xb061
  | rangeEstimate => 0xb0b5

/-- Every parameter, the cell blocks first. -/
def all : List Pid :=
  (List.finRange blockCount).map cellBlock ++
    [busVoltage, current, packVoltage, stateOfCharge, status, coolantTemperature, stateOfHealth,
      rangeEstimate]

def ofCode? (code : UInt16) : Option Pid := all.find? fun pid ↦ pid.code == code

/-- What a person calls the parameter. Blocks are counted from one. -/
def description : Pid → String
  | cellBlock block => s!"cell block {block.val + 1} stats"
  | busVoltage => "battery bus voltage"
  | current => "battery current"
  | packVoltage => "battery pack voltage"
  | stateOfCharge => "state of charge"
  | status => "BMS status"
  | coolantTemperature => "battery coolant temperature"
  | stateOfHealth => "state of health"
  | rangeEstimate => "BMS range estimate"

def requiredBytes : Pid → Nat
  | cellBlock _ => 3
  | status => 1
  | coolantTemperature => 1
  | _ => 2

theorem mem_all (pid : Pid) : pid ∈ all := by
  cases pid with
  | cellBlock block => revert block; decide
  | _ => decide

/-- No two parameters are polled by one code. -/
theorem code_injective {p q : Pid} (h : p.code = q.code) : p = q := by
  have hall : ∀ p ∈ all, ∀ q ∈ all, p.code = q.code → p = q := by decide
  exact hall p (mem_all p) q (mem_all q) h

theorem ofCode_eq_some_iff {c : UInt16} {pid : Pid} : ofCode? c = some pid ↔ pid.code = c := by
  constructor
  · intro h
    simpa using List.find?_some h
  · rintro rfl
    cases h : ofCode? pid.code with
    | none =>
      have := List.find?_eq_none.1 h pid (mem_all pid)
      simp at this
    | some found =>
      have hfound : found.code = pid.code := by simpa using List.find?_some h
      rw [code_injective hfound]

end Pid

end BatteryTelemetry
