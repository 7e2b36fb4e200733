import BatteryTelemetry.Document.Snapshot

/-!
# Console lines

The values of a store for a person to read: a line for each published metric and for each row, in
catalogue order, with the name in a column of its own and the unit at the end.
-/

namespace BatteryTelemetry

def nameWidth : Nat := 20

def consoleLine (name value unit : String) : String :=
  let gap := String.ofList (List.replicate (nameWidth - name.length) ' ')
  s!"{name}{gap} {value} {unit}"

/-- A value in a row to a thousandth, or a dash for an unknown block. -/
def slotText : Option Single → String
  | none => "-"
  | some x => x.fixed 3

def CellRow.text (row : CellRow) : String :=
  "[" ++ String.intercalate ", " (row.slots.map slotText) ++ "]"

/-- The lines of all published metrics. -/
def Store.consoleLines (store : Store) : List String :=
  store.written.map (fun entry ↦ consoleLine entry.1.name entry.2.text entry.1.unit) ++
    store.writtenRows.map fun entry ↦ consoleLine entry.1.name entry.2.text entry.1.unit

end BatteryTelemetry
