import BatteryTelemetry.Document.Json

/-!
# Leaves of documents

The parts of a document that have no parts themselves, each under its path: the names of fields and
the numbers of list items that lead to it.
-/

namespace BatteryTelemetry.Json

/-- Steps from a document to one of its parts. -/
abbrev Path := List String

def under (step : String) (leaf : Path × Json) : Path × Json := (step :: leaf.1, leaf.2)

mutual

/-- The leaves in the order of the document. -/
def leaves : Json → List (Path × Json)
  | list items => itemLeaves 0 items
  | object fields => fieldLeaves fields
  | leaf => [([], leaf)]

def itemLeaves (index : Nat) : List Json → List (Path × Json)
  | [] => []
  | item :: rest => (leaves item).map (under (toString index)) ++ itemLeaves (index + 1) rest

def fieldLeaves : List (String × Json) → List (Path × Json)
  | [] => []
  | (name, value) :: rest => (leaves value).map (under name) ++ fieldLeaves rest

end

end BatteryTelemetry.Json
