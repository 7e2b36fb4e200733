import BatteryTelemetry.Broker.Settings
import BatteryTelemetry.Document.Leaf
import BatteryTelemetry.Document.Snapshot

/-!
# Messages to a broker

The metrics of a store as messages, in one of two formats: a message for each value under a topic
of its own, or one message with a document of all values. A topic with a wildcard in it cannot be
published to. Separate messages under such a topic are passed over; a document is refused.
-/

namespace BatteryTelemetry.Broker

/-- How metrics are put into messages. -/
inductive Format where
  | simple
  | json
deriving DecidableEq, Repr

/-- A message; the broker does not keep it for later readers. -/
structure Message where
  topic : String
  payload : String
deriving DecidableEq, Repr

def isPublishable (topic : String) : Bool := topic.toList.all fun c ↦ c ≠ '+' && c ≠ '#'

/-- The payload of a leaf. Nothing is said of an unknown value, and a text stands without quotes. -/
def payload? : Json → Option String
  | .null => none
  | .text s => some s
  | other => some (other.compact .wide)

def leafMessage? (topic : String) (leaf : Json.Path × Json) : Option Message :=
  (payload? leaf.2).map fun payload ↦ ⟨String.intercalate "/" (topic :: leaf.1), payload⟩

/-- A message for each known value, in the order of the names. -/
def simpleMessages (topic : String) (store : Store) : List Message :=
  ((Json.object store.snapshot).leaves.filterMap (leafMessage? topic)).filter
    (isPublishable ·.topic)

def timestamp : String := "timestamp"

def document (time : String) (store : Store) : Json :=
  .object (Json.insertField timestamp (.text time) store.snapshot)

structure Refusal where
  topic : String
deriving DecidableEq, Repr

def Refusal.message (refusal : Refusal) : String :=
  s!"Failed to publish message to MQTT topic: {refusal.topic}"

def messages (format : Format) (topic time : String) (store : Store) :
    Except Refusal (List Message) :=
  match format with
  | .simple => .ok (simpleMessages topic store)
  | .json =>
    if isPublishable topic then .ok [⟨topic, (document time store).compact .wide⟩]
    else .error ⟨topic⟩

end BatteryTelemetry.Broker
