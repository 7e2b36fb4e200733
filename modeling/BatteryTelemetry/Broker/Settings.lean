import BatteryTelemetry.Duration
import BatteryTelemetry.Text.Quoted
import BatteryTelemetry.Yaml.Record

/-!
# Broker settings

Where an MQTT broker is and how it is spoken to. A settings file must name the host and may leave
the rest out. What the protocol does not allow is refused in a fixed order: first the quality of
service, then the keep-alive time, then the client's identifier.
-/

namespace BatteryTelemetry.Broker

/-- How often a message arrives. -/
inductive Quality where
  | atMostOnce
  | atLeastOnce
  | exactlyOnce
deriving DecidableEq, Repr

namespace Quality

def ofCode? : Nat → Option Quality
  | 0 => some atMostOnce
  | 1 => some atLeastOnce
  | 2 => some exactlyOnce
  | _ => none

def code : Quality → Nat
  | atMostOnce => 0
  | atLeastOnce => 1
  | exactlyOnce => 2

@[simp]
theorem ofCode?_code (quality : Quality) : ofCode? quality.code = some quality := by
  cases quality <;> rfl

end Quality

structure Settings where
  host : String
  tcpPort : Nat
  username : Option String
  password : Option String
  topic : String
  quality : Nat
  clientId : String
  keepAlive : Duration
deriving DecidableEq, Repr

/-- A way to speak to a broker that the protocol allows. -/
structure Connection where
  host : String
  tcpPort : Nat
  credentials : Option (String × String)
  /-- What the names of all topics begin with. -/
  topic : String
  quality : Quality
  clientId : String
  keepAlive : Duration
deriving DecidableEq, Repr

inductive Fault where
  | load (fault : Yaml.LoadFault)
  | quality (code : Nat)
  | keepAlive
  | clientId (name : String)
deriving DecidableEq, Repr

/-- The messages about a settings file, the cause behind the effect. -/
def Fault.messages (file : String) : Fault → List String
  | load (.file fault) =>
    [s!"Cannot open MQTT config file {Text.quoted file.toList}", fault.message]
  | load .content | load .uncountable =>
    [s!"Cannot read MQTT config from file: {Text.quoted file.toList}"]
  | quality code => [s!"Invalid MQTT QoS {code}"]
  | keepAlive => ["MQTT keep_alive must be at least 5s"]
  | clientId name => [s!"Invalid MQTT client_id {Text.quoted name.toList}"]

namespace Settings

/-- Where brokers listen for connections without encryption. -/
def defaultTcpPort : Nat := 1883

def defaultTopic : String := "mgev"

def defaultKeepAlive : Duration := .ofSeconds 30

/-- The shortest time after which a connection may be probed. -/
def leastKeepAlive : Duration := .ofSeconds 5

/-- The identifier of a client that the settings do not name, with a suffix that tells clients
apart. -/
def defaultClientId (suffix : String) : String := s!"mgev-bms-{suffix}"

def duration (node : Yaml.Node) : Yaml.Loaded Duration := do
  match Duration.read (← Yaml.needed node.text?).toList with
  | .ok duration => return duration
  | .error .refused => throw .content
  | .error .uncountable => throw .uncountable

/-- What the fields that have been read say. -/
structure Draft where
  host : Option String := none
  tcpPort : Option Nat := none
  username : Option (Option String) := none
  password : Option (Option String) := none
  topic : Option String := none
  quality : Option Nat := none
  clientId : Option String := none
  keepAlive : Option Duration := none

namespace Draft

def add (draft : Draft) (name : String) (node : Yaml.Node) : Yaml.Loaded Draft := do
  let once {α : Type} (known value : Option α) := Yaml.givenOnce known (Yaml.needed value)
  match name with
  | "host" => return { draft with host := ← once draft.host node.text? }
  | "port" => return { draft with tcpPort := ← once draft.tcpPort (node.natural? 0xffff) }
  | "username" => return { draft with username := ← once draft.username node.textOrNone? }
  | "password" => return { draft with password := ← once draft.password node.textOrNone? }
  | "topic" => return { draft with topic := ← once draft.topic node.text? }
  | "qos" => return { draft with quality := ← once draft.quality (node.natural? 0xff) }
  | "client_id" => return { draft with clientId := ← once draft.clientId node.text? }
  | "keep_alive" =>
    return { draft with keepAlive := ← Yaml.givenOnce draft.keepAlive (duration node) }
  | _ => return draft

def settings (draft : Draft) (suffix : String) : Yaml.Loaded Settings := do
  return {
    host := ← Yaml.needed draft.host
    tcpPort := draft.tcpPort.getD defaultTcpPort
    username := draft.username.getD none
    password := draft.password.getD none
    topic := draft.topic.getD defaultTopic
    quality := draft.quality.getD 0
    clientId := draft.clientId.getD (defaultClientId suffix)
    keepAlive := draft.keepAlive.getD defaultKeepAlive }

end Draft

def ofRecord (suffix : String) (record : Yaml.Record) : Yaml.Loaded Settings := do
  let draft ← record.foldlM (fun draft (name, node) ↦ Draft.add draft name node) {}
  draft.settings suffix

/-- The name and the password, which are sent together or not at all. Two empty ones say
nothing. -/
def credentials (settings : Settings) : Option (String × String) :=
  match settings.username, settings.password with
  | some username, some password =>
    if username.isEmpty && password.isEmpty then none else some (username, password)
  | _, _ => none

def isClientId (name : String) : Bool := !name.isEmpty && name.toList.head? ≠ some ' '

def connection (settings : Settings) : Except Fault Connection :=
  match Quality.ofCode? settings.quality with
  | none => .error (.quality settings.quality)
  | some quality =>
    if settings.keepAlive.seconds < leastKeepAlive.seconds then .error .keepAlive
    else if !isClientId settings.clientId then .error (.clientId settings.clientId)
    else .ok
      { host := settings.host, tcpPort := settings.tcpPort, credentials := settings.credentials,
        topic := settings.topic, quality, clientId := settings.clientId,
        keepAlive := settings.keepAlive }

end Settings

def Connection.load (files : Files) (suffix name : String) : Except Fault Connection :=
  match Yaml.load files name (Settings.ofRecord suffix) with
  | .error fault => .error (.load fault)
  | .ok settings => settings.connection

end BatteryTelemetry.Broker
