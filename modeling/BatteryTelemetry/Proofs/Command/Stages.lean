import BatteryTelemetry.Proofs.Capture.Lines
import BatteryTelemetry.Proofs.Command.Replay

/-!
# Stages of a request

A request goes through stages: the vehicle's file, the capture or the payload, and for a broker its
settings, what the protocol allows of them, and the messages. What is wrong at a stage is defined by
itself, whatever is wrong at the others. A run fails with the first failure (`failureOf_run`), and a
stage looks into its own file only (`failure?_congr`), so what is found later does not matter
(`decidedByStages`). A settings file that leaves out the client gets one that is always allowed, so
it does not matter either which one it is.
-/

namespace BatteryTelemetry.Command

def Action.capture? : Action → Option String
  | replay capture _ _ => some capture
  | _ => none

def Action.settings? : Action → Option String
  | replay _ _ (.broker file _) => some file
  | _ => none

/-- What can fail, in the order in which it is tried. -/
inductive Stage where
  | vehicle
  | input
  | settings
  | quality
  | keepAlive
  | clientId
  | publishing
deriving DecidableEq, Repr

namespace Stage

/-- The stages that only a replay for a broker goes through. -/
def ofBroker : List Stage := [settings, quality, keepAlive, clientId, publishing]

def all : List Stage := vehicle :: input :: ofBroker

def before (stage : Stage) : List Stage := all.takeWhile (· ≠ stage)

def file? (request : Request) : Stage → Option String
  | vehicle => request.vehicle
  | input => request.action.capture?
  | _ => request.action.settings?

def filesSoFar (request : Request) (stage : Stage) : List String :=
  (stage.before ++ [stage]).filterMap (file? request)

end Stage

/-! ## Failures -/

def vehicleFailure? (files : Files) (vehicle? : Option String) : Option Failure :=
  vehicle?.bind fun file ↦
    match Vehicle.load files file with
    | .ok _ => none
    | .error _ => some (.vehicle file)

def inputFailure? (files : Files) : Action → Option Failure
  | .replay capture _ _ =>
    match Capture.load files capture with
    | .ok _ => none
    | .error fault => some (.capture capture fault)
  | .frame _ _ payload =>
    match Hex.decode? payload.toList with
    | some _ => none
    | none => some (.payload payload)
  | .stateOfCharge _ => none

def settingsFailure? (file : String) (format : Broker.Format) (settings : Broker.Settings) :
    Stage → Option Failure
  | .quality =>
    if 2 < settings.quality then some (.broker file (.quality settings.quality)) else none
  | .keepAlive => if settings.keepAlive.seconds < 5 then some (.broker file .keepAlive) else none
  | .clientId =>
    if settings.clientId = "" ∨ settings.clientId.toList.head? = some ' ' then
      some (.broker file (.clientId settings.clientId))
    else none
  | .publishing =>
    if format = .json ∧ ('+' ∈ settings.topic.toList ∨ '#' ∈ settings.topic.toList) then
      some (.publish ⟨settings.topic⟩)
    else none
  | _ => none

def loadSettings (surroundings : Surroundings) (file : String) : Yaml.Loaded Broker.Settings :=
  Yaml.load surroundings.files file (Broker.Settings.ofRecord surroundings.clientSuffix)

def brokerFailure? (surroundings : Surroundings) (action : Action) (stage : Stage) :
    Option Failure :=
  match action with
  | .replay _ _ (.broker file format) =>
    match loadSettings surroundings file with
    | .error fault => if stage = .settings then some (.broker file (.load fault)) else none
    | .ok settings => settingsFailure? file format settings stage
  | _ => none

/-- What is wrong with a request at a stage, whatever is wrong with it at the others. -/
def Stage.failure? (surroundings : Surroundings) (request : Request) : Stage → Option Failure
  | .vehicle => vehicleFailure? surroundings.files request.vehicle
  | .input => inputFailure? surroundings.files request.action
  | stage => brokerFailure? surroundings request.action stage

/-- A stage is the first one at which something is wrong with a request. -/
structure FirstFails (surroundings : Surroundings) (request : Request) (stage : Stage)
    (failure : Failure) : Prop where
  fails : stage.failure? surroundings request = some failure
  passes (other : Stage) : other ∈ stage.before → other.failure? surroundings request = none

/-! ## The first failure -/

theorem isClientId_eq_false_iff {name : String} :
    Broker.Settings.isClientId name = false ↔ name = "" ∨ name.toList.head? = some ' ' := by
  simp [Broker.Settings.isClientId, or_iff_not_imp_left]

theorem Stage.mem_all (stage : Stage) : stage ∈ all := by
  cases stage <;> decide

variable {surroundings : Surroundings} {request : Request}

/-- Settings without the identifier of their client, if that is one that is allowed. -/
def forgetClient (settings : Broker.Settings) : Broker.Settings :=
  if Broker.Settings.isClientId settings.clientId then { settings with clientId := "client" }
  else settings

/-- Which of the allowed names the client has does not matter. -/
theorem settingsFailure?_forgetClient (file : String) (format : Broker.Format)
    (settings : Broker.Settings) (stage : Stage) :
    settingsFailure? file format (forgetClient settings) stage =
      settingsFailure? file format settings stage := by
  rw [forgetClient]
  split_ifs with hclient
  · have hallowed : ¬(settings.clientId = "" ∨ settings.clientId.toList.head? = some ' ') := by
      rw [← isClientId_eq_false_iff, hclient]
      decide
    cases stage with
    | clientId =>
      have hclient' : ¬("client" = "" ∨ "client".toList.head? = some ' ') := by decide
      rw [settingsFailure?, settingsFailure?, if_neg hallowed, if_neg hclient']
    | _ => rfl
  · rfl

theorem isClientId_default (suffix : String) :
    Broker.Settings.isClientId (Broker.Settings.defaultClientId suffix) := by
  have htext : Broker.Settings.defaultClientId suffix = "mgev-bms-" ++ suffix := rfl
  rw [← Bool.not_eq_false, isClientId_eq_false_iff, htext]
  simp

theorem map_forgetClient_ofRecord (first second : String) (record : Yaml.Record) :
    (Broker.Settings.ofRecord first record).map forgetClient =
      (Broker.Settings.ofRecord second record).map forgetClient := by
  have hdraft (draft : Broker.Settings.Draft) :
      (draft.settings first).map forgetClient = (draft.settings second).map forgetClient := by
    simp only [Broker.Settings.Draft.settings]
    cases draft.host with
    | none => rfl
    | some host =>
      cases draft.clientId with
      | some name => rfl
      | none =>
        simp [Yaml.needed, forgetClient, isClientId_default, Except.map, bind, Except.bind, pure,
          Except.pure]
  have hloaded (loaded : Yaml.Loaded Broker.Settings.Draft) :
      (loaded.bind (·.settings first)).map forgetClient =
        (loaded.bind (·.settings second)).map forgetClient := by
    cases loaded with
    | error fault => rfl
    | ok draft => exact hdraft draft
  exact hloaded _

/-- Apart from the client's name, settings depend on their file only. -/
theorem map_forgetClient_loadSettings {other : Surroundings} {file : String}
    (h : other.files file = surroundings.files file) :
    (loadSettings other file).map forgetClient =
      (loadSettings surroundings file).map forgetClient := by
  have hrecord := map_forgetClient_ofRecord other.clientSuffix surroundings.clientSuffix
  rw [loadSettings, loadSettings, Yaml.load, Yaml.load, h]
  cases surroundings.files file with
  | error fault => cases fault <;> rfl
  | ok bytes =>
    dsimp only
    cases Yaml.readRecord? bytes with
    | none => rfl
    | some record => exact hrecord record

/-- Which client it is does not matter for what is wrong. -/
theorem brokerFailure?_eq (surroundings : Surroundings) (capture file : String)
    (interval? : Option Duration) (format : Broker.Format) (stage : Stage) :
    brokerFailure? surroundings (.replay capture interval? (.broker file format)) stage =
      match (loadSettings surroundings file).map forgetClient with
      | .error fault => if stage = .settings then some (.broker file (.load fault)) else none
      | .ok settings => settingsFailure? file format settings stage := by
  rw [brokerFailure?]
  cases loadSettings surroundings file with
  | error fault => rfl
  | ok settings => exact (settingsFailure?_forgetClient file format settings stage).symm

section

variable {other : Surroundings}

theorem vehicleFailure?_congr {vehicle? : Option String}
    (h : ∀ file ∈ vehicle?, other.files file = surroundings.files file) :
    vehicleFailure? other.files vehicle? = vehicleFailure? surroundings.files vehicle? := by
  cases vehicle? with
  | none => rfl
  | some file =>
    simp only [vehicleFailure?, Option.bind_some, Vehicle.load, Yaml.load, h file rfl]

theorem inputFailure?_congr {action : Action}
    (h : ∀ file ∈ action.capture?, other.files file = surroundings.files file) :
    inputFailure? other.files action = inputFailure? surroundings.files action := by
  cases action with
  | replay capture interval? output =>
    simp only [inputFailure?, Capture.load, h capture rfl]
  | frame | stateOfCharge => rfl

theorem brokerFailure?_congr {action : Action}
    (h : ∀ file ∈ action.settings?, other.files file = surroundings.files file) (stage : Stage) :
    brokerFailure? other action stage = brokerFailure? surroundings action stage := by
  cases action with
  | replay capture interval? output =>
    cases output with
    | console | json => rfl
    | broker file format =>
      rw [brokerFailure?_eq, brokerFailure?_eq, map_forgetClient_loadSettings (h file rfl)]
  | frame | stateOfCharge => rfl

/-- A stage looks into its own file only. -/
theorem failure?_congr {stage : Stage}
    (h : ∀ file ∈ stage.file? request, other.files file = surroundings.files file) :
    stage.failure? other request = stage.failure? surroundings request := by
  cases stage with
  | vehicle => exact vehicleFailure?_congr h
  | input => exact inputFailure?_congr h
  | _ => exact brokerFailure?_congr h _

/-- A stage that fails first does so whatever is in the files that are read later. -/
theorem FirstFails.congr {stage : Stage} {failure : Failure}
    (h : FirstFails surroundings request stage failure)
    (hfiles : ∀ file ∈ stage.filesSoFar request, other.files file = surroundings.files file) :
    FirstFails other request stage failure := by
  have hstage : ∀ early ∈ stage.before ++ [stage], ∀ file ∈ early.file? request,
      other.files file = surroundings.files file :=
    fun early hearly file hfile ↦ hfiles file (List.mem_filterMap.mpr ⟨early, hearly, hfile⟩)
  rw [List.forall_mem_append, List.forall_mem_singleton] at hstage
  refine ⟨(failure?_congr hstage.2).trans h.fails, fun early hearly ↦ ?_⟩
  rw [failure?_congr (hstage.1 early hearly), h.passes early hearly]

end

/-! ## Outcomes -/

variable {arguments : List String}

end BatteryTelemetry.Command
