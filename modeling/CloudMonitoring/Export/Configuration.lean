import CloudMonitoring.Export.Exporter
import CloudMonitoring.Http.MonitoringClient
import CloudMonitoring.Platform.Detection

/-!
The configuration of an exporter, its defaults, and what makes it valid. A project that is not
configured is asked of the metadata server.
-/

namespace CloudMonitoring

structure Configuration where
  projectId : Option String
  metricPrefix : String
  strategy : Strategy
  mode : WriteMode
  endpoint : String
  /-- The time that one call may take, in milliseconds. -/
  deadline : Nat
  description : Option ResourceDescription
deriving DecidableEq

namespace Configuration

variable {State : Type}

def standard : Configuration :=
  { projectId := none
    metricPrefix := defaultPrefix
    strategy := .once []
    mode := .plain
    endpoint := "https://monitoring.googleapis.com"
    deadline := 10000
    description := none }

def projectVariables : List String :=
  ["GOOGLE_CLOUD_PROJECT", "GCLOUD_PROJECT", "GCP_PROJECT"]

/-- The first project variable that is set decides; when it is empty there is no project. -/
def environmentProject? (environment : Environment) : Option String :=
  (projectVariables.findSome? environment).filter (· ≠ "")

def ofEnvironment (environment : Environment) : Configuration :=
  { standard with
    projectId := environmentProject? environment
    endpoint := (environment "GOOGLE_CLOUD_MONITORING_ENDPOINT").getD standard.endpoint }

def validate (configuration : Configuration) : Except ExportError Unit :=
  if configuration.projectId = some "" then .error (.config "project id must not be empty")
  else if configuration.deadline = 0 then .error (.config "deadline must be positive")
  else if configuration.endpoint = "" then
    .error (.config "metric service endpoint must not be empty")
  else .ok ()

def resolveProject (configuration : Configuration) :
    MetadataSession State (Except ExportError String) :=
  match configuration.projectId with
  | some projectId => return .ok projectId
  | none => do
      match ← Metadata.projectId with
      | none | some "" => return .error (.config
          "no project id configured and none available from the metadata server")
      | some projectId => return .ok projectId

def exporter (configuration : Configuration) (projectId : String) (time : Instant) : Exporter :=
  { projectId := projectId
    naming := ⟨configuration.metricPrefix, configuration.description⟩
    mode := configuration.mode
    strategy := configuration.strategy
    intervals := .starting time
    isShutdown := false }

def checkedProject (configuration : Configuration) :
    MetadataSession State (Except ExportError String) :=
  match configuration.validate with
  | .error error => return .error error
  | .ok () => configuration.resolveProject

def announce (configuration : Configuration) (projectId : String) : MetadataSession State Unit :=
  Session.log .info "Metric exporter created"
    [("project_id", .shown projectId), ("prefix", .shown configuration.metricPrefix),
      ("strategy", .shown configuration.strategy.name)]

def createExporter (configuration : Configuration) (time : Instant) :
    MetadataSession State (Except ExportError Exporter) := do
  match ← configuration.checkedProject with
  | .error error => return .error error
  | .ok projectId =>
      configuration.announce projectId
      return .ok (configuration.exporter projectId time)

def createAuthorized (configuration : Configuration) (provider : Except String Unit)
    (time : Instant) :
    MetadataSession State (Except ExportError (Exporter × MonitoringClient)) := do
  match ← configuration.checkedProject, provider with
  | .error error, _ => return .error error
  | .ok _, .error reason => return .error (.auth ("Failed to create auth provider: " ++ reason))
  | .ok projectId, .ok () =>
      Session.log .info "📤 Cloud Monitoring client ready"
        [("endpoint", .text configuration.endpoint)]
      configuration.announce projectId
      return .ok (configuration.exporter projectId time,
        .authorized configuration.endpoint projectId)

end Configuration

end CloudMonitoring
