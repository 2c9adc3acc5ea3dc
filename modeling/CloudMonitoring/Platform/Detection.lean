import CloudMonitoring.Platform.Metadata

/-!
Detecting the platform that a process runs on. The environment tells the platform, and the metadata
server, together with the environment, tells the attributes of each platform. Without a project id
from the metadata server the platform is unknown.
-/

namespace CloudMonitoring

abbrev Environment := String → Option String

def Environment.isSet (environment : Environment) (name : String) : Bool :=
  (environment name).isSome

inductive Platform
  | computeEngine
  | kubernetesEngine
  | appEngine
  | cloudRun
  | cloudRunJob
  | cloudFunctions
  | unknown
deriving DecidableEq, Repr

namespace Platform

def name : Platform → String
  | computeEngine => "GCE"
  | kubernetesEngine => "GKE"
  | appEngine => "GAE"
  | cloudRun => "CloudRun"
  | cloudRunJob => "CloudRunJob"
  | cloudFunctions => "CloudFunctions"
  | unknown => "Unknown"

def cloudPlatform? : Platform → Option String
  | computeEngine => some "gcp_compute_engine"
  | kubernetesEngine => some "gcp_kubernetes_engine"
  | appEngine => some "gcp_app_engine"
  | cloudRun => some "gcp_cloud_run"
  | cloudRunJob => some "gcp_cloud_run"
  | cloudFunctions => some "gcp_cloud_functions"
  | unknown => none

/-- The platform that the environment alone points to. A cluster wins over everything else, and a
function target over a Cloud Run configuration, because functions have both. -/
def classify (environment : Environment) : Platform :=
  if environment.isSet "KUBERNETES_SERVICE_HOST" then kubernetesEngine
  else if environment.isSet "K_CONFIGURATION" ∧ ¬ environment.isSet "FUNCTION_TARGET" then cloudRun
  else if environment.isSet "FUNCTION_TARGET" then cloudFunctions
  else if environment.isSet "CLOUD_RUN_JOB" then cloudRunJob
  else if environment.isSet "GAE_SERVICE" then appEngine
  else computeEngine

end Platform

structure DetectedPlatform where
  platform : Platform
  projectId : Option String
  attributes : Dict String
deriving DecidableEq

def DetectedPlatform.nothing : DetectedPlatform := ⟨.unknown, none, Dict.empty⟩

def DetectedPlatform.attribute? (detected : DetectedPlatform) (key : String) : Option String :=
  detected.attributes.get? key

namespace Detection

variable {State : Type}

def clusterAttributes (environment : Environment) : MetadataSession State (Dict String) := do
  let location ← Metadata.clusterLocation
  let instanceId ← Metadata.instanceId
  let clusterName ← Metadata.clusterName
  let kind := LocationKind.ofLocation (location.getD "")
  return (((((((Dict.empty.insertSome "instance_id" instanceId).insertSome
    "gke_cluster_name" clusterName).insertSome
    "gke_cluster_location" location).insert
    "gke_cluster_location_type" kind.text).insertSome
    "gke_pod_name" ((environment "POD_NAME").or (environment "HOSTNAME"))).insertSome
    "gke_namespace_name" (environment "NAMESPACE")).insertSome
    "gke_container_name" (environment "CONTAINER_NAME"))

def serverlessAttributes (environment : Environment) : MetadataSession State (Dict String) := do
  let zone ← Metadata.zone
  let region ← Metadata.regionFromZone
  let instanceId ← Metadata.instanceId
  return ((((Dict.empty.insertSome "serverless_compute_name" (environment "K_SERVICE")).insertSome
    "serverless_compute_revision" (environment "K_REVISION")).insertSome
    "availability_zone" zone).insertSome
    "cloud_region" region).insertSome
    "instance_id" instanceId

def jobAttributes (environment : Environment) : MetadataSession State (Dict String) := do
  let instanceId ← Metadata.instanceId
  let region ← Metadata.regionFromZone
  return ((((Dict.empty.insertSome
    "serverless_compute_name" (environment "CLOUD_RUN_JOB")).insertSome
    "gcr_job_execution_key" (environment "CLOUD_RUN_EXECUTION")).insertSome
    "gcr_job_task_index" (environment "CLOUD_RUN_TASK_INDEX")).insertSome
    "instance_id" instanceId).insertSome
    "cloud_region" region

def appAttributes (environment : Environment) : MetadataSession State (Dict String) := do
  let region ←
    if environment "GAE_ENV" = some "standard" then Metadata.region else Metadata.regionFromZone
  let zone ← Metadata.zone
  return ((((Dict.empty.insertSome "gae_module_name" (environment "GAE_SERVICE")).insertSome
    "gae_app_version" (environment "GAE_VERSION")).insertSome
    "instance_id" (environment "GAE_INSTANCE")).insertSome
    "availability_zone" zone).insertSome
    "cloud_region" region

def machineAttributes : MetadataSession State (Dict String) := do
  let zone ← Metadata.zone
  let region ← Metadata.regionFromZone
  let instanceId ← Metadata.instanceId
  let instanceName ← Metadata.instanceName
  let hostname ← Metadata.instanceHostname
  let machineType ← Metadata.machineType
  return (((((Dict.empty.insertSome "availability_zone" zone).insertSome
    "cloud_region" region).insertSome
    "instance_id" instanceId).insertSome
    "instance_name" instanceName).insertSome
    "instance_hostname" hostname).insertSome
    "machine_type" machineType

def attributes (platform : Platform) (environment : Environment) :
    MetadataSession State (Dict String) :=
  match platform with
  | .kubernetesEngine => clusterAttributes environment
  | .cloudRun => serverlessAttributes environment
  | .cloudFunctions => serverlessAttributes environment
  | .cloudRunJob => jobAttributes environment
  | .appEngine => appAttributes environment
  | .computeEngine => machineAttributes
  | .unknown => pure Dict.empty

def run (environment : Environment) : MetadataSession State DetectedPlatform := do
  let projectId ← Metadata.projectId
  match projectId with
  | none | some "" =>
      Session.log .debug "No project id from metadata server, platform is unknown" []
      return .nothing
  | some projectId =>
      let platform := Platform.classify environment
      let attributes ← attributes platform environment
      Session.log .info "Detected GCP platform"
        [("platform", .text platform.name), ("project_id", .shown projectId),
          ("attributes", .int attributes.size)]
      return ⟨platform, some projectId, attributes⟩

end Detection

end CloudMonitoring
