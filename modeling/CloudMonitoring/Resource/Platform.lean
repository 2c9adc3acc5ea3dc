import CloudMonitoring.Platform.Detection
import CloudMonitoring.Text.Quoted

/-!
The attributes that describe a detected platform in the terms of the semantic conventions. An
unknown platform has none.
-/

namespace CloudMonitoring

namespace DetectedPlatform

def copies : Platform → List (String × String)
  | .kubernetesEngine =>
      [("k8s.cluster.name", "gke_cluster_name"),
        ("k8s.pod.name", "gke_pod_name"),
        ("k8s.namespace.name", "gke_namespace_name"),
        ("k8s.container.name", "gke_container_name"),
        ("host.id", "instance_id")]
  | .cloudRun | .cloudFunctions =>
      [("faas.name", "serverless_compute_name"),
        ("faas.version", "serverless_compute_revision"),
        ("faas.instance", "instance_id"),
        ("cloud.availability_zone", "availability_zone"),
        ("cloud.region", "cloud_region")]
  | .cloudRunJob =>
      [("faas.name", "serverless_compute_name"),
        ("faas.instance", "instance_id"),
        ("gcp.cloud_run.job.execution", "gcr_job_execution_key"),
        ("gcp.cloud_run.job.task_index", "gcr_job_task_index"),
        ("cloud.region", "cloud_region")]
  | .appEngine =>
      [("faas.name", "gae_module_name"),
        ("faas.version", "gae_app_version"),
        ("faas.instance", "instance_id"),
        ("cloud.availability_zone", "availability_zone"),
        ("cloud.region", "cloud_region")]
  | .computeEngine =>
      [("cloud.availability_zone", "availability_zone"),
        ("cloud.region", "cloud_region"),
        ("host.id", "instance_id"),
        ("host.name", "instance_name"),
        ("host.type", "machine_type"),
        ("gcp.gce.instance.name", "instance_name"),
        ("gcp.gce.instance.hostname", "instance_hostname")]
  | .unknown => []

def locationKey? (detected : DetectedPlatform) : Option String :=
  match detected.attribute? "gke_cluster_location_type" with
  | some "REGION" => some "cloud.region"
  | some "ZONE" => some "cloud.availability_zone"
  | _ => none

def placeCluster (detected : DetectedPlatform) (attributes : Dict String) :
    Dict String × List Log.Event :=
  match detected.attribute? "gke_cluster_location", detected.locationKey? with
  | some location, some key => (attributes.insert key location, [])
  | location, _ =>
      (attributes, [⟨.warn, "Unrecognized GKE cluster location type, dropping location",
        [("location", .shown (quotedOption location))]⟩])

def resource (detected : DetectedPlatform) : Dict String × List Log.Event :=
  match detected.platform.cloudPlatform? with
  | none => (Dict.empty, [])
  | some cloudPlatform =>
      let common := ((Dict.empty.insert "cloud.provider" "gcp").insert
        "cloud.platform" cloudPlatform).insertSome "cloud.account.id" detected.projectId
      let copied := (copies detected.platform).foldl
        (fun attributes copy => attributes.insertSome copy.1 (detected.attribute? copy.2)) common
      if detected.platform = .kubernetesEngine then detected.placeCluster copied else (copied, [])

end DetectedPlatform

end CloudMonitoring
