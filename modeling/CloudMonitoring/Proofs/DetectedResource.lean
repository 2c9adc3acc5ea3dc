import CloudMonitoring.Proofs.Labels
import CloudMonitoring.Proofs.Locations
import CloudMonitoring.Resource.Platform

/-!
From a process to its monitored resource. What the metadata server and the environment say goes through
three vocabularies: the detected attributes, the semantic conventions and the labels of the kind. Here
they are put together: for each platform, which value becomes which label.
-/

namespace CloudMonitoring

namespace LocationKind

theorem zone_or_region (location : Option String) :
    (if (ofLocation (location.getD "")).text = "ZONE" then location else none).or
        (if (ofLocation (location.getD "")).text = "REGION" then location else none) =
      location.filter fun location =>
        location.toList.count '-' = 1 ∨ location.toList.count '-' = 2 := by
  cases location with
  | none => simp
  | some location =>
      simp only [Option.getD_some, text_eq_zone_iff, text_eq_region_iff]
      by_cases isZone : location.toList.count '-' = 2
      · simp [Option.filter, isZone]
      · by_cases isRegion : location.toList.count '-' = 1 <;> simp [Option.filter, isZone, isRegion]

end LocationKind

/-- The platform that the variables of a process point to: a cluster before everything else, a function
before the Cloud Run service that it also looks like, and a machine when nothing else is marked. -/
inductive Platform.PointedTo (environment : Environment) : Platform → Prop
  | kubernetesEngine : environment.isSet "KUBERNETES_SERVICE_HOST" →
      PointedTo environment .kubernetesEngine
  | cloudFunctions : ¬ environment.isSet "KUBERNETES_SERVICE_HOST" →
      environment.isSet "FUNCTION_TARGET" → PointedTo environment .cloudFunctions
  | cloudRun : ¬ environment.isSet "KUBERNETES_SERVICE_HOST" →
      ¬ environment.isSet "FUNCTION_TARGET" → environment.isSet "K_CONFIGURATION" →
      PointedTo environment .cloudRun
  | cloudRunJob : (∀ name ∈ ["KUBERNETES_SERVICE_HOST", "FUNCTION_TARGET", "K_CONFIGURATION"],
        ¬ environment.isSet name) → environment.isSet "CLOUD_RUN_JOB" →
      PointedTo environment .cloudRunJob
  | appEngine : (∀ name ∈ ["KUBERNETES_SERVICE_HOST", "FUNCTION_TARGET", "K_CONFIGURATION",
        "CLOUD_RUN_JOB"], ¬ environment.isSet name) → environment.isSet "GAE_SERVICE" →
      PointedTo environment .appEngine
  | computeEngine : (∀ name ∈ ["KUBERNETES_SERVICE_HOST", "FUNCTION_TARGET", "K_CONFIGURATION",
        "CLOUD_RUN_JOB", "GAE_SERVICE"], ¬ environment.isSet name) →
      PointedTo environment .computeEngine

theorem Platform.pointedTo_classify (environment : Environment) :
    PointedTo environment (classify environment) := by
  by_cases cluster : environment.isSet "KUBERNETES_SERVICE_HOST"
  · simpa [classify, cluster] using .kubernetesEngine cluster
  by_cases target : environment.isSet "FUNCTION_TARGET"
  · simpa [classify, cluster, target] using .cloudFunctions cluster target
  by_cases configured : environment.isSet "K_CONFIGURATION"
  · simpa [classify, cluster, target, configured] using .cloudRun cluster target configured
  by_cases job : environment.isSet "CLOUD_RUN_JOB"
  · simpa [classify, cluster, target, configured, job] using
      .cloudRunJob (by simp [cluster, target, configured]) job
  by_cases service : environment.isSet "GAE_SERVICE"
  · simpa [classify, cluster, target, configured, job, service] using
      .appEngine (by simp [cluster, target, configured, job]) service
  · simpa [classify, cluster, target, configured, job, service] using
      .computeEngine (by simp [cluster, target, configured, job, service])

theorem Platform.PointedTo.eq_classify {environment : Environment} {platform : Platform}
    (pointed : PointedTo environment platform) : platform = classify environment := by
  cases pointed with
  | kubernetesEngine cluster => simp [classify, cluster]
  | cloudFunctions cluster target => simp [classify, cluster, target]
  | cloudRun cluster target configured => simp [classify, cluster, target, configured]
  | cloudRunJob others job =>
      simp only [List.forall_mem_cons] at others
      simp [classify, others, job]
  | appEngine others service =>
      simp only [List.forall_mem_cons] at others
      simp [classify, others, service]
  | computeEngine others =>
      simp only [List.forall_mem_cons] at others
      simp [classify, others]

structure Places where
  zone : Option String
  region : Option String
  reported : Option String
deriving DecidableEq

/-- The places that the metadata tell: what the paths of a zone and of a region end in, and the region
that the zone lies in. -/
structure Places.ToldBy (metadata : String → Option String) (places : Places) : Prop where
  zone : ∀ zone, places.zone = some zone ↔
    ∃ path, metadata "instance/zone" = some path ∧ EndsIn path zone
  region : ∀ region, places.region = some region ↔
    ∃ zone, places.zone = some zone ∧ LiesIn zone region
  reported : ∀ region, places.reported = some region ↔
    ∃ path, metadata "instance/region" = some path ∧ EndsIn path region

namespace Places

variable {metadata : String → Option String}

def ofMetadata (metadata : String → Option String) : Places :=
  let zone := (metadata "instance/zone").map lastSegment
  ⟨zone, zone.bind regionOfZone?, (metadata "instance/region").map lastSegment⟩

theorem toldBy_ofMetadata (metadata : String → Option String) :
    (ofMetadata metadata).ToldBy metadata := by
  refine ⟨?_, ?_, ?_⟩
  · intro zone
    simp [ofMetadata, endsIn_iff, eq_comm]
  · intro region
    simp only [ofMetadata, Option.bind_eq_some_iff, regionOfZone?_eq_some_iff]
  · intro region
    simp [ofMetadata, endsIn_iff, eq_comm]

theorem ToldBy.eq_ofMetadata {places : Places} (told : places.ToldBy metadata) :
    places = ofMetadata metadata := by
  have known := toldBy_ofMetadata metadata
  have zone : places.zone = (ofMetadata metadata).zone :=
    Option.ext fun zone => (told.zone zone).trans (known.zone zone).symm
  have region : places.region = (ofMetadata metadata).region := Option.ext fun region => by
    rw [told.region, known.region, zone]
  have reported : places.reported = (ofMetadata metadata).reported :=
    Option.ext fun region => (told.reported region).trans (known.reported region).symm
  cases places
  simp_all

end Places

namespace Detection

def found (platform : Platform) (environment : Environment) (metadata : String → Option String) :
    List (String × Option String) :=
  let places := Places.ofMetadata metadata
  let instanceId := metadata "instance/id"
  match platform with
  | .computeEngine =>
      [("availability_zone", places.zone), ("cloud_region", places.region),
        ("instance_id", instanceId), ("instance_name", metadata "instance/name"),
        ("instance_hostname", metadata "instance/hostname"),
        ("machine_type", (metadata "instance/machine-type").map lastSegment)]
  | .kubernetesEngine =>
      let location := metadata "instance/attributes/cluster-location"
      [("instance_id", instanceId),
        ("gke_cluster_name", metadata "instance/attributes/cluster-name"),
        ("gke_cluster_location", location),
        ("gke_cluster_location_type", some (LocationKind.ofLocation (location.getD "")).text),
        ("gke_pod_name", (environment "POD_NAME").or (environment "HOSTNAME")),
        ("gke_namespace_name", environment "NAMESPACE"),
        ("gke_container_name", environment "CONTAINER_NAME")]
  | .appEngine =>
      [("gae_module_name", environment "GAE_SERVICE"),
        ("gae_app_version", environment "GAE_VERSION"),
        ("instance_id", environment "GAE_INSTANCE"),
        ("availability_zone", places.zone),
        ("cloud_region",
          if environment "GAE_ENV" = some "standard" then places.reported else places.region)]
  | .cloudRun | .cloudFunctions =>
      [("serverless_compute_name", environment "K_SERVICE"),
        ("serverless_compute_revision", environment "K_REVISION"),
        ("availability_zone", places.zone), ("cloud_region", places.region),
        ("instance_id", instanceId)]
  | .cloudRunJob =>
      [("serverless_compute_name", environment "CLOUD_RUN_JOB"),
        ("gcr_job_execution_key", environment "CLOUD_RUN_EXECUTION"),
        ("gcr_job_task_index", environment "CLOUD_RUN_TASK_INDEX"),
        ("instance_id", instanceId), ("cloud_region", places.region)]
  | .unknown => []

theorem attributes_fixed (platform : Platform) (environment : Environment)
    (metadata : String → Option String) :
    (attributes platform environment (fixedMetadata metadata) ()).result =
      Dict.empty.insertAll (found platform environment metadata) := by
  cases platform with
  | appEngine =>
      by_cases standard : environment "GAE_ENV" = some "standard" <;>
        simp only [attributes, appAttributes, found, standard, if_true, if_false] <;> rfl
  | computeEngine => rfl
  | kubernetesEngine => rfl
  | cloudRun => rfl
  | cloudRunJob => rfl
  | cloudFunctions => rfl
  | unknown => rfl

end Detection

namespace DetectedPlatform

def placed (attribute? : String → Option String) : List (String × Option String) :=
  let kind := attribute? "gke_cluster_location_type"
  let location := attribute? "gke_cluster_location"
  [("cloud.region", if kind = some "REGION" then location else none),
    ("cloud.availability_zone", if kind = some "ZONE" then location else none)]

theorem placeCluster_fst (detected : DetectedPlatform) (attributes : Dict String) :
    (detected.placeCluster attributes).1 = attributes.insertAll (placed detected.attribute?) := by
  simp only [placeCluster, locationKey?, placed, Dict.insertAll, List.foldl_cons, List.foldl_nil]
  cases detected.attribute? "gke_cluster_location" with
  | none => simp [Dict.insertSome]
  | some location =>
      by_cases isRegion : detected.attribute? "gke_cluster_location_type" = some "REGION"
      · simp [isRegion, Dict.insertSome]
      · by_cases isZone : detected.attribute? "gke_cluster_location_type" = some "ZONE"
        · simp [isZone, Dict.insertSome]
        · simp [isRegion, isZone, Dict.insertSome]

def conventions (platform : Platform) (projectId : Option String)
    (attribute? : String → Option String) : List (String × Option String) :=
  [("cloud.provider", some "gcp"), ("cloud.platform", platform.cloudPlatform?),
      ("cloud.account.id", projectId)] ++
    (copies platform).map (fun copy => (copy.1, attribute? copy.2)) ++
    if platform = .kubernetesEngine then placed attribute? else []

theorem resource_fst {detected : DetectedPlatform} (known : detected.platform ≠ .unknown) :
    detected.resource.1 = Dict.empty.insertAll
      (conventions detected.platform detected.projectId detected.attribute?) := by
  obtain ⟨cloudPlatform, named⟩ : ∃ cloudPlatform,
      detected.platform.cloudPlatform? = some cloudPlatform := by
    cases platform : detected.platform with
    | unknown => exact absurd platform known
    | _ => exact ⟨_, rfl⟩
  simp only [resource, conventions, named, Dict.insertAll, List.foldl_append, List.foldl_map]
  split
  · exact placeCluster_fst detected _
  · rfl

theorem get?_resource {detected : DetectedPlatform} (known : detected.platform ≠ .unknown)
    (key : String) :
    detected.resource.1.get? key = (Pairs.get? key
      (conventions detected.platform detected.projectId detected.attribute?)).join := by
  have distinct : (Pairs.keys
      (conventions detected.platform detected.projectId detected.attribute?)).Nodup := by
    cases detected.platform <;> simp [conventions, copies, placed]
  rw [resource_fst known, Dict.get?_insertAll distinct, Dict.get?_empty, Option.or_none]

theorem platformOnly_resource (detected : DetectedPlatform) : PlatformOnly detected.resource.1 := by
  cases platform : detected.platform with
  | unknown =>
      simp only [resource, platform, Platform.cloudPlatform?]
      exact ⟨rfl, rfl, rfl, rfl⟩
  | _ =>
      have known : detected.platform ≠ .unknown := by simp [platform]
      constructor <;>
        simp [get?_resource known, conventions, platform, copies, placed, Pairs.get?]

end DetectedPlatform

namespace MonitoredResource

/-- What a process is monitored as on a platform. The location of a cluster counts only if it is a zone
or a region, and a cluster without a name is no more than a node. -/
def onPlatform (environment : Environment) (metadata : String → Option String) (places : Places)
    (platform : Platform) : MonitoredResource :=
  let instanceId := metadata "instance/id"
  match platform with
  | .computeEngine =>
      present "gce_instance" [("zone", places.zone), ("instance_id", instanceId)]
  | .kubernetesEngine =>
      let location := (metadata "instance/attributes/cluster-location").filter fun location =>
        location.toList.count '-' = 1 ∨ location.toList.count '-' = 2
      match metadata "instance/attributes/cluster-name" with
      | none => taskOrNode location none none instanceId
      | some name =>
          clusterPart location name (environment "NAMESPACE")
            ((environment "POD_NAME").or (environment "HOSTNAME")) (environment "CONTAINER_NAME")
  | .appEngine =>
      present "gae_instance"
        [("module_id", environment "GAE_SERVICE"), ("version_id", environment "GAE_VERSION"),
          ("instance_id", environment "GAE_INSTANCE"),
          ("location",
            if environment "GAE_ENV" = some "standard" then places.reported else places.region)]
  | .cloudRun | .cloudFunctions =>
      taskOrNode places.zone (environment "K_SERVICE") instanceId none
  | .cloudRunJob => taskOrNode places.region (environment "CLOUD_RUN_JOB") instanceId none
  | .unknown => taskOrNode none none none none

def ofProcess (environment : Environment) (metadata : String → Option String) (places : Places)
    (platform : Platform) : MonitoredResource :=
  match metadata "project/project-id" with
  | none | some "" =>
      present "generic_node"
        [("location", some "global"), ("namespace", some ""), ("node_id", some "")]
  | some _ => onPlatform environment metadata places platform

theorem kind_taskOrNode (location job task node : Option String) :
    (taskOrNode location job task node).kind ≠ "k8s_node" := by
  unfold taskOrNode
  split <;> simp [present]

theorem kind_clusterPart (location clusterName inNamespace pod container : Option String) :
    (clusterPart location clusterName inNamespace pod container).kind ≠ "k8s_node" := by
  unfold clusterPart
  split
  · simp [present]
  · split <;> simp [present]

theorem kind_ofProcess (environment : Environment) (metadata : String → Option String)
    (places : Places) (platform : Platform) :
    (ofProcess environment metadata places platform).kind ≠ "k8s_node" := by
  unfold ofProcess
  split
  · simp [present]
  · simp [present]
  · cases platform with
    | kubernetesEngine =>
        simp only [onPlatform]
        split
        · exact kind_taskOrNode _ _ _ _
        · exact kind_clusterPart _ _ _ _ _
    | computeEngine => simp [onPlatform, present]
    | appEngine => simp [onPlatform, present]
    | _ => exact kind_taskOrNode _ _ _ _

end MonitoredResource

namespace Detection

open DetectedPlatform MonitoredResource

def outcome (projectId : String) (environment : Environment) (metadata : String → Option String)
    (platform : Platform) : DetectedPlatform :=
  ⟨platform, some projectId, Dict.empty.insertAll (found platform environment metadata)⟩

variable (projectId : String) (environment : Environment) (metadata : String → Option String)
  (platform : Platform)

theorem get?_outcome (known : platform ≠ .unknown) (key : String) :
    (outcome projectId environment metadata platform).resource.1.get? key =
      (Pairs.get? key (conventions platform (some projectId) fun key =>
        (Pairs.get? key (found platform environment metadata)).join)).join := by
  have attribute? : (outcome projectId environment metadata platform).attribute? = fun key =>
      (Pairs.get? key (found platform environment metadata)).join := by
    have distinct : (Pairs.keys (found platform environment metadata)).Nodup := by
      cases platform <;> simp [found]
    funext key
    rw [outcome, DetectedPlatform.attribute?, Dict.get?_insertAll distinct, Dict.get?_empty,
      Option.or_none]
  rw [← attribute?]
  exact get?_resource known key

theorem cloudPlatform_outcome (known : platform ≠ .unknown) :
    (outcome projectId environment metadata platform).resource.1.get? "cloud.platform" =
      platform.cloudPlatform? := by
  simp [get?_outcome _ _ _ _ known, conventions, Pairs.get?]

theorem place_kubernetesEngine :
    place (outcome projectId environment metadata .kubernetesEngine).resource.1 =
      (metadata "instance/attributes/cluster-location").filter fun location =>
        location.toList.count '-' = 1 ∨ location.toList.count '-' = 2 := by
  rw [← LocationKind.zone_or_region]
  simp [place, get?_outcome, conventions, copies, placed, found, Pairs.get?]

theorem place_serverless (serverless : platform = .cloudRun ∨ platform = .cloudFunctions) :
    place (outcome projectId environment metadata platform).resource.1 =
      (Places.ofMetadata metadata).zone := by
  cases zone : metadata "instance/zone" <;> rcases serverless with rfl | rfl <;>
    simp [place, get?_outcome, conventions, copies, found, Pairs.get?, Places.ofMetadata, zone]

theorem ofAttributes_outcome :
    ofAttributes (outcome projectId environment metadata platform).resource.1 =
      onPlatform environment metadata (.ofMetadata metadata) platform := by
  -- an unknown platform has no attributes at all, so the lemmas on look-ups start from a known one
  by_cases isUnknown : platform = .unknown
  · subst isUnknown
    rfl
  have only := platformOnly_resource (outcome projectId environment metadata platform)
  have named := cloudPlatform_outcome projectId environment metadata platform isUnknown
  cases platform with
  | unknown => exact absurd rfl isUnknown
  | computeEngine =>
      rw [ofAttributes_machine only named]
      simp [get?_outcome, conventions, copies, found, Pairs.get?, onPlatform]
  | appEngine =>
      rw [ofAttributes_app only named]
      simp [get?_outcome, conventions, copies, found, Pairs.get?, onPlatform]
  | cloudRun | cloudFunctions =>
      rw [ofAttributes_generic only (by simp [named, Platform.cloudPlatform?])
        (by simp [get?_outcome, conventions, copies, Pairs.get?]), place_serverless _ _ _ _ (by simp)]
      simp [get?_outcome, conventions, copies, found, Pairs.get?, onPlatform]
  | cloudRunJob =>
      rw [ofAttributes_generic only (by simp [named, Platform.cloudPlatform?])
        (by simp [get?_outcome, conventions, copies, Pairs.get?])]
      simp [place, get?_outcome, conventions, copies, found, Pairs.get?, onPlatform]
  | kubernetesEngine =>
      have other : ∀ platform ∈ ["gcp_compute_engine", "aws_ec2", "gcp_app_engine"],
          (outcome projectId environment metadata .kubernetesEngine).resource.1.get?
            "cloud.platform" ≠ some platform := by
        simp [named, Platform.cloudPlatform?]
      have clustered : (outcome projectId environment metadata .kubernetesEngine).resource.1.get?
          "k8s.cluster.name" = metadata "instance/attributes/cluster-name" := by
        simp [get?_outcome, conventions, copies, found, Pairs.get?]
      cases clusterName : metadata "instance/attributes/cluster-name" with
      | none =>
          rw [ofAttributes_generic only other (clustered.trans clusterName), place_kubernetesEngine]
          simp [get?_outcome, conventions, copies, placed, found, Pairs.get?, onPlatform, clusterName]
      | some name =>
          rw [ofAttributes_cluster only other (by simp [clustered, clusterName]),
            place_kubernetesEngine]
          simp [get?_outcome, conventions, copies, found, Pairs.get?, onPlatform, clusterName]

theorem run_fixed :
    (run environment (fixedMetadata metadata) ()).result =
      match metadata "project/project-id" with
      | none | some "" => .nothing
      | some projectId =>
          outcome projectId environment metadata (Platform.classify environment) := by
  have answered : (Metadata.projectId (fixedMetadata metadata) ()).result =
      metadata "project/project-id" := rfl
  rw [run, Session.bind_result, answered]
  split <;> rename_i asked
  · rw [asked]
    rfl
  · rw [asked]
    rfl
  · simp only [asked, Session.bind_result, Session.pure_eq, outcome]
    rw [← attributes_fixed]

/-- Every process is monitored as what its platform, its environment and its metadata make of it, and
never as a node of a cluster. The environment points to one platform, and the metadata tell the
places. -/
theorem ofAttributes_run (environment : Environment) (metadata : String → Option String) :
    let resource := ofAttributes (run environment (fixedMetadata metadata) ()).result.resource.1
    (∃ platform, Platform.PointedTo environment platform) ∧
      (∃ places : Places, places.ToldBy metadata) ∧
      (∀ (platform : Platform) (places : Places), Platform.PointedTo environment platform →
        places.ToldBy metadata → resource = ofProcess environment metadata places platform) ∧
      resource.kind ≠ "k8s_node" := by
  intro resource
  have mapped : resource = ofProcess environment metadata (.ofMetadata metadata)
      (Platform.classify environment) := by
    simp only [resource, run_fixed, ofProcess]
    split
    · rfl
    · rfl
    · exact ofAttributes_outcome _ _ _ _
  refine ⟨⟨_, Platform.pointedTo_classify environment⟩, ⟨_, Places.toldBy_ofMetadata metadata⟩,
    ?_, ?_⟩
  · intro platform places pointed told
    rw [pointed.eq_classify, told.eq_ofMetadata, mapped]
  · rw [mapped]
    exact kind_ofProcess environment metadata _ _

theorem ofAttributes_run_app :
    let environment : Environment := fun name =>
      if name = "GAE_SERVICE" then some "default" else if name = "GAE_VERSION" then some "v2" else none
    let metadata : String → Option String := fun path =>
      if path = "project/project-id" then some "my-project"
      else if path = "instance/zone" then some "projects/1/zones/us-east1-b"
      else if path = "instance/region" then some "projects/1/regions/us-west1"
      else none
    let places : Places := ⟨some "us-east1-b", some "us-east1", some "us-west1"⟩
    let resource := ofAttributes (run environment (fixedMetadata metadata) ()).result.resource.1
    Platform.PointedTo environment .appEngine ∧ places.ToldBy metadata ∧
      resource = ofProcess environment metadata places .appEngine ∧
      resource = present "gae_instance" [("module_id", some "default"), ("version_id", some "v2"),
        ("instance_id", none), ("location", some "us-east1")] := by
  intro environment metadata places resource
  have pointed : Platform.PointedTo environment .appEngine := .appEngine (by decide) (by decide)
  have same : places = .ofMetadata metadata := by decide +kernel
  have told : places.ToldBy metadata := same ▸ Places.toldBy_ofMetadata metadata
  have monitored := (ofAttributes_run environment metadata).2.2.1 .appEngine places pointed told
  exact ⟨pointed, told, monitored, monitored.trans rfl⟩

end Detection

end CloudMonitoring
