import CloudMonitoring.Resource.Monitored

/-!
Labels from attributes. Where nothing but the platform has given the attributes, every label is the first
of its keys that is present, and what there is for a few keys tells the whole resource.
-/

namespace CloudMonitoring

namespace Dict

variable {α : Type}

def insertAll (dict : Dict α) (pairs : List (String × Option α)) : Dict α :=
  pairs.foldl (fun dict pair => dict.insertSome pair.1 pair.2) dict

theorem get?_insertAll {pairs : List (String × Option α)} (distinct : (Pairs.keys pairs).Nodup)
    (dict : Dict α) (key : String) :
    (dict.insertAll pairs).get? key = (Pairs.get? key pairs).join.or (dict.get? key) := by
  induction pairs generalizing dict with
  | nil => rfl
  | cons pair rest ih =>
      obtain ⟨first, value⟩ := pair
      obtain ⟨absent, restDistinct⟩ := List.nodup_cons.mp distinct
      rw [insertAll, List.foldl_cons, ← insertAll, ih restDistinct, get?_insertSome, Pairs.get?]
      by_cases same : key = first
      · subst same
        simp [(Pairs.get?_eq_none_iff key rest).mpr absent]
      · simp [same]

end Dict

structure PlatformOnly (attributes : Dict String) : Prop where
  noService : attributes.get? "service.name" = none
  noNamespace : attributes.get? "service.namespace" = none
  noInstance : attributes.get? "service.instance.id" = none
  noNode : attributes.get? "k8s.node.name" = none

namespace LabelRule

variable {attributes : Dict String}

theorem firstReal?_of_unnamed {keys : List String}
    (unnamed : "service.name" ∈ keys → attributes.get? "service.name" = none) :
    firstReal? attributes keys = keys.findSome? attributes.get? := by
  induction keys with
  | nil => rfl
  | cons key rest ih =>
      have later := ih fun member => unnamed (List.mem_cons_of_mem _ member)
      rw [firstReal?, List.findSome?_cons]
      cases found : attributes.get? key with
      | none => exact later
      | some value =>
          have given : key ≠ "service.name" := by
            rintro rfl
            simp [unnamed] at found
          simp [isPlaceholder, given]

def filled (rule : LabelRule) (attributes : Dict String) : String × Option String :=
  (rule.label, (rule.keys.findSome? attributes.get?).or rule.fallback)

theorem resolve_of_unnamed (rule : LabelRule)
    (unnamed : "service.name" ∈ rule.keys → attributes.get? "service.name" = none) :
    (rule.label, rule.resolve attributes) = rule.filled attributes := by
  rw [filled, resolve, firstReal?_of_unnamed unnamed]
  cases rule.keys.findSome? attributes.get? with
  | none =>
      by_cases named : "service.name" ∈ rule.keys
      · simp [named, unnamed named]
      · simp [named]
  | some value => rfl

theorem resolve_of_platform (only : PlatformOnly attributes) (rule : LabelRule) :
    (rule.label, rule.resolve attributes) = rule.filled attributes :=
  rule.resolve_of_unnamed fun _ => only.noService

theorem filled_one (label key : String) (fallback : Option String) :
    filled ⟨label, [key], fallback⟩ attributes = (label, (attributes.get? key).or fallback) := by
  simp [filled]

theorem filled_two (label first second : String) (fallback : Option String) :
    filled ⟨label, [first, second], fallback⟩ attributes =
      (label, ((attributes.get? first).or (attributes.get? second)).or fallback) := by
  cases found : attributes.get? first <;> simp [filled, found]

end LabelRule

namespace MonitoredResource

open LabelRule

def present (kind : String) (labels : List (String × Option String)) : MonitoredResource :=
  ⟨kind, Dict.empty.insertAll labels⟩

def clusterPart (location clusterName inNamespace pod container : Option String) :
    MonitoredResource :=
  let cluster := [("location", location.or (some "global")), ("cluster_name", clusterName)]
  let podOfCluster :=
    cluster ++ [("namespace_name", inNamespace.or (some "")), ("pod_name", pod)]
  if container.isSome then
    present "k8s_container" (podOfCluster ++ [("container_name", container)])
  else if pod.isSome then present "k8s_pod" podOfCluster
  else present "k8s_cluster" cluster

def taskOrNode (location job task node : Option String) : MonitoredResource :=
  let place := [("location", location.or (some "global")), ("namespace", some "")]
  if job.isSome ∧ task.isSome then
    present "generic_task" (place ++ [("job", job), ("task_id", task)])
  else present "generic_node" (place ++ [("node_id", node.or (some ""))])

def place (attributes : Dict String) : Option String :=
  (attributes.get? "cloud.availability_zone").or (attributes.get? "cloud.region")

section

variable {attributes : Dict String}

theorem table_of_other (other : ∀ platform ∈ ["gcp_compute_engine", "aws_ec2", "gcp_app_engine"],
      attributes.get? "cloud.platform" ≠ some platform) :
    table attributes =
      if (attributes.get? "k8s.cluster.name").isSome then clusterTable attributes
      else genericTable attributes := by
  unfold table
  split <;> rename_i platform
  · exact absurd platform (other _ (by simp))
  · exact absurd platform (other _ (by simp))
  · exact absurd platform (other _ (by simp))
  · rfl

variable (only : PlatformOnly attributes)

include only

theorem ofAttributes_of_table {kind : String} {rules : List LabelRule}
    (chosen : table attributes = (kind, rules)) :
    ofAttributes attributes = present kind (rules.map fun rule => rule.filled attributes) := by
  simp only [ofAttributes, chosen, fill, present, Dict.insertAll, List.foldl_map,
    ← resolve_of_platform only]

theorem ofAttributes_machine
    (platform : attributes.get? "cloud.platform" = some "gcp_compute_engine") :
    ofAttributes attributes = present "gce_instance"
      [("zone", attributes.get? "cloud.availability_zone"),
        ("instance_id", attributes.get? "host.id")] := by
  have chosen : table attributes = ("gce_instance", machineRules) := by simp [table, platform]
  simp [ofAttributes_of_table only chosen, machineRules, filled_one]

theorem ofAttributes_app (platform : attributes.get? "cloud.platform" = some "gcp_app_engine") :
    ofAttributes attributes = present "gae_instance"
      [("module_id", attributes.get? "faas.name"), ("version_id", attributes.get? "faas.version"),
        ("instance_id", attributes.get? "faas.instance"),
        ("location", attributes.get? "cloud.region")] := by
  have chosen : table attributes = ("gae_instance", appRules) := by simp [table, platform]
  simp [ofAttributes_of_table only chosen, appRules, filled_one]

theorem ofAttributes_cluster
    (other : ∀ platform ∈ ["gcp_compute_engine", "aws_ec2", "gcp_app_engine"],
      attributes.get? "cloud.platform" ≠ some platform)
    (clustered : (attributes.get? "k8s.cluster.name").isSome) :
    ofAttributes attributes = clusterPart (place attributes) (attributes.get? "k8s.cluster.name")
      (attributes.get? "k8s.namespace.name") (attributes.get? "k8s.pod.name")
      (attributes.get? "k8s.container.name") := by
  have tabled := table_of_other other
  rw [if_pos clustered] at tabled
  simp only [clusterTable, Dict.contains, only.noNode] at tabled
  by_cases container : (attributes.get? "k8s.container.name").isSome
  · rw [if_pos container] at tabled
    simp [ofAttributes_of_table only tabled, containerRules, locationRule, clusterRule,
      clusterNamespaceRule, podRule, filled_one, filled_two, clusterPart, place, container]
  · rw [if_neg container] at tabled
    by_cases pod : (attributes.get? "k8s.pod.name").isSome
    · rw [if_pos pod] at tabled
      simp [ofAttributes_of_table only tabled, podRules, locationRule, clusterRule,
        clusterNamespaceRule, podRule, filled_one, filled_two, clusterPart, place, container, pod]
    · rw [if_neg pod] at tabled
      simp [ofAttributes_of_table only tabled, clusterRules, locationRule, clusterRule,
        filled_one, filled_two, clusterPart, place, container, pod]

theorem ofAttributes_generic
    (other : ∀ platform ∈ ["gcp_compute_engine", "aws_ec2", "gcp_app_engine"],
      attributes.get? "cloud.platform" ≠ some platform)
    (unclustered : attributes.get? "k8s.cluster.name" = none) :
    ofAttributes attributes = taskOrNode (place attributes) (attributes.get? "faas.name")
      (attributes.get? "faas.instance")
      ((attributes.get? "host.id").or (attributes.get? "host.name")) := by
  have tabled := table_of_other other
  rw [unclustered, if_neg (by simp)] at tabled
  simp only [genericTable, Dict.contains, only.noService, only.noInstance, Option.isSome_none,
    Bool.false_eq_true, false_or] at tabled
  by_cases named : (attributes.get? "faas.name").isSome ∧ (attributes.get? "faas.instance").isSome
  · rw [if_pos named] at tabled
    obtain ⟨⟨job, hasJob⟩, task, hasTask⟩ := And.imp Option.isSome_iff_exists.mp
      Option.isSome_iff_exists.mp named
    simp [ofAttributes_of_table only tabled, taskRules, locationRule, serviceNamespaceRule,
      filled_one, filled_two, taskOrNode, place, hasJob, hasTask, only.noService, only.noNamespace,
      only.noInstance]
  · rw [if_neg named] at tabled
    simp [ofAttributes_of_table only tabled, nodeOnlyRules, locationRule, serviceNamespaceRule,
      filled_one, filled_two, taskOrNode, place, named, only.noNamespace]

end

end MonitoredResource

end CloudMonitoring
