import CloudMonitoring.Dict

/-!
Monitored resources: the kind of thing a time series is about, with labels that tell which one. The
attributes of a resource choose a kind, and a table of rules for that kind fills its labels.
-/

namespace CloudMonitoring

structure MonitoredResource where
  kind : String
  labels : Dict String
deriving DecidableEq

/-- How one label is filled: from the first of several attributes that is present, or else with the
fallback. Without a fallback the label is left out. -/
structure LabelRule where
  label : String
  keys : List String
  fallback : Option String := none
deriving DecidableEq

namespace LabelRule

def isPlaceholder (key value : String) : Bool :=
  key = "service.name" ∧ "unknown_service".toList.isPrefixOf value.toList

def firstReal? (attributes : Dict String) : List String → Option String
  | [] => none
  | key :: rest =>
      match attributes.get? key with
      | none => firstReal? attributes rest
      | some value => if isPlaceholder key value then firstReal? attributes rest else some value

/-- A placeholder is passed over, but it is taken when no other key is present. -/
def resolve (rule : LabelRule) (attributes : Dict String) : Option String :=
  match firstReal? attributes rule.keys with
  | some value => some value
  | none =>
      if "service.name" ∈ rule.keys then (attributes.get? "service.name").or rule.fallback
      else rule.fallback

end LabelRule

namespace MonitoredResource

def locationRule : LabelRule :=
  { label := "location", keys := ["cloud.availability_zone", "cloud.region"],
    fallback := some "global" }

def clusterRule : LabelRule := { label := "cluster_name", keys := ["k8s.cluster.name"] }

def clusterNamespaceRule : LabelRule :=
  { label := "namespace_name", keys := ["k8s.namespace.name"], fallback := some "" }

def podRule : LabelRule := { label := "pod_name", keys := ["k8s.pod.name"] }

def serviceNamespaceRule : LabelRule :=
  { label := "namespace", keys := ["service.namespace"], fallback := some "" }

def machineRules : List LabelRule :=
  [{ label := "zone", keys := ["cloud.availability_zone"] },
    { label := "instance_id", keys := ["host.id"] }]

def containerRules : List LabelRule :=
  [locationRule, clusterRule, clusterNamespaceRule, podRule,
    { label := "container_name", keys := ["k8s.container.name"] }]

def podRules : List LabelRule := [locationRule, clusterRule, clusterNamespaceRule, podRule]

def nodeRules : List LabelRule :=
  [locationRule, clusterRule, { label := "node_name", keys := ["k8s.node.name"] }]

def clusterRules : List LabelRule := [locationRule, clusterRule]

def awsMachineRules : List LabelRule :=
  [{ label := "instance_id", keys := ["host.id"] },
    { label := "region", keys := ["cloud.availability_zone"] },
    { label := "aws_account", keys := ["cloud.account.id"] }]

def appRules : List LabelRule :=
  [{ label := "module_id", keys := ["faas.name"] },
    { label := "version_id", keys := ["faas.version"] },
    { label := "instance_id", keys := ["faas.instance"] },
    { label := "location", keys := ["cloud.region"] }]

def taskRules : List LabelRule :=
  [locationRule, serviceNamespaceRule,
    { label := "job", keys := ["service.name", "faas.name"], fallback := some "" },
    { label := "task_id", keys := ["service.instance.id", "faas.instance"], fallback := some "" }]

def nodeOnlyRules : List LabelRule :=
  [locationRule, serviceNamespaceRule,
    { label := "node_id", keys := ["host.id", "host.name"], fallback := some "" }]

def clusterTable (attributes : Dict String) : String × List LabelRule :=
  if attributes.contains "k8s.container.name" then ("k8s_container", containerRules)
  else if attributes.contains "k8s.pod.name" then ("k8s_pod", podRules)
  else if attributes.contains "k8s.node.name" then ("k8s_node", nodeRules)
  else ("k8s_cluster", clusterRules)

def genericTable (attributes : Dict String) : String × List LabelRule :=
  let hasJob := attributes.contains "service.name" ∨ attributes.contains "faas.name"
  let hasTask := attributes.contains "service.instance.id" ∨ attributes.contains "faas.instance"
  if hasJob ∧ hasTask then ("generic_task", taskRules) else ("generic_node", nodeOnlyRules)

def table (attributes : Dict String) : String × List LabelRule :=
  match attributes.get? "cloud.platform" with
  | some "gcp_compute_engine" => ("gce_instance", machineRules)
  | some "aws_ec2" => ("aws_ec2_instance", awsMachineRules)
  | some "gcp_app_engine" => ("gae_instance", appRules)
  | _ =>
      if attributes.contains "k8s.cluster.name" then clusterTable attributes
      else genericTable attributes

def fill (rules : List LabelRule) (attributes : Dict String) : Dict String :=
  rules.foldl (fun labels rule => labels.insertSome rule.label (rule.resolve attributes)) Dict.empty

def ofAttributes (attributes : Dict String) : MonitoredResource :=
  let (kind, rules) := table attributes
  ⟨kind, fill rules attributes⟩

end MonitoredResource

structure ResourceDescription where
  kind : String
  labels : List String
deriving DecidableEq

def ResourceDescription.describe (description : ResourceDescription) (attributes : Dict String) :
    MonitoredResource :=
  ⟨description.kind,
    description.labels.foldl (fun labels label => labels.insertSome label (attributes.get? label))
      Dict.empty⟩

def MonitoredResource.choose (description : Option ResourceDescription)
    (attributes : Dict String) : MonitoredResource :=
  match description with
  | some description => description.describe attributes
  | none => .ofAttributes attributes

end CloudMonitoring
