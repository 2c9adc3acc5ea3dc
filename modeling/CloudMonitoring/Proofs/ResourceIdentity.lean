import CloudMonitoring.Proofs.LabelResolution
import CloudMonitoring.Proofs.Labels

/-!
A monitored resource says what it is. What chooses its kind and the rules that fill the labels of that
kind are written apart; they fit together, so that no resource lacks the names that its kind stands
for. Nothing but the attributes that the choice and the rules look at can make a difference.
-/

namespace CloudMonitoring

namespace LabelRule

variable {attributes others : Dict String}

theorem firstReal?_congr {keys : List String}
    (same : ∀ key ∈ keys, others.get? key = attributes.get? key) :
    firstReal? others keys = firstReal? attributes keys := by
  induction keys with
  | nil => rfl
  | cons head rest ih =>
      obtain ⟨sameHead, sameRest⟩ := List.forall_mem_cons.mp same
      simp only [firstReal?, sameHead, ih sameRest]

theorem resolve_congr {rule : LabelRule}
    (same : ∀ key ∈ rule.keys, others.get? key = attributes.get? key) :
    rule.resolve others = rule.resolve attributes := by
  simp only [resolve, firstReal?_congr same]
  by_cases named : "service.name" ∈ rule.keys
  · simp only [same _ named]
  · simp only [named, if_false]

theorem resolve_eq_some_cases {rule : LabelRule} {value : String}
    (resolved : rule.resolve attributes = some value) :
    (∃ key ∈ rule.keys, attributes.get? key = some value) ∨
      (∀ key ∈ rule.keys, attributes.get? key = none) ∧ rule.fallback = some value := by
  by_cases present : ∃ key ∈ rule.keys, attributes.contains key
  · obtain ⟨key, member, found, isFound, all⟩ := resolve_of_present present
    obtain rfl := Option.some.inj ((all rule.fallback).symm.trans resolved)
    exact .inl ⟨key, member, isFound⟩
  · have absent : ∀ key ∈ rule.keys, attributes.get? key = none := by
      simpa [Dict.contains] using present
    exact .inr ⟨absent, (resolve_of_none_present absent).symm.trans resolved⟩

end LabelRule

namespace MonitoredResource

def semanticKeys : List String :=
  ["cloud.platform", "cloud.account.id", "cloud.availability_zone", "cloud.region",
    "faas.instance", "faas.name", "faas.version", "host.id", "host.name",
    "k8s.cluster.name", "k8s.container.name", "k8s.namespace.name", "k8s.node.name", "k8s.pod.name",
    "service.instance.id", "service.name", "service.namespace"]

/-- The names that a kind stands for: labels, each with the attributes that it may be copied from. -/
def identity : String → List (String × List String)
  | "k8s_container" =>
      [("cluster_name", ["k8s.cluster.name"]), ("container_name", ["k8s.container.name"])]
  | "k8s_pod" => [("cluster_name", ["k8s.cluster.name"]), ("pod_name", ["k8s.pod.name"])]
  | "k8s_node" => [("cluster_name", ["k8s.cluster.name"]), ("node_name", ["k8s.node.name"])]
  | "k8s_cluster" => [("cluster_name", ["k8s.cluster.name"])]
  | "generic_task" =>
      [("job", ["service.name", "faas.name"]), ("task_id", ["service.instance.id", "faas.instance"])]
  | _ => []

inductive Selects (attributes : Dict String) : String → List LabelRule → Prop
  | machine : Selects attributes "gce_instance" machineRules
  | awsMachine : Selects attributes "aws_ec2_instance" awsMachineRules
  | app : Selects attributes "gae_instance" appRules
  | container : attributes.contains "k8s.cluster.name" → attributes.contains "k8s.container.name" →
      Selects attributes "k8s_container" containerRules
  | pod : attributes.contains "k8s.cluster.name" → attributes.contains "k8s.pod.name" →
      Selects attributes "k8s_pod" podRules
  | node : attributes.contains "k8s.cluster.name" → attributes.contains "k8s.node.name" →
      Selects attributes "k8s_node" nodeRules
  | cluster : attributes.contains "k8s.cluster.name" → Selects attributes "k8s_cluster" clusterRules
  | task : attributes.contains "service.name" ∨ attributes.contains "faas.name" →
      attributes.contains "service.instance.id" ∨ attributes.contains "faas.instance" →
      Selects attributes "generic_task" taskRules
  | genericNode : Selects attributes "generic_node" nodeOnlyRules

variable {attributes others : Dict String}

theorem selects_clusterTable (clustered : attributes.contains "k8s.cluster.name") :
    Selects attributes (clusterTable attributes).1 (clusterTable attributes).2 := by
  unfold clusterTable
  split
  · exact .container clustered ‹_›
  · split
    · exact .pod clustered ‹_›
    · split
      · exact .node clustered ‹_›
      · exact .cluster clustered

theorem selects_genericTable (attributes : Dict String) :
    Selects attributes (genericTable attributes).1 (genericTable attributes).2 := by
  simp only [genericTable]
  split
  · rename_i named
    exact .task named.1 named.2
  · exact .genericNode

theorem selects_table (attributes : Dict String) :
    Selects attributes (table attributes).1 (table attributes).2 := by
  unfold table
  split
  · exact .machine
  · exact .awsMachine
  · exact .app
  · split
    · exact selects_clusterTable ‹_›
    · exact selects_genericTable attributes

section Rules

variable {kind : String} {rules : List LabelRule}

theorem fill_eq (rules : List LabelRule) (attributes : Dict String) :
    fill rules attributes =
      Dict.empty.insertAll (rules.map fun rule => (rule.label, rule.resolve attributes)) := by
  rw [fill, Dict.insertAll, List.foldl_map]

theorem get?_fill (distinct : (rules.map LabelRule.label).Nodup) (attributes : Dict String)
    (label value : String) :
    (fill rules attributes).get? label = some value ↔
      ∃ rule ∈ rules, rule.label = label ∧ rule.resolve attributes = some value := by
  have distinctKeys :
      (Pairs.keys (rules.map fun rule => (rule.label, rule.resolve attributes))).Nodup := by
    rw [Pairs.keys, List.map_map]
    exact distinct
  rw [fill_eq, Dict.get?_insertAll distinctKeys, Dict.get?_empty, Option.or_none,
    Option.join_eq_some_iff, Pairs.get?_eq_some_iff distinctKeys, List.mem_map]
  simp only [Prod.mk.injEq]

namespace Selects

theorem distinct (selected : Selects attributes kind rules) :
    (rules.map LabelRule.label).Nodup := by
  cases selected <;> decide

theorem semantic (selected : Selects attributes kind rules) :
    ∀ rule ∈ rules, ∀ key ∈ rule.keys, key ∈ semanticKeys := by
  cases selected <;> decide

theorem identified (selected : Selects attributes kind rules) :
    ∀ name ∈ identity kind, ∃ rule ∈ rules, rule.label = name.1 ∧ rule.keys = name.2 ∧
      ∃ key ∈ rule.keys, attributes.contains key := by
  cases selected with
  | machine | awsMachine | app | genericNode => simp [identity]
  | container clustered named =>
      simp [identity, containerRules, locationRule, clusterRule, clusterNamespaceRule, podRule,
        clustered, named]
  | pod clustered named =>
      simp [identity, podRules, locationRule, clusterRule, clusterNamespaceRule, podRule,
        clustered, named]
  | node clustered named =>
      simp [identity, nodeRules, locationRule, clusterRule, clustered, named]
  | cluster clustered =>
      simp [identity, clusterRules, locationRule, clusterRule, clustered]
  | task job task =>
      simp [identity, taskRules, locationRule, serviceNamespaceRule, job, task]

theorem located (selected : Selects attributes kind rules)
    (somewhere : "k8s_".toList <+: kind.toList ∨ "generic_".toList <+: kind.toList) :
    locationRule ∈ rules := by
  cases selected with
  | machine | awsMachine | app => exact absurd somewhere (by decide)
  | container | pod | node | cluster | task | genericNode => decide

end Selects

end Rules

theorem get?_labels (attributes : Dict String) (label value : String) :
    (ofAttributes attributes).labels.get? label = some value ↔
      ∃ rule ∈ (table attributes).2, rule.label = label ∧ rule.resolve attributes = some value :=
  get?_fill (selects_table attributes).distinct attributes label value

theorem resolve_locationRule (attributes : Dict String) :
    locationRule.resolve attributes = some ((place attributes).getD "global") := by
  have unnamed : "service.name" ∈ locationRule.keys → attributes.get? "service.name" = none := by
    simp [locationRule]
  calc locationRule.resolve attributes
      = (locationRule.filled attributes).2 :=
        congrArg Prod.snd (locationRule.resolve_of_unnamed unnamed)
    _ = some ((place attributes).getD "global") := by
        rw [locationRule, LabelRule.filled_two, place, Option.or_some]

theorem resolve_of_faas {rule : LabelRule} (keys : rule.keys = ["service.name", "faas.name"])
    {job : String} (present : attributes.get? "faas.name" = some job)
    (unnamed : ¬ LabelRule.Given attributes "service.name") : rule.resolve attributes = some job := by
  have first : IsFirst (LabelRule.Given attributes) rule.keys "faas.name" :=
    ⟨⟨job, present, by simp⟩, ["service.name"], [], keys, by simpa using unnamed⟩
  exact (rule.resolve_of_isFirst first).trans present

theorem table_congr (same : ∀ key ∈ semanticKeys, others.get? key = attributes.get? key) :
    table others = table attributes := by
  unfold table clusterTable genericTable Dict.contains
  rw [same "cloud.platform" (by decide), same "k8s.cluster.name" (by decide),
    same "k8s.container.name" (by decide), same "k8s.pod.name" (by decide),
    same "k8s.node.name" (by decide), same "service.name" (by decide),
    same "faas.name" (by decide), same "service.instance.id" (by decide),
    same "faas.instance" (by decide)]

theorem ofAttributes_congr (same : ∀ key ∈ semanticKeys, others.get? key = attributes.get? key) :
    ofAttributes others = ofAttributes attributes := by
  have semantic := (selects_table attributes).semantic
  simp only [ofAttributes, table_congr same, fill_eq]
  congr 2
  apply List.map_congr_left
  intro rule member
  rw [LabelRule.resolve_congr fun key listed => same key (semantic rule member key listed)]

def Carries (attributes : Dict String) (resource : MonitoredResource) (label key : String) : Prop :=
  ∃ value, attributes.get? key = some value ∧ resource.labels.get? label = some value

theorem carries_identity (attributes : Dict String) :
    ∀ name ∈ identity (ofAttributes attributes).kind, ∃ key ∈ name.2,
      Carries attributes (ofAttributes attributes) name.1 key := by
  intro name listed
  obtain ⟨rule, ruled, sameLabel, sameKeys, present⟩ :=
    (selects_table attributes).identified name listed
  obtain ⟨key, member, value, found, resolved⟩ := LabelRule.resolve_of_present present
  refine ⟨key, sameKeys ▸ member, value, found, ?_⟩
  exact (get?_labels attributes name.1 value).mpr ⟨rule, ruled, sameLabel, resolved rule.fallback⟩

theorem carries_faas (attributes : Dict String) (isTask : (ofAttributes attributes).kind = "generic_task")
    (present : attributes.contains "faas.name")
    (unnamed : attributes.get? "service.name" = none ∨
      ∃ rest, attributes.get? "service.name" = some ("unknown_service" ++ rest)) :
    Carries attributes (ofAttributes attributes) "job" "faas.name" := by
  obtain ⟨job, found⟩ := Option.isSome_iff_exists.mp present
  obtain ⟨rule, ruled, sameLabel, sameKeys, -⟩ :=
    (selects_table attributes).identified ("job", ["service.name", "faas.name"])
      (by rw [show (table attributes).1 = "generic_task" from isTask]; simp [identity])
  have notGiven : ¬ LabelRule.Given attributes "service.name" := by
    rcases unnamed with absent | ⟨rest, placeholder⟩
    · rintro ⟨value, given, -⟩
      simp [absent] at given
    · simp [LabelRule.given_iff_of_placeholder placeholder]
  refine ⟨job, found, (get?_labels attributes "job" job).mpr ⟨rule, ruled, sameLabel, ?_⟩⟩
  exact resolve_of_faas sameKeys found notGiven

theorem kind_of_other (other : ∀ platform ∈ ["gcp_compute_engine", "aws_ec2", "gcp_app_engine"],
      attributes.get? "cloud.platform" ≠ some platform) :
    if attributes.contains "k8s.cluster.name" then
      "k8s_".toList <+: (ofAttributes attributes).kind.toList
    else "generic_".toList <+: (ofAttributes attributes).kind.toList := by
  have chosen : (ofAttributes attributes).kind = (table attributes).1 := rfl
  rw [chosen, table_of_other other, Dict.contains]
  split
  · unfold clusterTable
    split
    · decide
    · split
      · decide
      · split <;> decide
  · simp only [genericTable]
    split <;> decide

/-- Every resource has the names that its kind stands for, each of them from an attribute, and every
resource of a cluster and every generic one has a location. No label says what neither an attribute
nor the fallback of its rule says, and attributes without a meaning make no difference. -/
theorem identity_kept (attributes : Dict String) :
    let resource := ofAttributes attributes
    ((∀ platform ∈ ["gcp_compute_engine", "aws_ec2", "gcp_app_engine"],
        attributes.get? "cloud.platform" ≠ some platform) →
      if attributes.contains "k8s.cluster.name" then "k8s_".toList <+: resource.kind.toList
      else "generic_".toList <+: resource.kind.toList) ∧
    (∀ name ∈ identity resource.kind, ∃ key ∈ name.2, Carries attributes resource name.1 key) ∧
    (resource.kind = "generic_task" → attributes.contains "faas.name" →
      (attributes.get? "service.name" = none ∨
        ∃ rest, attributes.get? "service.name" = some ("unknown_service" ++ rest)) →
      Carries attributes resource "job" "faas.name") ∧
    (("k8s_".toList <+: resource.kind.toList ∨ "generic_".toList <+: resource.kind.toList) →
      resource.labels.get? "location" = some (((attributes.get? "cloud.availability_zone").or
        (attributes.get? "cloud.region")).getD "global")) ∧
    (∀ label value, resource.labels.get? label = some value →
      ∃ rule ∈ (table attributes).2, rule.label = label ∧
        ((∃ key ∈ rule.keys, attributes.get? key = some value) ∨
          (∀ key ∈ rule.keys, attributes.get? key = none) ∧ rule.fallback = some value)) ∧
    (∀ others, (∀ key ∈ semanticKeys, others.get? key = attributes.get? key) →
      ofAttributes others = resource) ∧
    ∀ key value, key ∉ semanticKeys → ofAttributes (attributes.insert key value) = resource := by
  intro resource
  refine ⟨kind_of_other, carries_identity attributes, carries_faas attributes, ?_, ?_,
    fun others same => ofAttributes_congr same, ?_⟩
  · intro somewhere
    have ruled := (selects_table attributes).located somewhere
    exact (get?_labels attributes "location" _).mpr
      ⟨locationRule, ruled, rfl, resolve_locationRule attributes⟩
  · intro label value found
    obtain ⟨rule, ruled, sameLabel, resolved⟩ := (get?_labels attributes label value).mp found
    exact ⟨rule, ruled, sameLabel, LabelRule.resolve_eq_some_cases resolved⟩
  · intro key value meaningless
    refine ofAttributes_congr fun other listed => ?_
    rw [Dict.get?_insert, if_neg]
    rintro rfl
    exact meaningless listed

theorem identity_kept_unnamed :
    let attributes := ((Dict.empty.insert "service.name" "unknown_service:java").insert
      "faas.name" "resize").insert "faas.instance" "0042"
    let resource := ofAttributes attributes
    (∀ platform ∈ ["gcp_compute_engine", "aws_ec2", "gcp_app_engine"],
      attributes.get? "cloud.platform" ≠ some platform) ∧
    resource.kind = "generic_task" ∧
    (("task_id", ["service.instance.id", "faas.instance"]) ∈ identity resource.kind ∧
      ∃ key ∈ ["service.instance.id", "faas.instance"],
        Carries attributes resource "task_id" key) ∧
    (attributes.contains "faas.name" ∧
      attributes.get? "service.name" = some ("unknown_service" ++ ":java") ∧
      Carries attributes resource "job" "faas.name") ∧
    ("generic_".toList <+: resource.kind.toList ∧
      resource.labels.get? "location" = some "global" ∧
      ∃ rule ∈ (table attributes).2, rule.label = "location" ∧
        ((∃ key ∈ rule.keys, attributes.get? key = some "global") ∨
          (∀ key ∈ rule.keys, attributes.get? key = none) ∧ rule.fallback = some "global")) ∧
    "color" ∉ semanticKeys ∧ ofAttributes (attributes.insert "color" "red") = resource := by
  intro attributes resource
  have elsewhere : ∀ platform ∈ ["gcp_compute_engine", "aws_ec2", "gcp_app_engine"],
      attributes.get? "cloud.platform" ≠ some platform := by decide +kernel
  have isTask : resource.kind = "generic_task" := by decide +kernel
  have listed : ("task_id", ["service.instance.id", "faas.instance"]) ∈ identity resource.kind :=
    isTask ▸ by decide
  have present : attributes.contains "faas.name" := by decide +kernel
  have placeholder : attributes.get? "service.name" = some ("unknown_service" ++ ":java") := by
    decide +kernel
  have meaningless : "color" ∉ semanticKeys := by decide
  obtain ⟨chosen, carried, job, location, known, -, kept⟩ := identity_kept attributes
  have notClustered : ¬ attributes.contains "k8s.cluster.name" := by decide +kernel
  have generic : "generic_".toList <+: resource.kind.toList :=
    (if_neg notClustered).mp (chosen elsewhere)
  have located := location (.inr generic)
  exact ⟨elsewhere, isTask, ⟨listed, carried _ listed⟩,
    ⟨present, placeholder, job isTask present (.inr ⟨_, placeholder⟩)⟩,
    ⟨generic, located, known _ _ located⟩, meaningless, kept "color" "red" meaningless⟩

end MonitoredResource

end CloudMonitoring
