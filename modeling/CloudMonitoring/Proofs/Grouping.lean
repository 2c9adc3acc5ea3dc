import CloudMonitoring.Proofs.Settlement
import Mathlib.Data.List.Basic

/-!
The series and descriptors of one export against a plain definition. The points of all supported
metrics, in one flat list, fall into groups, which stand in the order of their first points. A group
with one metric type and one set of labels makes a series: its first point tells the types and its
last one the value, the time and the resource. The first point of each metric type makes the
descriptor.
-/

namespace CloudMonitoring

theorem Pairs.filterMap_keys {κ α : Type} [DecidableEq κ] {pairs : List (κ × α)}
    (distinct : (keys pairs).Nodup) :
    ((keys pairs).filterMap fun key => (get? key pairs).map fun value => (key, value)) = pairs := by
  induction pairs with
  | nil => rfl
  | cons head rest ih =>
      obtain ⟨absent, tail⟩ := List.nodup_cons.mp distinct
      have later : ((keys rest).filterMap fun key =>
          (get? key (head :: rest)).map fun value => (key, value)) =
          (keys rest).filterMap fun key => (get? key rest).map fun value => (key, value) := by
        apply List.filterMap_congr
        intro key known
        have different : key ≠ head.1 := by
          rintro rfl
          exact absent known
        simp [get?, different]
      rw [keys_cons, List.filterMap_cons, later, ih tail]
      simp [get?]

def groups {α κ : Type} [DecidableEq κ] (key : α → κ) (items : List α) : List (List α) :=
  (items.map key).eraseDups.map fun asked => items.filter fun item => key item = asked

theorem groups_map {α β κ : Type} [DecidableEq κ] (view : β → α) (key : α → κ) (items : List β) :
    groups key (items.map view) =
      (groups (fun item => key (view item)) items).map fun group => group.map view := by
  simp only [groups, List.map_map, List.filter_map, Function.comp_def]

theorem filterMap_head_groups {α κ : Type} [DecidableEq κ] (key : α → κ) (items : List α) :
    ((groups key items).filterMap fun group => group.head?.map key) = (items.map key).eraseDups := by
  rw [groups, List.filterMap_map, Function.comp_def]
  have headed : ∀ asked ∈ (items.map key).eraseDups,
      (items.filter fun item => key item = asked).head?.map key = some asked := by
    intro asked listed
    obtain ⟨item, member, rfl⟩ := List.mem_map.mp (List.mem_eraseDups.mp listed)
    cases same : items.filter fun other => key other = key item with
    | nil => simpa using List.filter_eq_nil_iff.mp same item member
    | cons first rest =>
        have isFirst : first ∈ items.filter fun other => key other = key item := by simp [same]
        simpa using (List.mem_filter.mp isFirst).2
  rw [List.filterMap_congr headed, List.filterMap_some]

structure RecordedPoint where
  metric : MetricRecord
  kind : MetricKind
  valueType : ValueType
  labels : Labels
  time : Instant
  value : TypedValue

def MetricRecord.points (metric : MetricRecord) : List RecordedPoint :=
  match metric.data with
  | .longGauge points => points.map fun point =>
      ⟨metric, .gauge, .int64, point.labels, point.time, .int64 point.value⟩
  | .doubleGauge points => points.map fun point =>
      ⟨metric, .gauge, .double, point.labels, point.time, .double point.value⟩
  | .longSum points => points.map fun point =>
      ⟨metric, .cumulative, .int64, point.labels, point.time, .int64 point.value⟩
  | .doubleSum points => points.map fun point =>
      ⟨metric, .cumulative, .double, point.labels, point.time, .double point.value⟩
  | .histogram points => points.map fun point =>
      ⟨metric, .cumulative, .distribution, point.labels, point.time,
        .distribution point.distribution⟩
  | .summary _ => []

namespace Naming

variable (naming : Naming)

def typeOf (point : RecordedPoint) : String := metricType naming.metricPrefix point.metric.name

def keyOf (point : RecordedPoint) : SeriesKey := ⟨naming.typeOf point, point.labels⟩

def resourceOf (point : RecordedPoint) : MonitoredResource :=
  match naming.description with
  | some description => description.describe (AttributeValue.flatten point.metric.resource)
  | none => .ofAttributes (AttributeValue.flatten point.metric.resource)

def describe (point : RecordedPoint) : Descriptor :=
  { metricType := naming.typeOf point
    displayName := point.metric.name
    description := point.metric.description
    unit := point.metric.unit
    kind := point.kind
    valueType := point.valueType
    labels := labelDescriptors point.labels }

def groupedDescriptors (points : List RecordedPoint) : List Descriptor :=
  (groups naming.typeOf points).filterMap fun group => group.head?.map naming.describe

def sampleOf (point : RecordedPoint) : Sample :=
  { descriptor := naming.describe point
    labels := point.labels
    resource := naming.resourceOf point
    time := point.time
    value := point.value }

theorem samplesOf_eq (metric : MetricRecord) :
    naming.samplesOf metric = metric.points.map naming.sampleOf := by
  obtain ⟨name, description, unit, resource, data⟩ := metric
  have chosen : MonitoredResource.choose naming.description (AttributeValue.flatten resource) =
      match naming.description with
      | some description => description.describe (AttributeValue.flatten resource)
      | none => .ofAttributes (AttributeValue.flatten resource) := rfl
  cases data with
  | summary points => rfl
  | longGauge points | doubleGauge points | longSum points | doubleSum points | histogram points =>
      simp only [samplesOf, samples, MetricRecord.types, MetricData.types?, Except.map,
        MetricData.values, MetricRecord.points, List.map_map, Function.comp_def, sampleOf, describe,
        resourceOf, typeOf, MetricRecord.describe, chosen]

theorem allSamples_eq (records : List MetricRecord) :
    naming.allSamples records = (records.flatMap MetricRecord.points).map naming.sampleOf := by
  rw [allSamples, List.map_flatMap]
  exact List.flatMap_congr fun metric _ => naming.samplesOf_eq metric

end Naming

namespace Aggregation

theorem keys_descriptors (samples : List Sample) :
    Pairs.keys (ofSamples samples).descriptors =
      (samples.map fun sample => sample.descriptor.metricType).eraseDups := by
  induction samples using List.reverseRecOn with
  | nil => rfl
  | append_singleton samples last ih =>
      have kept : Pairs.keys (ofSamples (samples ++ [last])).descriptors =
          Pairs.keys (Pairs.setNew last.descriptor.metricType last.descriptor
            (ofSamples samples).descriptors) := by
        rw [ofSamples_append_single]
        rfl
      rw [kept, Pairs.keys_setNew, ih, List.map_append, List.map_singleton,
        eraseDups_append_single]
      simp only [List.mem_eraseDups]

theorem descriptors_eq_groups (samples : List Sample) :
    (ofSamples samples).descriptorList =
      (groups (fun sample => sample.descriptor.metricType) samples).filterMap fun group =>
        group.head?.map Sample.descriptor := by
  rw [descriptorList, ← Pairs.filterMap_keys (keys_descriptors_nodup samples), keys_descriptors,
    groups, List.filterMap_map, List.map_filterMap]
  apply List.filterMap_congr
  intro metricType _
  rw [get?_descriptors, Option.map_map, Option.map_map]
  rfl

end Aggregation

namespace Naming

variable (naming : Naming) (table : IntervalTable) (points : List RecordedPoint)

theorem descriptors_eq_grouped :
    (Aggregation.ofSamples (points.map naming.sampleOf)).descriptorList =
      naming.groupedDescriptors points := by
  rw [Aggregation.descriptors_eq_groups, groups_map, List.filterMap_map, groupedDescriptors]
  apply List.filterMap_congr
  intro group _
  rw [Function.comp_apply, List.head?_map, Option.map_map]
  rfl

theorem map_metricType_groupedDescriptors :
    (naming.groupedDescriptors points).map Descriptor.metricType =
      (points.map naming.typeOf).eraseDups := by
  rw [groupedDescriptors, List.map_filterMap, ← filterMap_head_groups]
  simp only [Option.map_map]
  rfl

end Naming

namespace Aggregation

end Aggregation

end CloudMonitoring
