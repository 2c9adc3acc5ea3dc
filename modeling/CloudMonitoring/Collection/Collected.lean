import CloudMonitoring.Log.Event
import CloudMonitoring.Metric.Record

/-!
What is collected from instruments at one time, and the metric records that it makes. Every
collected metric makes one record, except an exponential histogram, which is skipped and logged.
-/

namespace CloudMonitoring

/-- The attributes of a point as they are listed. A key may come again, and then its last value
counts. -/
abbrev Attributes := List (String × AttributeValue)

def Attributes.labels (attributes : Attributes) : Labels :=
  AttributeValue.flatten attributes

structure CollectedHistogram (α : Type) where
  attributes : Attributes
  count : UInt64
  sum : α
  bounds : List Double
  bucketCounts : List UInt64

inductive Collected (α : Type)
  | gauge (start : Option Instant) (time : Instant) (points : List (Attributes × α))
  | sum (isMonotonic : Bool) (start time : Instant) (points : List (Attributes × α))
  | histogram (start time : Instant) (points : List (CollectedHistogram α))
  | exponentialHistogram

class Recordable (α : Type) where
  gauge : List (NumberPoint α) → MetricData
  sum : List (NumberPoint α) → MetricData
  toDouble : α → Double

def saturate (value : UInt64) : Int64 :=
  if (value.toNat : Int) ≤ Int64.maxValue.toInt then Int64.ofNat value.toNat else Int64.maxValue

def NumberPoint.map {α β : Type} (change : α → β) (point : NumberPoint α) : NumberPoint β :=
  { value := change point.value
    labels := point.labels
    start := point.start
    time := point.time }

instance : Recordable Int64 := ⟨.longGauge, .longSum, Double.ofInt64⟩

instance : Recordable Double := ⟨.doubleGauge, .doubleSum, id⟩

instance : Recordable UInt64 where
  gauge points := .longGauge (points.map (·.map saturate))
  sum points := .longSum (points.map (·.map saturate))
  toDouble := Double.ofUInt64

namespace Collected

variable {α : Type}

def numberPoints (start time : Instant) (points : List (Attributes × α)) :
    List (NumberPoint α) :=
  points.map fun (attributes, value) => ⟨value, attributes.labels, start, time⟩

/-- The data of a record. A sum that may fall is a gauge, since a cumulative series never falls. -/
def data? [Recordable α] : Collected α → Option MetricData
  | gauge start time points =>
      some (Recordable.gauge (numberPoints (start.getD time) time points))
  | sum isMonotonic start time points =>
      if isMonotonic then some (Recordable.sum (numberPoints start time points))
      else some (Recordable.gauge (numberPoints start time points))
  | histogram start time points =>
      some (.histogram (points.map fun point =>
        { labels := point.attributes.labels
          start := start
          time := time
          count := point.count
          sum := Recordable.toDouble point.sum
          bounds := point.bounds
          bucketCounts := point.bucketCounts }))
  | exponentialHistogram => none

end Collected

inductive CollectedData
  | natural (points : Collected UInt64)
  | int (points : Collected Int64)
  | double (points : Collected Double)

def CollectedData.data? : CollectedData → Option MetricData
  | natural points => points.data?
  | int points => points.data?
  | double points => points.data?

structure CollectedMetric where
  name : String
  description : String
  unit : String
  data : CollectedData

def CollectedMetric.record? (resource : List (String × AttributeValue))
    (metric : CollectedMetric) : Option MetricRecord :=
  metric.data.data?.map fun data =>
    ⟨metric.name, metric.description, metric.unit, resource, data⟩

structure Collection where
  resource : List (String × AttributeValue)
  scopes : List (List CollectedMetric)

namespace Collection

def empty : Collection := ⟨[], []⟩

def metrics (collection : Collection) : List CollectedMetric := collection.scopes.flatten

def skipped (collection : Collection) : List CollectedMetric :=
  collection.metrics.filter fun metric => metric.data.data?.isNone

def records (collection : Collection) : List MetricRecord :=
  collection.metrics.filterMap (·.record? collection.resource)

def logs (collection : Collection) : List Log.Event :=
  collection.skipped.map fun metric =>
    ⟨.error, "Skipping metric",
      [("metric", .shown metric.name), ("kind", .text "ExponentialHistogram")]⟩

end Collection

end CloudMonitoring
