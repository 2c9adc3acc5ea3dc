import CloudMonitoring.Log.Event
import CloudMonitoring.Metric.Descriptor
import CloudMonitoring.Metric.IntervalTable

/-!
Folding the points of one export into series. Points with the same key make one series, in the order
in which the keys first appear: the first point decides what kind of series it is, the last one
gives its value, time and resource. Intervals are settled when all points are in.
-/

namespace CloudMonitoring

def HistogramPoint.distribution (point : HistogramPoint) : Distribution :=
  { count := point.count
    mean := if point.count = 0 then Double.zero else point.sum.divide (Double.ofUInt64 point.count)
    bounds := point.bounds
    bucketCounts := point.bucketCounts }

def MetricData.values : MetricData → List (Labels × Instant × TypedValue)
  | .longGauge points | .longSum points =>
      points.map fun point => (point.labels, point.time, .int64 point.value)
  | .doubleGauge points | .doubleSum points =>
      points.map fun point => (point.labels, point.time, .double point.value)
  | .histogram points =>
      points.map fun point => (point.labels, point.time, .distribution point.distribution)
  | .summary _ => []

structure Sample where
  descriptor : Descriptor
  labels : Labels
  resource : MonitoredResource
  time : Instant
  value : TypedValue
deriving DecidableEq

def Sample.key (sample : Sample) : SeriesKey := ⟨sample.descriptor.metricType, sample.labels⟩

structure Naming where
  metricPrefix : String
  description : Option ResourceDescription
deriving DecidableEq

def Naming.samples (naming : Naming) (metric : MetricRecord) :
    Except ExportError (List Sample) :=
  metric.types.map fun types =>
    let resource := MonitoredResource.choose naming.description
      (AttributeValue.flatten metric.resource)
    metric.data.values.map fun (labels, time, value) =>
      { descriptor := metric.describe naming.metricPrefix types labels
        labels := labels
        resource := resource
        time := time
        value := value }

structure Pending where
  kind : MetricKind
  valueType : ValueType
  resource : MonitoredResource
  time : Instant
  value : TypedValue
deriving DecidableEq

structure Aggregation where
  descriptors : List (String × Descriptor)
  series : List (SeriesKey × Pending)
deriving DecidableEq

namespace Aggregation

def empty : Aggregation := ⟨[], []⟩

def place (sample : Sample) (series : List (SeriesKey × Pending)) :
    List (SeriesKey × Pending) × Bool :=
  match Pairs.get? sample.key series with
  | some earlier =>
      (Pairs.set sample.key { earlier with
        resource := sample.resource
        time := sample.time
        value := sample.value } series, true)
  | none =>
      (Pairs.set sample.key
        { kind := sample.descriptor.kind
          valueType := sample.descriptor.valueType
          resource := sample.resource
          time := sample.time
          value := sample.value } series, false)

def add (aggregation : Aggregation) (sample : Sample) : Aggregation × List Log.Event :=
  let (series, replaced) := place sample aggregation.series
  ({ descriptors := Pairs.setNew sample.descriptor.metricType sample.descriptor
      aggregation.descriptors
     series := series },
    if replaced then
      [⟨.trace, "Replacing point recorded earlier in this export",
        [("metric", .shown sample.descriptor.metricType)]⟩]
    else [])

def addAll (aggregation : Aggregation) : List Sample → Aggregation × List Log.Event
  | [] => (aggregation, [])
  | sample :: rest =>
      let (next, events) := aggregation.add sample
      let (last, later) := next.addAll rest
      (last, events ++ later)

def record (naming : Naming) (aggregation : Aggregation) (metric : MetricRecord) :
    Except ExportError (Aggregation × List Log.Event) :=
  (naming.samples metric).map aggregation.addAll

def recordAll (naming : Naming) (aggregation : Aggregation) :
    List MetricRecord → Aggregation × List Log.Event
  | [] => (aggregation, [])
  | metric :: rest =>
      match aggregation.record naming metric with
      | .ok (next, events) =>
          let (last, later) := next.recordAll naming rest
          (last, events ++ later)
      | .error error =>
          let (last, later) := aggregation.recordAll naming rest
          (last, ⟨.error, "Skipping metric",
            [("metric", .shown metric.name), ("error", .shown error.message)]⟩ :: later)

def descriptorList (aggregation : Aggregation) : List Descriptor :=
  aggregation.descriptors.map (·.2)

def settleOne (key : SeriesKey) (pending : Pending) (table : IntervalTable) :
    Interval × IntervalTable :=
  match pending.kind with
  | .gauge => (.instant pending.time, table)
  | .cumulative => table.extend key pending.time

def settle : List (SeriesKey × Pending) → IntervalTable → List Series × IntervalTable
  | [], table => ([], table)
  | (key, pending) :: rest, table =>
      let (interval, next) := settleOne key pending table
      let (series, last) := settle rest next
      ({ metricType := key.metricType
         labels := key.labels
         resource := pending.resource
         kind := pending.kind
         valueType := pending.valueType
         points := [⟨interval, pending.value⟩] } :: series, last)

def finish (aggregation : Aggregation) (table : IntervalTable) :
    Option (List Series × IntervalTable) :=
  let settled := settle aggregation.series table
  if ∀ series ∈ settled.1, series.Representable then some settled else none

end Aggregation

end CloudMonitoring
