import CloudMonitoring.Json
import CloudMonitoring.Metric.Record
import CloudMonitoring.Resource.Monitored
import CloudMonitoring.Time.Rfc3339

/-!
Descriptors and time series as the monitoring service takes them, with their JSON form.
-/

namespace CloudMonitoring

inductive MetricKind
  | gauge
  | cumulative
deriving DecidableEq, Repr

def MetricKind.text : MetricKind → String
  | .gauge => "GAUGE"
  | .cumulative => "CUMULATIVE"

inductive ValueType
  | int64
  | double
  | distribution
deriving DecidableEq, Repr

def ValueType.text : ValueType → String
  | .int64 => "INT64"
  | .double => "DOUBLE"
  | .distribution => "DISTRIBUTION"

inductive LabelType
  | string
  | bool
  | int64
deriving DecidableEq, Repr

def LabelType.text : LabelType → String
  | .string => "STRING"
  | .bool => "BOOL"
  | .int64 => "INT64"

structure LabelDescriptor where
  key : String
  type : LabelType
deriving DecidableEq

structure Descriptor where
  metricType : String
  displayName : String
  description : String
  unit : String
  kind : MetricKind
  valueType : ValueType
  labels : List LabelDescriptor
deriving DecidableEq

structure Interval where
  start : Instant
  stop : Instant
deriving DecidableEq

def Interval.instant (time : Instant) : Interval := ⟨time, time⟩

def Interval.Representable (interval : Interval) : Prop :=
  interval.start.Representable ∧ interval.stop.Representable

instance (interval : Interval) : Decidable interval.Representable :=
  inferInstanceAs (Decidable (_ ∧ _))

structure Distribution where
  count : UInt64
  mean : Double
  bounds : List Double
  bucketCounts : List UInt64
deriving DecidableEq

inductive TypedValue
  | int64 (value : Int64)
  | double (value : Double)
  | distribution (value : Distribution)
deriving DecidableEq

structure Point where
  interval : Interval
  value : TypedValue
deriving DecidableEq

structure Series where
  metricType : String
  labels : Labels
  resource : MonitoredResource
  kind : MetricKind
  valueType : ValueType
  points : List Point
deriving DecidableEq

def Series.Representable (series : Series) : Prop :=
  ∀ point ∈ series.points, point.interval.Representable

instance (series : Series) : Decidable series.Representable :=
  inferInstanceAs (Decidable (∀ point ∈ series.points, point.interval.Representable))

namespace Json

def ofLabels (labels : Dict String) : Json :=
  object (labels.entries.map fun entry => (entry.1, text entry.2))

def ofLabelDescriptor (label : LabelDescriptor) : Json :=
  object [("key", text label.key), ("valueType", text label.type.text)]

def ofDescriptor (descriptor : Descriptor) : Json :=
  object
    [("type", text descriptor.metricType),
      ("displayName", text descriptor.displayName),
      ("description", text descriptor.description),
      ("unit", text descriptor.unit),
      ("metricKind", text descriptor.kind.text),
      ("valueType", text descriptor.valueType.text),
      ("labels", array (descriptor.labels.map ofLabelDescriptor))]

def ofInterval (interval : Interval) : Json :=
  object
    [("startTime", text interval.start.toRfc3339), ("endTime", text interval.stop.toRfc3339)]

def ofDistribution (distribution : Distribution) : Json :=
  object
    [("count", int distribution.count.toNat),
      ("mean", ofDouble distribution.mean),
      ("bucketOptions",
        object [("explicitBuckets",
          object [("bounds", array (distribution.bounds.map ofDouble))])]),
      ("bucketCounts", array (distribution.bucketCounts.map fun count => int count.toNat))]

def ofTypedValue : TypedValue → Json
  | .int64 value => object [("int64Value", int value.toInt)]
  | .double value => object [("doubleValue", ofDouble value)]
  | .distribution value => object [("distributionValue", ofDistribution value)]

def ofPoint (point : Point) : Json :=
  object [("interval", ofInterval point.interval), ("value", ofTypedValue point.value)]

def ofResource (resource : MonitoredResource) : Json :=
  object [("type", text resource.kind), ("labels", ofLabels resource.labels)]

def ofSeries (series : Series) : Json :=
  object
    [("metric", object [("type", text series.metricType), ("labels", ofLabels series.labels)]),
      ("resource", ofResource series.resource),
      ("metricKind", text series.kind.text),
      ("valueType", text series.valueType.text),
      ("points", array (series.points.map ofPoint))]

end Json

end CloudMonitoring
