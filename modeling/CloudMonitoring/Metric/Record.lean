import CloudMonitoring.Resource.Attribute
import CloudMonitoring.Time.Instant

/-!
Metric records: a named metric with its resource and the points collected for it. The shape of a
metric is the kind of points it has.
-/

namespace CloudMonitoring

abbrev Labels := Dict String

structure NumberPoint (α : Type) where
  value : α
  labels : Labels
  start : Instant
  time : Instant
deriving DecidableEq

/-- A histogram with one more bucket than bounds: the last one counts what is above all bounds. -/
structure HistogramPoint where
  labels : Labels
  start : Instant
  time : Instant
  count : UInt64
  sum : Double
  bounds : List Double
  bucketCounts : List UInt64
deriving DecidableEq

structure SummaryPoint where
  labels : Labels
  start : Instant
  time : Instant
  count : UInt64
  sum : Double
deriving DecidableEq

inductive MetricData
  | longGauge (points : List (NumberPoint Int64))
  | doubleGauge (points : List (NumberPoint Double))
  | longSum (points : List (NumberPoint Int64))
  | doubleSum (points : List (NumberPoint Double))
  | histogram (points : List HistogramPoint)
  | summary (points : List SummaryPoint)
deriving DecidableEq

def MetricData.shape : MetricData → String
  | .longGauge _ => "LongGauge"
  | .doubleGauge _ => "DoubleGauge"
  | .longSum _ => "LongSum"
  | .doubleSum _ => "DoubleSum"
  | .histogram _ => "Histogram"
  | .summary _ => "Summary"

structure MetricRecord where
  name : String
  description : String
  unit : String
  resource : List (String × AttributeValue)
  data : MetricData
deriving DecidableEq

end CloudMonitoring
