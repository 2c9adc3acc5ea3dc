import CloudMonitoring.Error
import CloudMonitoring.Metric.Series
import CloudMonitoring.Text.Digits
import CloudMonitoring.Text.Pieces

/-!
The descriptor of a metric: its type under a prefix, its kind and value type by its shape, and the
types that its labels seem to have.
-/

namespace CloudMonitoring

/-- A name that mentions one of these domains is a whole metric type already. -/
def knownDomains : List String :=
  ["googleapis.com", "kubernetes.io", "istio.io", "knative.dev"]

def mentionsDomain (name : List Char) : Bool :=
  knownDomains.any fun domain => Text.occursIn domain.toList name

def defaultPrefix : String := "workload.googleapis.com"

def metricType (metricPrefix name : String) : String :=
  if mentionsDomain name.toList then name
  else String.ofList (Text.trimEnd '/' metricPrefix.toList ++ '/' :: name.toList)

def LabelType.ofValue (value : String) : LabelType :=
  if Text.sameLetters value.toList "true".toList ∨ Text.sameLetters value.toList "false".toList then
    .bool
  else
    match Text.integer? value.toList with
    | some n => if Int64.minValue.toInt ≤ n ∧ n ≤ Int64.maxValue.toInt then .int64 else .string
    | none => .string

def labelDescriptors (labels : Labels) : List LabelDescriptor :=
  labels.entries.map fun entry => ⟨entry.1, .ofValue entry.2⟩

def MetricData.types? : MetricData → Option (MetricKind × ValueType)
  | .longGauge _ => some (.gauge, .int64)
  | .doubleGauge _ => some (.gauge, .double)
  | .longSum _ => some (.cumulative, .int64)
  | .doubleSum _ => some (.cumulative, .double)
  | .histogram _ => some (.cumulative, .distribution)
  | .summary _ => none

def MetricRecord.types (metric : MetricRecord) : Except ExportError (MetricKind × ValueType) :=
  match metric.data.types? with
  | some types => .ok types
  | none => .error (.unsupportedShape metric.name metric.data.shape)

def MetricRecord.describe (metricPrefix : String) (metric : MetricRecord)
    (types : MetricKind × ValueType) (labels : Labels) : Descriptor :=
  { metricType := metricType metricPrefix metric.name
    displayName := metric.name
    description := metric.description
    unit := metric.unit
    kind := types.1
    valueType := types.2
    labels := labelDescriptors labels }

def MetricRecord.descriptor (metricPrefix : String) (metric : MetricRecord) (labels : Labels) :
    Except ExportError Descriptor :=
  metric.types.map fun types => metric.describe metricPrefix types labels

end CloudMonitoring
