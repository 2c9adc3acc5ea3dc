import CloudMonitoring.Collection.Collected
import CloudMonitoring.Export.Exporter

/-!
Pushing whole collections, as a periodic reader does. A push succeeds only when nothing was left
out.
-/

namespace CloudMonitoring

inductive Temporality
  | cumulative
  | delta
deriving DecidableEq, Repr

inductive Pushed
  | done
  | refused (error : PushError)
  | undated
deriving DecidableEq, Repr

namespace Exporter

variable {State : Type}

def temporality : Temporality := .cumulative

def report (skipped records : Nat) : Exported → CallSession State Pushed
  | .undated => return .undated
  | .failed error => return .refused error.toPushError
  | .done outcome =>
      if 0 < skipped ∨ outcome = .failure then do
        Session.log .debug "Export finished with dropped metrics"
          [("skipped", .int skipped), ("records", .int records)]
        return .refused (.internalFailure "some metrics produced no time series")
      else return .done

def push (exporter : Exporter) (collection : Collection) :
    CallSession State (Pushed × Exporter) := do
  Session.logAll collection.logs
  let (exported, next) ← exporter.exportRecords collection.records
  return (← report collection.skipped.length collection.records.length exported, next)

def closeReader (exporter : Exporter) : CallSession State (Except PushError Unit × Exporter) := do
  let (result, next) ← exporter.shutdown
  return (result.mapError ExportError.toPushError, next)

end Exporter

end CloudMonitoring
