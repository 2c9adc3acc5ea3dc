import CloudMonitoring.Export.Exporter

/-!
Runs of an exporter: operations one after another, each on the exporter that the one before left.
The service is asked anew by every operation and may change its mind at any time.
-/

namespace CloudMonitoring

inductive Operation
  | exportRecords (records : List MetricRecord)
  | flush
  | shutdown
deriving DecidableEq

inductive OperationResult
  | exported (exported : Exported)
  | finished (result : CallResult)

namespace Exporter

variable {State : Type}

def perform (exporter : Exporter) : Operation → CallSession State (OperationResult × Exporter)
  | .exportRecords records => do
      let (exported, next) ← exporter.exportRecords records
      return (.exported exported, next)
  | .flush => do
      let (result, next) ← exporter.flush
      return (.finished result, next)
  | .shutdown => do
      let (result, next) ← exporter.shutdown
      return (.finished result, next)

def run (exporter : Exporter) :
    List Operation → CallSession State (List OperationResult × Exporter)
  | [] => return ([], exporter)
  | operation :: rest => do
      let (result, next) ← exporter.perform operation
      let (results, last) ← next.run rest
      return (result :: results, last)

end Exporter

end CloudMonitoring
