import CloudMonitoring.Error
import CloudMonitoring.Metric.Series
import CloudMonitoring.Session

/-!
The calls that an exporter makes on the monitoring service. The service may accept or refuse each of
them.
-/

namespace CloudMonitoring

/-- Series are written either as those of the user or as those of a service. The descriptors of a
service's series are made on the other side. -/
inductive WriteMode
  | plain
  | service
deriving DecidableEq, Repr

inductive Call
  | createDescriptor (project : String) (descriptor : Descriptor)
  | write (mode : WriteMode) (project : String) (series : List Series)
  | shutdown
deriving DecidableEq

abbrev CallResult := Except ExportError Unit

abbrev CallSession (State Result : Type) := Session Call CallResult State Result

end CloudMonitoring
