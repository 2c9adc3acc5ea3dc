import CloudMonitoring.Session
import CloudMonitoring.Platform.Location

/-!
Look-ups on the instance metadata server. The server is a collaborator that is asked for paths and
has a value for a path or none.
-/

namespace CloudMonitoring

abbrev MetadataSession (State Result : Type) := Session String (Option String) State Result

def fixedMetadata (values : String → Option String) : Responder String (Option String) Unit :=
  fun _ path => (values path, ())

namespace Metadata

def projectIdPath : String := "project/project-id"
def zonePath : String := "instance/zone"
def regionPath : String := "instance/region"
def instanceIdPath : String := "instance/id"
def instanceNamePath : String := "instance/name"
def machineTypePath : String := "instance/machine-type"
def hostnamePath : String := "instance/hostname"
def clusterNamePath : String := "instance/attributes/cluster-name"
def clusterLocationPath : String := "instance/attributes/cluster-location"

variable {State : Type}

def lastSegmentOf (path : String) : MetadataSession State (Option String) := do
  let value ← Session.ask path
  return value.map lastSegment

def projectId : MetadataSession State (Option String) := Session.ask projectIdPath

def zone : MetadataSession State (Option String) := lastSegmentOf zonePath

def region : MetadataSession State (Option String) := lastSegmentOf regionPath

def regionFromZone : MetadataSession State (Option String) := do
  let zone ← zone
  return zone.bind regionOfZone?

def machineType : MetadataSession State (Option String) := lastSegmentOf machineTypePath

def instanceId : MetadataSession State (Option String) := Session.ask instanceIdPath

def instanceName : MetadataSession State (Option String) := Session.ask instanceNamePath

def instanceHostname : MetadataSession State (Option String) := Session.ask hostnamePath

def clusterName : MetadataSession State (Option String) := Session.ask clusterNamePath

def clusterLocation : MetadataSession State (Option String) := Session.ask clusterLocationPath

end Metadata

end CloudMonitoring
