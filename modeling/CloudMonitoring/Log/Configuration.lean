import CloudMonitoring.Error
import CloudMonitoring.Log.Filter
import CloudMonitoring.Platform.Detection

/-!
How logs are set up: which events pass and how they are written. A process has one place that takes
its events, so logging can only be set up once.
-/

namespace CloudMonitoring

namespace Log

inductive Format
  | pretty
  | json
deriving DecidableEq, Repr

def Format.name : Format → String
  | .pretty => "pretty"
  | .json => "json"

structure Configuration where
  level : String
  format : Format
deriving DecidableEq, Repr

namespace Configuration

def standard : Configuration := ⟨"info", .pretty⟩

def ofEnvironment (environment : Environment) : Configuration :=
  { level := (environment "RUST_LOG").getD standard.level
    format := if environment "LOG_FORMAT" = some "json" then .json else .pretty }

def filter (configuration : Configuration) : Filter := .ofLevelText configuration.level

def install (configuration : Configuration) (installed : Option Configuration) :
    Except ExportError Configuration :=
  match installed with
  | none => .ok configuration
  | some _ => .error (.init
      "Failed to install subscriber: a global default trace dispatcher has already been set")

end Configuration

end Log

end CloudMonitoring
