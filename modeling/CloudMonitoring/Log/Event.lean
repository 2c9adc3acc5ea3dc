import CloudMonitoring.Dict
import CloudMonitoring.Json

/-!
Log events and their form as JSON members. An event has a level, a message and named fields; Cloud
Logging reads the severity from the level.
-/

namespace CloudMonitoring

namespace Log

inductive Level
  | error
  | warn
  | info
  | debug
  | trace
deriving DecidableEq, Repr

def Level.severity : Level → String
  | .error => "ERROR"
  | .warn => "WARNING"
  | .info => "INFO"
  | .debug => "DEBUG"
  | .trace => "DEBUG"

/-- A field's value. A text is a string; a shown value is the text that something displays as. -/
inductive Value
  | text (value : String)
  | shown (value : String)
  | int (value : Int)
  | double (value : Double)
  | bool (value : Bool)
deriving DecidableEq

def Value.toJson : Value → Json
  | .text value => .text value
  | .shown value => .text value
  | .int value => .int value
  | .double value => Json.ofDouble value
  | .bool value => .bool value

structure Event where
  level : Level
  message : String
  fields : List (String × Value)
deriving DecidableEq

def Event.over (event : Event) (record : Dict Json) : Dict Json :=
  event.fields.foldl (fun members field => members.insert field.1 field.2.toJson)
    (record.insert "message" (.text event.message))

def Event.toJson (event : Event) : Json :=
  .object (event.over (Dict.empty.insert "severity" (.text event.level.severity))).entries

end Log

end CloudMonitoring
