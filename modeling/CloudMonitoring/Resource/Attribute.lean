import CloudMonitoring.Dict
import CloudMonitoring.Decimal.Layout

/-!
Attribute values and their text. Labels of the monitoring service are texts, so every value is
flattened before it is used.
-/

namespace CloudMonitoring

inductive AttributeValue
  | text (value : String)
  | bool (value : Bool)
  | int (value : Int64)
  | double (value : Double)
  | bools (values : List Bool)
  | ints (values : List Int64)
  | doubles (values : List Double)
  | texts (values : List String)
deriving DecidableEq

namespace AttributeValue

def layout : Decimal.Layout := .plainest

def boolText (value : Bool) : String := if value then "true" else "false"

def listText (items : List String) : String := "[" ++ ",".intercalate items ++ "]"

def toText : AttributeValue → String
  | text value => value
  | bool value => boolText value
  | int value => toString value.toInt
  | double value => layout.write value
  | bools values => listText (values.map boolText)
  | ints values => listText (values.map fun value => toString value.toInt)
  | doubles values => listText (values.map layout.write)
  | texts values => listText (values.map fun value => "\"" ++ value ++ "\"")

def hasNaN : AttributeValue → Bool
  | double value => value.isNaN
  | doubles values => values.any Double.isNaN
  | _ => false

def flatten (attributes : List (String × AttributeValue)) : Dict String :=
  Dict.ofList (attributes.map fun entry => (entry.1, entry.2.toText))

end AttributeValue

end CloudMonitoring
