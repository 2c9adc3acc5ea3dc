import CloudMonitoring.Text.Pieces

/-!
Zones and regions by name. A zone such as `us-central1-a` is its region, a dash and a letter, so the
number of dashes tells the two apart.
-/

namespace CloudMonitoring

def lastSegment (value : String) : String :=
  String.ofList (Text.afterLast '/' value.toList)

def regionOfZone? (zone : String) : Option String :=
  match Text.pieces '-' zone.toList with
  | continent :: area :: _ :: _ => some (String.ofList (continent ++ '-' :: area))
  | _ => none

inductive LocationKind
  | zone
  | region
  | undefined
deriving DecidableEq, Repr

def LocationKind.ofLocation (location : String) : LocationKind :=
  match location.toList.count '-' with
  | 2 => .zone
  | 1 => .region
  | _ => .undefined

def LocationKind.text : LocationKind → String
  | .zone => "ZONE"
  | .region => "REGION"
  | .undefined => ""

end CloudMonitoring
