import CloudMonitoring.Log.Filter
import CloudMonitoring.Text.Quoted
import CloudMonitoring.Time.Rfc3339

/-!
Log lines: one JSON object for an event that passes the filter, with its time, its target and the
innermost span it happened in.
-/

namespace CloudMonitoring

def Instant.toMicrosecondText (instant : Instant) : String :=
  String.ofList
    (Rfc3339.dateText (CivilDate.ofDays (instant.seconds / 86400)) ++ 'T'
      :: Rfc3339.clockText (instant.seconds % 86400).toNat
      ++ '.' :: Rfc3339.padded 6 (instant.subsecond / 1000).toNat ++ ['Z'])

namespace Log

def Value.description : Value → String
  | .text value => quotedText value
  | .shown value => value
  | .int value => toString value
  | .double value => Json.layout.write value
  | .bool value => if value then "true" else "false"

def Span.description (span : Span) : String :=
  " ".intercalate (span.fields.map fun field => field.1 ++ "=" ++ field.2.description)

def Span.toJson (span : Span) : Json :=
  .object (("name", .text span.name) ::
    (if span.fields.isEmpty then [] else [("fields", .text span.description)]))

def record (level : Level) (time : Instant) (target : String) (span : Option Span) : Dict Json :=
  ((((Dict.empty.insert "severity" (.text level.severity)).insert "timestamp"
    (.text time.toMicrosecondText)).insert "target" (.text target)).insertSome "span"
      (span.map Span.toJson))

def Filter.within (filter : Filter) (spans : List Span) : List Ceiling × Option Span :=
  spans.foldl
    (fun (around, innermost) span =>
      match filter.enter? around span with
      | none => (around, innermost)
      | some inside => (inside, some span))
    ([], none)

def line? (filter : Filter) (time : Instant) (site : Site) (spans : List Span) (event : Event) :
    Option Json :=
  let (around, innermost) := filter.within spans
  if filter.passes around event.level site then
    some (.object (event.over (record event.level time site.target innermost)).entries)
  else none

end Log

end CloudMonitoring
