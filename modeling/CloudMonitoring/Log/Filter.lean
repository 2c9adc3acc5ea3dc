import CloudMonitoring.Log.Directive

/-!
Filters made of directives. The most specific directive for the target of an event decides whether
it passes, unless a span that it happens in is opened by a directive of its own.
-/

namespace CloudMonitoring

namespace Log

structure Site where
  target : String
  names : List String
deriving DecidableEq

structure Span where
  name : String
  level : Level
  site : Site
  fields : List (String × Value)

/-- Directives in the order in which they are tried: those that can be answered by the site of an
event alone, and those about spans and fields. A directive can be of both kinds. -/
structure Filter where
  general : List Directive
  openers : List Directive
deriving DecidableEq

namespace Directive

def isGeneral (directive : Directive) : Bool :=
  directive.span = none ∧ directive.condition.all fun condition => condition.value = none

def isOpener (directive : Directive) : Bool :=
  directive.span.isSome ∨ directive.condition.isSome

def covers (directive : Directive) (site : Site) : Bool :=
  directive.target.all fun start => start.toList.isPrefixOf site.target.toList

def knows (directive : Directive) (site : Site) : Bool :=
  directive.condition.all fun condition => condition.field ∈ site.names

def concerns (directive : Directive) (span : Span) : Bool :=
  directive.covers span.site ∧ directive.knows span.site ∧
    directive.span.all fun name => name = span.name

end Directive

namespace Filter

def insert (directive : Directive) : List Directive → List Directive
  | [] => [directive]
  | first :: rest =>
      match directive.compare first with
      | .eq => directive :: rest
      | .gt => directive :: first :: rest
      | .lt => first :: insert directive rest

def arranged (directives : List Directive) : List Directive :=
  directives.foldl (fun placed directive => insert directive placed) []

def ofDirectives (directives : List Directive) : Filter :=
  ⟨arranged (directives.filter (·.isGeneral)), arranged (directives.filter (·.isOpener))⟩

def ofText? (text : String) : Option Filter :=
  let parts := (Text.pieces ',' text.toList).filter (· ≠ [])
  (parts.mapM Directive.ofText?).map ofDirectives

def ofLevelText (text : String) : Filter :=
  (ofText? text).getD (ofDirectives [⟨none, none, none, .upTo .info⟩])

def toText (filter : Filter) : String :=
  ",".intercalate ((filter.general ++ filter.openers).map Directive.toText)

def ceilingOf (directives : List Directive) (applies : Directive → Bool) : Ceiling :=
  match directives.find? applies with
  | none => .off
  | some directive => directive.ceiling

def opening? (filter : Filter) (span : Span) : Option Ceiling :=
  match filter.openers.filter (·.concerns span) with
  | [] => none
  | concerned =>
      let met := concerned.filter fun directive =>
        directive.condition.all fun condition => condition.isMetBy span.fields
      some (met.foldl (fun highest directive => highest.highest directive.ceiling) .off)

def enter? (filter : Filter) (around : List Ceiling) (span : Span) : Option (List Ceiling) :=
  let opening := filter.opening? span
  let isReached := filter.openers.any fun directive => directive.ceiling.passes span.level
  if opening.isSome ∧ isReached ∨ around.any (·.passes span.level) ∨
      (ceilingOf filter.general (·.covers span.site)).passes span.level then
    some (opening.toList ++ around)
  else none

def passes (filter : Filter) (around : List Ceiling) (level : Level) (site : Site) : Bool :=
  around.any (·.passes level) ∨
    (ceilingOf filter.general fun directive =>
      directive.covers site ∧ directive.knows site).passes level

end Filter

end Log

end CloudMonitoring
