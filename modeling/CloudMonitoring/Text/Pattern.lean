import CloudMonitoring.Text.CharSet

/-!
Patterns that are searched for in a text. Of all places where a pattern occurs the search prefers
the earliest start, then the earlier alternative, then more rounds of an eager repetition and fewer
of another one. It keeps every way of matching that may still be the preferred one, and reads each
character of the text once.
-/

namespace CloudMonitoring

namespace Text

inductive Anchor
  | textStart
  | textEnd
  | lineStart
  | lineEnd
  | mixedLineStart
  | mixedLineEnd
  | wordEdge
  | wordInside
  | wordStart
  | wordEnd
deriving DecidableEq

def Anchor.isBetween (before after : Option Char) (anchor : Anchor) : Bool :=
  let isWord := CharSet.word.contains
  match anchor with
  | textStart => before = none
  | textEnd => after = none
  | lineStart => before.all (· = '\n')
  | lineEnd => after.all (· = '\n')
  | mixedLineStart => before.all fun c => c = '\n' ∨ c = '\r' ∧ after ≠ some '\n'
  | mixedLineEnd => after.all fun c => c = '\r' ∨ c = '\n' ∧ before ≠ some '\r'
  | wordEdge => before.any isWord ≠ after.any isWord
  | wordInside => before.any isWord = after.any isWord
  | wordStart => ¬ before.any isWord ∧ after.any isWord
  | wordEnd => before.any isWord ∧ ¬ after.any isWord

inductive Pattern
  | empty
  | one (set : CharSet)
  | anchor (place : Anchor)
  | seq (first second : Pattern)
  | either (preferred other : Pattern)
  /-- Any number of rounds; one that takes no character ends the repetition. -/
  | loop (eager : Bool) (body : Pattern)
  | rounds (eager : Bool) (body : Pattern)
deriving DecidableEq

namespace Pattern

def isNullable : Pattern → Bool
  | empty => true
  | one _ => false
  | anchor _ => true
  | seq first second => first.isNullable ∧ second.isNullable
  | either preferred other => preferred.isNullable ∨ other.isNullable
  | loop _ _ => true
  | rounds _ body => body.isNullable

def optional (eager : Bool) (body : Pattern) : Pattern :=
  if eager then either body empty else either empty body

def repeated (eager : Bool) (body : Pattern) : Pattern :=
  if body.isNullable then optional eager (rounds eager body) else loop eager body

/-- What a way of matching does next: it is at its end, or it reads a character of a set and then
has some patterns left. -/
inductive Step
  | stop
  | read (set : CharSet) (rest : List Pattern)
deriving DecidableEq

def Step.join (preferred other : List Step) : List Step :=
  preferred ++ other.filter fun step => step ∉ preferred

def steps (before after : Option Char) : Pattern → List Step
  | empty => [.stop]
  | one set => [.read set []]
  | anchor place => if place.isBetween before after then [.stop] else []
  | seq first second =>
      (first.steps before after).flatMap fun step =>
        match step with
        | .stop => second.steps before after
        | .read set rest => [.read set (rest ++ [second])]
  | either preferred other => Step.join (preferred.steps before after) (other.steps before after)
  | loop eager body =>
      let inside := (body.steps before after).filterMap fun step =>
        match step with
        | .stop => none
        | .read set rest => some (.read set (rest ++ [loop eager body]))
      if eager then inside ++ [.stop] else .stop :: inside
  | rounds eager body =>
      (body.steps before after).map fun step =>
        match step with
        | .stop => .stop
        | .read set rest => .read set (rest ++ [loop eager body])

def stepsOfAll (before after : Option Char) : List Pattern → List Step
  | [] => [.stop]
  | first :: others =>
      (first.steps before after).flatMap fun step =>
        match step with
        | .stop => stepsOfAll before after others
        | .read set rest => [.read set (rest ++ others)]

/-- Reads a character on each way of matching. Ways after one that is at its end are given up. -/
def advance (before : Option Char) (c : Char) (ways : List (List Pattern)) : List (List Pattern) :=
  let steps := (ways.flatMap (stepsOfAll before (some c))).takeWhile (· ≠ .stop)
  (steps.filterMap fun step =>
    match step with
    | .stop => none
    | .read set rest => if set.contains c then some rest else none).eraseDups

def reachesEnd (ways : List (List Pattern)) (before : Option Char) : List Char → Bool
  | [] => .stop ∈ ways.flatMap (stepsOfAll before none)
  | c :: rest => reachesEnd (advance before c ways) (some c) rest

/-- Whether the occurrence that the search prefers goes up to the end of the text. -/
def endsText (pattern : Pattern) (text : String) : Bool :=
  reachesEnd [[loop false (one .anything), pattern]] none text.toList

end Pattern

end Text

end CloudMonitoring
