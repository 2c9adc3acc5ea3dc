import CloudMonitoring.Log.Event
import CloudMonitoring.Text.Digits
import CloudMonitoring.Text.Pieces

/-!
How verbose events may be. A ceiling lets all levels up to one pass, or nothing at all.
-/

namespace CloudMonitoring

namespace Log

inductive Ceiling
  | off
  | upTo (level : Level)
deriving DecidableEq, Repr

def Level.verbosity : Level → Nat
  | .error => 1
  | .warn => 2
  | .info => 3
  | .debug => 4
  | .trace => 5

def Level.name : Level → String
  | .error => "error"
  | .warn => "warn"
  | .info => "info"
  | .debug => "debug"
  | .trace => "trace"

namespace Ceiling

def name : Ceiling → String
  | .off => "off"
  | .upTo level => level.name

def verbosity : Ceiling → Nat
  | .off => 0
  | .upTo level => level.verbosity

def passes (ceiling : Ceiling) (level : Level) : Bool := level.verbosity ≤ ceiling.verbosity

def highest (first second : Ceiling) : Ceiling :=
  if first.verbosity < second.verbosity then second else first

def all : List Ceiling :=
  [.off, .upTo .error, .upTo .warn, .upTo .info, .upTo .debug, .upTo .trace]

def ofText? (text : List Char) : Option Ceiling :=
  let unsigned := match text with
    | '+' :: digits => digits
    | digits => digits
  match (Text.natural? unsigned).bind fun number => all[number]? with
  | some ceiling => some ceiling
  | none => all.find? fun ceiling => Text.sameLetters ceiling.name.toList text

end Ceiling

end Log

end CloudMonitoring
