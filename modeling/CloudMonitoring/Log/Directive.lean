import CloudMonitoring.Log.Ceiling
import CloudMonitoring.Log.Condition
import CloudMonitoring.Text.Alphanumeric
import CloudMonitoring.Text.Blank

/-!
Filter directives such as `info`, `app::worker=debug` or `app[request]=trace`. A directive names the
most verbose level that passes, and may do so only for some targets, inside some spans or where a
field is known.
-/

namespace CloudMonitoring

namespace Log

structure Directive where
  target : Option String
  span : Option String
  condition : Option Condition
  ceiling : Ceiling
deriving DecidableEq

namespace Directive

def trimmed (text : List Char) : List Char :=
  ((text.dropWhile Text.isBlank).reverse.dropWhile Text.isBlank).reverse

def find? (isMark : Char → Bool) (place : Nat) : List Char → Option (Char × Nat × List Char)
  | [] => none
  | c :: rest => if isMark c then some (c, place, rest) else find? isMark (place + c.utf8Size) rest

def between (text : List Char) (start stop : Nat) : String :=
  String.ofList (Text.takeBytes (stop - start) (Text.dropBytes start text))

def withLevel? (text : List Char) (directive : Directive) (start : Nat) : Option Directive :=
  match Text.dropBytes start text with
  | [] => some directive
  | level => (Ceiling.ofText? level).map fun ceiling => { directive with ceiling := ceiling }

def ofEnd? (text : List Char) (directive : Directive) (place : Nat) :
    List Char → Option Directive
  | [] => some directive
  | c :: _ => if c = '=' then withLevel? text directive (place + 1) else none

def ofSpan? (text : List Char) (target : Option String) (start : Nat) (rest : List Char) :
    Option Directive := do
  let (mark, place, rest) ← find? (fun c => c = ']' ∨ c = '\x7b') start rest
  let span := between text start place
  if mark = ']' then ofEnd? text ⟨target, some span, none, .upTo .trace⟩ (place + 1) rest
  else
    let (_, stop, rest) ← find? (· = '\x7d') (place + 1) rest
    let condition := between text (place + 1) stop
    let span := if span = "" then none else some span
    if condition = "" then none
    else match rest with
      | ']' :: rest => do
          let condition ← Condition.ofText? condition.toList
          ofEnd? text ⟨target, span, some condition, .upTo .trace⟩ (stop + 2) rest
      | _ => none

/-- Reads one directive. A text without marks is a ceiling if it names one and else a target of
which everything passes. Places are counted in bytes from the first character that is not blank, but
what stands between them is taken from the whole text. -/
def ofText? (text : List Char) : Option Directive :=
  match trimmed text with
  | [] => none
  | '[' :: rest => ofSpan? text none 1 rest
  | first :: rest =>
      if first = '-' ∨ first = ':' ∨ first = '_' ∨ Text.isAlphanumeric first then
        match find? (fun c => c = '=' ∨ c = '[') first.utf8Size rest with
        | none =>
            match Ceiling.ofText? text with
            | some ceiling => some ⟨none, none, none, ceiling⟩
            | none => some ⟨some (String.ofList text), none, none, .upTo .trace⟩
        | some (mark, place, rest) =>
            let target := some (between text 0 place)
            if mark = '=' then withLevel? text ⟨target, none, none, .upTo .trace⟩ (place + 1)
            else ofSpan? text target (place + 1) rest
      else none

def toText (directive : Directive) : String :=
  let inside := match directive.condition with
    | none => ""
    | some condition => "\x7b" ++ condition.toText ++ "\x7d"
  let brackets :=
    if directive.span.isSome ∨ directive.condition.isSome then
      "[" ++ directive.span.getD "" ++ inside ++ "]"
    else ""
  let limited := directive.target.isSome ∨ brackets ≠ ""
  directive.target.getD "" ++ brackets ++ (if limited then "=" else "") ++ directive.ceiling.name

protected def compare (first second : Directive) : Ordering :=
  let length (directive : Directive) : Option Nat := directive.target.map String.utf8ByteSize
  (compare (length first) (length second)).then
    ((compare first.span.isSome second.span.isSome).then
      ((compare first.condition.isSome second.condition.isSome).then
        ((compare first.target second.target).then
          ((compare first.span second.span).then
            (match first.condition, second.condition with
              | some x, some y => x.compare y
              | _, _ => .eq)))))

end Directive

end Log

end CloudMonitoring
