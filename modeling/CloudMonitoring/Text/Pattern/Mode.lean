import CloudMonitoring.Text.Blank
import CloudMonitoring.Text.Digits
import CloudMonitoring.Text.Pattern

/-!
How a written pattern is to be read: how deep it may be nested, the modes that letters turn on and
off, the blanks that count for nothing, and what a backslash makes of the character after it.
Classes of characters beyond ASCII, and letters of either case among all scripts, have no tables
here and are refused.
-/

namespace CloudMonitoring

namespace Text

def nesting : List Nat → Nat
  | [] => 0
  | [depth] => depth
  | depths => 1 + depths.foldl max 0

def deepestNesting : Nat := 250

structure Mode where
  anyCase : Bool := false
  lines : Bool := false
  dotIsAnything : Bool := false
  /-- Repetitions are eager only with a question mark. -/
  swapped : Bool := false
  allScripts : Bool := true
  carriageReturns : Bool := false
  spaced : Bool := false
deriving DecidableEq

namespace Mode

def set? (on : Bool) (mode : Mode) (letter : Char) : Option Mode :=
  match letter with
  | 'i' => some { mode with anyCase := on }
  | 'm' => some { mode with lines := on }
  | 's' => some { mode with dotIsAnything := on }
  | 'U' => some { mode with swapped := on }
  | 'u' => some { mode with allScripts := on }
  | 'R' => some { mode with carriageReturns := on }
  | 'x' => some { mode with spaced := on }
  | _ => none

def change? (mode : Mode) (letters : List Char) : Option Mode := do
  if letters.Nodup ∧ letters.getLast? ≠ some '-' then
    let on ← (letters.takeWhile (· ≠ '-')).foldlM (set? true) mode
    ((letters.dropWhile (· ≠ '-')).drop 1).foldlM (set? false) on
  else none

def dropBlanks (isComment : Bool) : List Char → List Char
  | [] => []
  | c :: rest =>
      if isComment then dropBlanks (c ≠ '\n') rest
      else if isBlank c then dropBlanks false rest
      else if c = '#' then dropBlanks true rest
      else c :: rest

def skip (mode : Mode) (text : List Char) : List Char :=
  if mode.spaced then dropBlanks false text else text

def cased (mode : Mode) (set : CharSet) : CharSet := if mode.anyCase then .anyCase set else set

def hasClasses (mode : Mode) : Bool := ¬ (mode.anyCase ∧ mode.allScripts)

def literal? (mode : Mode) (c : Char) : Option Pattern :=
  if mode.hasClasses then some (.one (mode.cased (.single c))) else none

def dot? (mode : Mode) : Option Pattern :=
  let lineEnds := if mode.carriageReturns then .either (.single '\n') (.single '\r')
    else CharSet.single '\n'
  if mode.allScripts then
    some (.one (if mode.dotIsAnything then .anything else .complement lineEnds))
  else none

def caret (mode : Mode) : Anchor :=
  if mode.lines then if mode.carriageReturns then .mixedLineStart else .lineStart else .textStart

def dollar (mode : Mode) : Anchor :=
  if mode.lines then if mode.carriageReturns then .mixedLineEnd else .lineEnd else .textEnd

def hexNumber? (mode : Mode) : Nat → Nat → List Char → Option (Nat × List Char)
  | 0, value, text => some (value, text)
  | count + 1, value, text =>
      match mode.skip text with
      | [] => none
      | c :: rest => (hexDigit? c).bind fun digit => hexNumber? mode count (16 * value + digit) rest

inductive Escape
  | char (c : Char)
  | set (set : CharSet)
  | anchor (place : Anchor)

def escape? (mode : Mode) : List Char → Option (Escape × List Char)
  | [] => none
  | c :: rest =>
      let numbered (count limit : Nat) : Option (Escape × List Char) := do
        let (code, rest) ← mode.hexNumber? count 0 rest
        if code.isValidChar ∧ code < limit then some (.char (Char.ofNat code), rest) else none
      let ascii (escape : Escape) : Option (Escape × List Char) :=
        if mode.allScripts then none else some (escape, rest)
      match c with
      | 'x' => numbered 2 (if mode.allScripts then 0x100 else 0x80)
      | 'u' => numbered 4 0x110000
      | 'U' => numbered 8 0x110000
      | 'a' => some (.char '\x07', rest)
      | 'f' => some (.char '\x0c', rest)
      | 'n' => some (.char '\n', rest)
      | 'r' => some (.char '\r', rest)
      | 't' => some (.char '\t', rest)
      | 'v' => some (.char '\x0b', rest)
      | 'd' => ascii (.set .digit)
      | 's' => ascii (.set .space)
      | 'w' => ascii (.set .word)
      | 'A' => some (.anchor .textStart, rest)
      | 'z' => some (.anchor .textEnd, rest)
      | 'b' => ascii (.anchor .wordEdge)
      | 'B' => ascii (.anchor .wordInside)
      | '<' => ascii (.anchor .wordStart)
      | '>' => ascii (.anchor .wordEnd)
      | c => if c.isAlphanum ∨ 0x80 ≤ c.toNat then none else some (.char c, rest)

end Mode

end Text

end CloudMonitoring
