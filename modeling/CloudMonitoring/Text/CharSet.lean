/-!
Sets of characters, built from ranges, and those that have a name.
-/

namespace CloudMonitoring

namespace Text

inductive CharSet
  | nothing
  | range (first last : Char)
  | either (left right : CharSet)
  | both (left right : CharSet)
  | complement (set : CharSet)
  /-- With every ASCII letter its other case. -/
  | anyCase (set : CharSet)
deriving DecidableEq

namespace CharSet

def contains : CharSet → Char → Bool
  | nothing, _ => false
  | range first last, c => first ≤ c ∧ c ≤ last
  | either left right, c => left.contains c ∨ right.contains c
  | both left right, c => left.contains c ∧ right.contains c
  | complement set, c => ¬ set.contains c
  | anyCase set, c => set.contains c.toLower ∨ set.contains c.toUpper

def single (c : Char) : CharSet := range c c

def anything : CharSet := complement nothing

def without (left right : CharSet) : CharSet := both left (complement right)

def differing (left right : CharSet) : CharSet := either (left.without right) (right.without left)

def ofRanges (ranges : List (Char × Char)) : CharSet :=
  ranges.foldr (fun ends set => either (range ends.1 ends.2) set) nothing

def digit : CharSet := range '0' '9'

def space : CharSet := ofRanges [('\t', '\r'), (' ', ' ')]

def word : CharSet := ofRanges [('0', '9'), ('A', 'Z'), ('_', '_'), ('a', 'z')]

def named? (name : String) : Option CharSet :=
  match name with
  | "alnum" => some (ofRanges [('0', '9'), ('A', 'Z'), ('a', 'z')])
  | "alpha" => some (ofRanges [('A', 'Z'), ('a', 'z')])
  | "ascii" => some (range '\x00' '\x7f')
  | "blank" => some (ofRanges [('\t', '\t'), (' ', ' ')])
  | "cntrl" => some (ofRanges [('\x00', '\x1f'), ('\x7f', '\x7f')])
  | "digit" => some digit
  | "graph" => some (range '!' '~')
  | "lower" => some (range 'a' 'z')
  | "print" => some (range ' ' '~')
  | "punct" => some (ofRanges [('!', '/'), (':', '@'), ('[', '\x60'), ('\x7b', '~')])
  | "space" => some space
  | "upper" => some (range 'A' 'Z')
  | "word" => some word
  | "xdigit" => some (ofRanges [('0', '9'), ('A', 'F'), ('a', 'f')])
  | _ => none

end CharSet

end Text

end CloudMonitoring
