import CloudMonitoring.Text.Alphanumeric
import CloudMonitoring.Text.Pattern.Bracket

/-!
Reading patterns, such as `my-.*` or `^(a|b)+$`. Alternatives stand between bars, and a group
between parentheses is one item. A repetition needs an item before it; counts of rounds between
braces are not read, and a brace that would open one is refused.
-/

namespace CloudMonitoring

namespace Text

namespace Pattern

structure Part where
  pattern : Pattern
  depth : Nat
deriving DecidableEq

/-- What has been read of a group: the alternatives before the present one, and its items, each with
the last one first. A change of mode is an item that is no pattern. -/
structure Reading where
  mode : Mode
  names : List (List Char)
  alternatives : List Part
  items : List (Option Part)
deriving DecidableEq

namespace Reading

def add (reading : Reading) (item : Part) : Reading :=
  { reading with items := some item :: reading.items }

def change (reading : Reading) (mode : Mode) : Reading :=
  { reading with mode := mode, items := none :: reading.items }

def alternative (reading : Reading) : Part :=
  let join (following : Pattern) (item : Option Part) : Pattern :=
    match item with
    | none => following
    | some item => .seq item.pattern following
  ⟨reading.items.foldl join .empty,
    nesting (reading.items.map fun item => (item.map Part.depth).getD 0)⟩

def nextAlternative (reading : Reading) : Reading :=
  { reading with alternatives := reading.alternative :: reading.alternatives, items := [] }

def whole (reading : Reading) : Part :=
  let last := reading.alternative
  let join (others : Pattern) (preferred : Part) : Pattern := .either preferred.pattern others
  ⟨reading.alternatives.foldl join last.pattern,
    nesting ((last :: reading.alternatives).map Part.depth)⟩

def repeat? (reading : Reading) (mark : Char) (eager : Bool) : Option Reading :=
  match reading.items with
  | some item :: items =>
      let pattern := if mark = '?' then item.pattern.optional eager
        else if mark = '*' then item.pattern.repeated eager
        else .rounds eager item.pattern
      some { reading with items := some ⟨pattern, item.depth + 1⟩ :: items }
  | _ => none

def isName : List Char → Bool
  | [] => false
  | c :: rest =>
      (c = '_' ∨ isAlphanumeric c ∧ ¬ c.isDigit) ∧
        rest.all fun c => c = '_' ∨ c = '.' ∨ c = '[' ∨ c = ']' ∨ isAlphanumeric c

def named? (reading : Reading) (text : List Char) : Option (Reading × List Char) :=
  let name := text.takeWhile (· ≠ '>')
  match text.drop name.length with
  | '>' :: rest =>
      if isName name ∧ name ∉ reading.names then
        some (⟨reading.mode, name :: reading.names, [], []⟩, rest)
      else none
  | _ => none

inductive Opening
  | group (inside : Reading)
  | change (mode : Mode)

def opening? (reading : Reading) (text : List Char) : Option (Opening × List Char) :=
  let named (text : List Char) : Option (Opening × List Char) :=
    (reading.named? text).map fun (inside, rest) => (.group inside, rest)
  match reading.mode.skip text with
  | '?' :: 'P' :: '<' :: rest => named rest
  | '?' :: '<' :: rest => named rest
  | '?' :: rest => do
      let letters := rest.takeWhile fun c => c ≠ ':' ∧ c ≠ ')'
      let mode ← reading.mode.change? letters
      match rest.drop letters.length with
      | ':' :: rest => some (.group ⟨mode, reading.names, [], []⟩, rest)
      | ')' :: rest => if letters = [] then none else some (.change mode, rest)
      | _ => none
  | text => some (.group ⟨reading.mode, reading.names, [], []⟩, text)

def item? (mode : Mode) (c : Char) (rest : List Char) : Option (Part × List Char) :=
  match c with
  | '[' => (Bracket.ofText? mode rest).map fun (bracket, rest) =>
      (⟨.one bracket.set, bracket.depth⟩, rest)
  | '\\' => do
      let (escape, rest) ← mode.escape? rest
      match escape with
      | .char c => (mode.literal? c).map fun pattern => (⟨pattern, 0⟩, rest)
      | .set set => some (⟨.one set, 0⟩, rest)
      | .anchor place => some (⟨.anchor place, 0⟩, rest)
  | '.' => mode.dot?.map fun pattern => (⟨pattern, 0⟩, rest)
  | '^' => some (⟨.anchor mode.caret, 0⟩, rest)
  | '$' => some (⟨.anchor mode.dollar, 0⟩, rest)
  | '\x7b' => none
  | c => (mode.literal? c).map fun pattern => (⟨pattern, 0⟩, rest)

/-- Reads a group up to its closing parenthesis or the end of the text. Each round reads a
character, so as many rounds as there are characters and one more are enough. -/
def read? : Nat → Reading → List Char → Option (Reading × List Char)
  | 0, _, _ => none
  | count + 1, reading, text =>
      match reading.mode.skip text with
      | [] => some (reading, [])
      | c :: rest =>
          if c = ')' then some (reading, c :: rest)
          else if c = '|' then read? count reading.nextAlternative rest
          else if c = '?' ∨ c = '*' ∨ c = '+' then do
            let isMarked := rest.head? = some '?'
            let reading ← reading.repeat? c (isMarked = reading.mode.swapped)
            read? count reading (if isMarked then rest.drop 1 else rest)
          else if c = '(' then do
            let (opening, rest) ← reading.opening? rest
            match opening with
            | .change mode => read? count (reading.change mode) rest
            | .group inside =>
                let (inside, rest) ← read? count inside rest
                if rest.head? = some ')' then
                  let reading := { reading with names := inside.names }
                  let group := inside.whole
                  read? count (reading.add ⟨group.pattern, group.depth + 1⟩) (rest.drop 1)
                else none
          else do
            let (item, rest) ← item? reading.mode c rest
            read? count (reading.add item) rest

end Reading

def ofText? (text : List Char) : Option Pattern :=
  match Reading.read? (text.length + 1) ⟨{}, [], [], []⟩ text with
  | some (reading, []) =>
      if reading.whole.depth ≤ deepestNesting then some reading.whole.pattern else none
  | _ => none

end Pattern

end Text

end CloudMonitoring
