import CloudMonitoring.Text.Pattern.Mode

/-!
Sets of characters written between brackets, such as `[a-z_]` or `[^0-9]`. Brackets hold characters,
ranges, named classes and other brackets, and sets of them with `&&`, `--` and `~~` between.
-/

namespace CloudMonitoring

namespace Text

/-- How much of a bracket has been read: at its start a closing bracket and hyphens are characters,
and after these a hyphen still is. -/
inductive Stage
  | first
  | hyphens
  | inside
deriving DecidableEq

structure NestedSet where
  set : CharSet
  depth : Nat
deriving DecidableEq

inductive SetOperator
  | both
  | without
  | differing
deriving DecidableEq

def SetOperator.join : SetOperator → CharSet → CharSet → CharSet
  | both => .both
  | without => .without
  | differing => .differing

/-- What has been read of a bracket. The members since the last operator, the last one first, are
still to be joined with the set before it. -/
structure Bracket where
  negated : Bool
  stage : Stage
  joined : Option (NestedSet × SetOperator)
  members : List NestedSet
deriving DecidableEq

namespace Bracket

def opening (mode : Mode) (text : List Char) : Bracket × List Char :=
  match mode.skip text with
  | '^' :: rest => (⟨true, .first, none, []⟩, rest)
  | text => (⟨false, .first, none, []⟩, text)

def add (bracket : Bracket) (stage : Stage) (member : NestedSet) : Bracket :=
  { bracket with stage := stage, members := member :: bracket.members }

def total (mode : Mode) (bracket : Bracket) : NestedSet :=
  let members := bracket.members.foldl (fun set member => .either member.set set) .nothing
  let depth := nesting (bracket.members.map NestedSet.depth)
  match bracket.joined with
  | none => ⟨members, depth⟩
  | some (left, operator) =>
      ⟨operator.join (mode.cased left.set) (mode.cased members), 1 + max left.depth depth⟩

def operate (mode : Mode) (bracket : Bracket) (operator : SetOperator) : Bracket :=
  ⟨bracket.negated, .inside, some (bracket.total mode, operator), []⟩

def close? (mode : Mode) (bracket : Bracket) : Option NestedSet :=
  let total := bracket.total mode
  let set := mode.cased total.set
  let set := if bracket.negated then .complement set else set
  if mode.allScripts ∨ ¬ set.contains '\u0080' then some ⟨set, 1 + total.depth⟩ else none

def named? : List Char → Option (CharSet × List Char)
  | ':' :: rest =>
      let negated := rest.head? = some '^'
      let rest := if negated then rest.drop 1 else rest
      match rest.dropWhile (· ≠ ':') with
      | ':' :: ']' :: after =>
          (CharSet.named? (String.ofList (rest.takeWhile (· ≠ ':')))).map fun set =>
            (if negated then .complement set else set, after)
      | _ => none
  | _ => none

def operator? : List Char → Option (SetOperator × List Char)
  | '&' :: '&' :: rest => some (.both, rest)
  | '-' :: '-' :: rest => some (.without, rest)
  | '~' :: '~' :: rest => some (.differing, rest)
  | _ => none

def member? (mode : Mode) : List Char → Option (Mode.Escape × List Char)
  | [] => none
  | '\\' :: rest => mode.escape? rest
  | c :: rest => some (.char c, rest)

def range? (mode : Mode) (first last : Char) : Option CharSet :=
  if first ≤ last ∧ (mode.allScripts ∨ last.toNat < 0x80) then some (.range first last) else none

def members? (mode : Mode) (text : List Char) : Option (CharSet × List Char) := do
  let (first, rest) ← member? mode text
  let rest := mode.skip rest
  let after := mode.skip (rest.drop 1)
  if rest.head? ≠ some '-' ∨ after.head? = some ']' ∨ after.head? = some '-' then
    match first with
    | .char c => (range? mode c c).map fun set => (set, rest)
    | .set set => some (set, rest)
    | .anchor _ => none
  else
    let (last, rest) ← member? mode after
    match first, last with
    | .char first, .char last => (range? mode first last).map fun set => (set, rest)
    | _, _ => none

/-- Reads a bracket to its end. Each round reads a character, so as many rounds as there are
characters and one more are enough. -/
def read? (mode : Mode) : Nat → Bracket → List Char → Option (NestedSet × List Char)
  | 0, _, _ => none
  | count + 1, bracket, text =>
      match mode.skip text with
      | [] => none
      | c :: rest =>
          if c = ']' ∧ bracket.stage = .first then
            read? mode count (bracket.add .inside ⟨.single c, 0⟩) rest
          else if c = ']' then (bracket.close? mode).map fun set => (set, rest)
          else if c = '-' ∧ bracket.stage ≠ .inside then
            read? mode count (bracket.add .hyphens ⟨.single c, 0⟩) rest
          else if c = '[' then
            match named? rest with
            | some (set, rest) => read? mode count (bracket.add .inside ⟨set, 0⟩) rest
            | none => do
                let (inner, rest) := opening mode rest
                let (set, rest) ← read? mode count inner rest
                read? mode count (bracket.add .inside set) rest
          else
            match operator? (c :: rest) with
            | some (operator, rest) => read? mode count (bracket.operate mode operator) rest
            | none => do
                let (set, rest) ← members? mode (c :: rest)
                read? mode count (bracket.add .inside ⟨set, 0⟩) rest

def ofText? (mode : Mode) (text : List Char) : Option (NestedSet × List Char) :=
  if mode.hasClasses then
    let (bracket, rest) := opening mode text
    read? mode (text.length + 1) bracket rest
  else none

end Bracket

end Text

end CloudMonitoring
