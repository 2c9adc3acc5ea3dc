import CloudMonitoring.Double

/-!
The shortest decimal that reads back as a given double. The reals that round to one double form an
interval; the first decimal grid, from coarse to fine, that has a point in the interval gives the
fewest digits, and of two points the nearer one is taken.
-/

namespace CloudMonitoring

structure Decimal where
  digits : Nat
  exponent : Int
deriving DecidableEq, Repr

namespace Decimal

inductive Tie
  | even
  | up
deriving DecidableEq

/-- The reals that round to one positive double, in units of `2 ^ unit`. -/
structure Span where
  lower : Nat
  value : Nat
  upper : Nat
  unit : Int
  closed : Bool

/-- A quarter of the last binary place measures both half gaps: the gap below a power of two is half
as wide as the one above. The ends round to the double when its significand is even. -/
def Span.around (x : Double) : Span :=
  let narrow := x.fractionField = 0 ∧ 1 < x.exponentField
  { lower := 4 * x.significand - (if narrow then 1 else 2)
    value := 4 * x.significand
    upper := 4 * x.significand + 2
    unit := x.scale - 2
    closed := x.significand % 2 = 0 }

def Span.gridFactor (span : Span) (place : Int) : Nat :=
  Nat.pow 10 place.toNat * Nat.pow 2 (-span.unit).toNat

def Span.unitFactor (span : Span) (place : Int) : Nat :=
  Nat.pow 2 span.unit.toNat * Nat.pow 10 (-place).toNat

def Span.holds (span : Span) (place : Int) (count : Nat) : Bool :=
  let point := count * span.gridFactor place
  let low := span.lower * span.unitFactor place
  let high := span.upper * span.unitFactor place
  if span.closed then low ≤ point ∧ point ≤ high else low < point ∧ point < high

def Span.pointAt (span : Span) (tie : Tie) (place : Int) : Option Nat :=
  let grid := span.gridFactor place
  let exact := span.value * span.unitFactor place
  let below := exact / grid
  match span.holds place below, span.holds place (below + 1) with
  | false, false => none
  | true, false => some below
  | false, true => some (below + 1)
  | true, true =>
      let rest := exact % grid
      if 2 * rest < grid then some below
      else if grid < 2 * rest then some (below + 1)
      else
        match tie with
        | .up => some (below + 1)
        | .even => some (if below % 2 = 0 then below else below + 1)

def Span.search (span : Span) (tie : Tie) : Nat → Int → Option Decimal
  | 0, _ => none
  | fuel + 1, place =>
      match span.pointAt tie place with
      | some digits => some ⟨digits, place⟩
      | none => span.search tie fuel (place - 1)

def topPlace (x : Double) : Int :=
  ((Nat.log2 x.significand : Int) + x.scale) * 1233 / 4096 + 2

/-- The shortest decimal of a finite double's magnitude. Seventeen digits are always enough, and the
first place tried is at most two above the first digit. -/
def shortest (tie : Tie) (x : Double) : Decimal :=
  if x.isZero then ⟨0, 0⟩
  else ((Span.around x).search tie 22 (topPlace x)).getD ⟨x.significand, 0⟩

end Decimal

end CloudMonitoring
