import CloudMonitoring.Collection.Collected
import CloudMonitoring.Pairs

/-!
Instruments and what they report. An instrument keeps all that was measured for each set of
attributes, and a collection is computed from that by the instrument's rule.
-/

namespace CloudMonitoring

inductive AggregationRule
  | sum (isMonotonic : Bool)
  | lastValue
  | histogram (bounds : List Double) (hasSum : Bool)
  | exponentialHistogram
deriving DecidableEq

def standardBounds : List Double :=
  [0, 5, 10, 25, 50, 75, 100, 250, 500, 750, 1000, 2500, 5000, 7500, 10000].map
    fun bound => Double.ofUInt64 bound

class Measurable (α : Type) extends Recordable α where
  zero : α
  add : α → α → α

instance : Measurable Int64 := { zero := 0, add := (· + ·) }

instance : Measurable UInt64 := { zero := 0, add := (· + ·) }

instance : Measurable Double := { zero := Double.zero, add := Double.add }

/-- The attributes of a measurement; they are a set, so their order does not matter. -/
abbrev AttributeSet := Dict AttributeValue

structure Instrument (α : Type) where
  name : String
  description : String
  unit : String
  rule : AggregationRule
  measured : List (AttributeSet × List α)

namespace Instrument

variable {α : Type} [Measurable α]

def total (values : List α) : α := values.foldl Measurable.add Measurable.zero

def bucket (bounds : List Double) (value : α) : Nat :=
  bounds.countP fun bound => bound.isBelow (Recordable.toDouble value)

def bucketCounts (bounds : List Double) (values : List α) : List UInt64 :=
  if bounds = [] then []
  else (List.range (bounds.length + 1)).map fun number =>
    UInt64.ofNat (values.countP fun value => bucket bounds value = number)

/-- Adds a measurement to those with the same attributes. Attributes that differ from themselves
are a set of their own each time. -/
def measure (instrument : Instrument α) (attributes : AttributeSet) (value : α) : Instrument α :=
  let measured := instrument.measured
  if attributes.entries.any (·.2.hasNaN) then
    { instrument with measured := measured ++ [(attributes, [value])] }
  else
    let earlier := (Pairs.get? attributes measured).getD []
    { instrument with measured := Pairs.set attributes (earlier ++ [value]) measured }

def collect? (instrument : Instrument α) (start time : Instant) : Option (Collected α) :=
  if instrument.measured = [] then none
  else match instrument.rule with
    | .sum isMonotonic =>
        some (.sum isMonotonic start time
          (instrument.measured.map fun (attributes, values) =>
            (attributes.entries, total values)))
    | .lastValue =>
        some (.gauge (some start) time
          (instrument.measured.filterMap fun (attributes, values) =>
            values.getLast?.map fun value => (attributes.entries, value)))
    | .histogram bounds hasSum =>
        some (.histogram start time
          (instrument.measured.map fun (attributes, values) =>
            { attributes := attributes.entries
              count := UInt64.ofNat values.length
              sum := if hasSum then total values else Measurable.zero
              bounds := bounds
              bucketCounts := bucketCounts bounds values }))
    | .exponentialHistogram => some .exponentialHistogram

end Instrument

inductive Meter
  | natural (instrument : Instrument UInt64)
  | int (instrument : Instrument Int64)
  | double (instrument : Instrument Double)

def Meter.collect? (meter : Meter) (start time : Instant) : Option CollectedMetric :=
  match meter with
  | natural instrument => (instrument.collect? start time).map fun points =>
      ⟨instrument.name, instrument.description, instrument.unit, .natural points⟩
  | int instrument => (instrument.collect? start time).map fun points =>
      ⟨instrument.name, instrument.description, instrument.unit, .int points⟩
  | double instrument => (instrument.collect? start time).map fun points =>
      ⟨instrument.name, instrument.description, instrument.unit, .double points⟩

def Collection.ofMeters (resource : List (String × AttributeValue)) (meters : List Meter)
    (start time : Instant) : Collection :=
  ⟨resource, [meters.filterMap (·.collect? start time)]⟩

end CloudMonitoring
