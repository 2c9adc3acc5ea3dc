/-!
Double-precision numbers, held as their bit patterns so that every question about a number is a
question about natural numbers. A finite number is a significand times a power of two.
-/

namespace CloudMonitoring

structure Double where
  bits : UInt64
deriving DecidableEq

namespace Double

def ofFloat (value : Float) : Double := ⟨value.toBits⟩

def toFloat (x : Double) : Float := Float.ofBits x.bits

def zero : Double := ⟨0⟩

def infinity : Double := ⟨0x7ff0000000000000⟩

def notANumber : Double := ⟨0x7ff8000000000000⟩

instance : Inhabited Double := ⟨zero⟩

def isNegative (x : Double) : Bool := Nat.pow 2 63 ≤ x.bits.toNat

def exponentField (x : Double) : Nat := x.bits.toNat / Nat.pow 2 52 % 2048

def fractionField (x : Double) : Nat := x.bits.toNat % Nat.pow 2 52

def isFinite (x : Double) : Bool := x.exponentField ≠ 2047

def isNaN (x : Double) : Bool := x.exponentField = 2047 ∧ x.fractionField ≠ 0

def isZero (x : Double) : Bool := x.exponentField = 0 ∧ x.fractionField = 0

def significand (x : Double) : Nat :=
  if x.exponentField = 0 then x.fractionField else Nat.pow 2 52 + x.fractionField

def scale (x : Double) : Int :=
  if x.exponentField = 0 then -1074 else (x.exponentField : Int) - 1075

def negate (x : Double) : Double := ofFloat (-x.toFloat)

def add (x y : Double) : Double := ofFloat (x.toFloat + y.toFloat)

def divide (x y : Double) : Double := ofFloat (x.toFloat / y.toFloat)

def ofUInt64 (n : UInt64) : Double := ofFloat n.toFloat

def ofInt64 (n : Int64) : Double := ofFloat n.toFloat

def isBelow (x y : Double) : Bool := x.toFloat < y.toFloat

def compare (x y : Double) : Ordering :=
  if x.isBelow y then .lt
  else if y.isBelow x then .gt
  else Ord.compare x.isNaN y.isNaN

def ofDecimal (negative : Bool) (digits : Nat) (exponent : Int) : Double :=
  let magnitude := ofFloat (Float.ofScientific digits (exponent < 0) exponent.natAbs)
  if negative then magnitude.negate else magnitude

end Double

end CloudMonitoring
