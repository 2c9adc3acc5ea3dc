import CloudMonitoring.Double
import CloudMonitoring.Text.Pieces

/-!
Reading decimal numbers. Digits are read as far as they go, and a whole text is read as the nearest
double.
-/

namespace CloudMonitoring

namespace Decimal

def readDigits (value count : Nat) : List Char → Nat × Nat × List Char
  | [] => (value, count, [])
  | c :: rest =>
      if c.isDigit then readDigits (10 * value + (c.toNat - '0'.toNat)) (count + 1) rest
      else (value, count, c :: rest)

def readSign : List Char → Bool × List Char
  | '-' :: rest => (true, rest)
  | '+' :: rest => (false, rest)
  | rest => (false, rest)

/-- Beyond this many places every number is zero or infinite. -/
def widestPlace : Int := 400

def nearest (isNegative : Bool) (digits : Nat) (exponent : Int) : Double :=
  let place := (Nat.toDigits 10 digits).length + exponent
  if digits = 0 ∨ place < -widestPlace then .ofDecimal isNegative 0 0
  else if widestPlace < place then .ofDecimal isNegative 1 widestPlace
  else .ofDecimal isNegative digits exponent

def magnitude? (isNegative : Bool) (text : List Char) : Option Double :=
  let (whole, wholeCount, rest) := readDigits 0 0 text
  let (digits, places, rest) := match rest with
    | '.' :: rest => readDigits whole 0 rest
    | rest => (whole, 0, rest)
  if wholeCount + places = 0 then none
  else match rest with
    | [] => some (nearest isNegative digits (-places))
    | mark :: rest =>
        let (isBehind, exponent) := readSign rest
        match readDigits 0 0 exponent with
        | (value, _ + 1, []) =>
            let exponent : Int := if isBehind then -(value : Int) else value
            if mark = 'e' ∨ mark = 'E' then some (nearest isNegative digits (exponent - places))
            else none
        | _ => none

def double? (text : List Char) : Option Double :=
  let (isNegative, rest) := readSign text
  let signed (x : Double) : Double := if isNegative then x.negate else x
  if Text.sameLetters rest "nan".toList then some .notANumber
  else if Text.sameLetters rest "inf".toList ∨ Text.sameLetters rest "infinity".toList then
    some (signed .infinity)
  else magnitude? isNegative rest

end Decimal

end CloudMonitoring
