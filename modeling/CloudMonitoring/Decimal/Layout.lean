import CloudMonitoring.Decimal.Shortest

/-!
Writing a double as text. The digits are the shortest that read back; a layout says where the point
stands, when an exponent is written and how the special values are spelled.
-/

namespace CloudMonitoring

namespace Decimal

structure Layout where
  tie : Tie
  /-- Numbers whose first digit stands in a place from `lowest` to `highest` are written without an
  exponent; with no bounds all numbers are. -/
  plain : Option (Int × Int)
  keepsPoint : Bool
  notANumber : String
  infinity : String

def Layout.plainest : Layout :=
  { tie := .up
    plain := none
    keepsPoint := false
    notANumber := "NaN"
    infinity := "inf" }

def zeros (count : Int) : String :=
  String.ofList (List.replicate count.toNat '0')

def positional (keepsPoint : Bool) (digits : List Char) (exponent : Int) : String :=
  let whole : Int := digits.length + exponent
  if 0 ≤ exponent then
    String.ofList digits ++ zeros exponent ++ (if keepsPoint then ".0" else "")
  else if 0 < whole then
    String.ofList (digits.take whole.toNat) ++ "." ++ String.ofList (digits.drop whole.toNat)
  else
    "0." ++ zeros (-whole) ++ String.ofList digits

def scientific (digits : List Char) (exponent : Int) : String :=
  let place : Int := digits.length + exponent - 1
  let tail := digits.drop 1
  String.ofList (digits.take 1)
    ++ (if tail.isEmpty then "" else "." ++ String.ofList tail)
    ++ "e" ++ (if 0 ≤ place then "+" else "-") ++ toString place.natAbs

def Layout.magnitude (layout : Layout) (x : Double) : String :=
  let decimal := shortest layout.tie x
  let digits := Nat.toDigits 10 decimal.digits
  let place : Int := digits.length + decimal.exponent - 1
  match layout.plain with
  | none => positional layout.keepsPoint digits decimal.exponent
  | some (lowest, highest) =>
      if lowest ≤ place ∧ place ≤ highest then
        positional layout.keepsPoint digits decimal.exponent
      else scientific digits decimal.exponent

def Layout.write (layout : Layout) (x : Double) : String :=
  if x.isNaN then layout.notANumber
  else
    (if x.isNegative then "-" else "")
      ++ (if x.isFinite then layout.magnitude x else layout.infinity)

end Decimal

end CloudMonitoring
