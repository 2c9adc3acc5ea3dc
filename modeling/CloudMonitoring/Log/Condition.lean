import CloudMonitoring.Decimal.Layout
import CloudMonitoring.Decimal.Reader
import CloudMonitoring.Log.Event
import CloudMonitoring.Text.Digits
import CloudMonitoring.Text.Pattern.Reader
import CloudMonitoring.Text.Pieces

/-!
Conditions on a field, such as `project`, `index=3` or `project=my-.*`: the field exists, it has a
value, or its text has an occurrence of a pattern at its end.
-/

namespace CloudMonitoring

namespace Log

inductive Expected
  | bool (value : Bool)
  | double (value : Double)
  | natural (value : UInt64)
  | int (value : Int64)
  | pattern (text : String) (meaning : Text.Pattern)
deriving DecidableEq

namespace Expected

def ofText? (text : List Char) : Option Expected :=
  let number := Text.integer? text
  let isSigned := text.head? = some '-'
  if text = "true".toList then some (.bool true)
  else if text = "false".toList then some (.bool false)
  else match number.filter fun n => ¬ isSigned ∧ n < (UInt64.size : Int) with
    | some n => some (.natural (UInt64.ofNat n.toNat))
    | none =>
        match number.filter fun n => Int64.minValue.toInt ≤ n ∧ n ≤ Int64.maxValue.toInt with
        | some n => some (.int (Int64.ofInt n))
        | none =>
            match Decimal.double? text with
            | some x => some (.double x)
            | none => (Text.Pattern.ofText? text).map (.pattern (String.ofList text))

def toText : Expected → String
  | bool value => if value then "true" else "false"
  | double value => Decimal.Layout.plainest.write value
  | natural value => toString value.toNat
  | int value => toString value.toInt
  | pattern text _ => text

def rank : Expected → Nat
  | bool _ => 0
  | double _ => 1
  | natural _ => 2
  | int _ => 3
  | pattern _ _ => 4

protected def compare : Expected → Expected → Ordering
  | bool x, bool y => compare x y
  | double x, double y => x.compare y
  | natural x, natural y => compare x y
  | int x, int y => compare x y
  | pattern x _, pattern y _ => compare x y
  | first, second => compare first.rank second.rank

/-- The difference from which on two doubles are not the same value. -/
def resolution : Double := ⟨0x3cb0000000000000⟩

def accepts : Expected → Value → Bool
  | bool expected, .bool value => expected = value
  | double expected, .double value =>
      let difference := value.add expected.negate
      expected.isNaN ∧ value.isNaN ∨
        difference.isBelow resolution ∧ difference.negate.isBelow resolution
  | natural expected, .int value => (expected.toNat : Int) = value
  | int expected, .int value => expected.toInt = value
  | pattern _ meaning, .text value => meaning.endsText value
  | pattern _ meaning, .shown value => meaning.endsText value
  | _, _ => false

end Expected

/-- Without a value the condition is that the field exists. -/
structure Condition where
  field : String
  value : Option Expected
deriving DecidableEq

namespace Condition

def ofText? (text : List Char) : Option Condition :=
  match Text.pieces '=' text with
  | field :: value :: _ =>
      (Expected.ofText? value).map fun value => ⟨String.ofList field, some value⟩
  | _ => some ⟨String.ofList text, none⟩

def toText (condition : Condition) : String :=
  match condition.value with
  | none => condition.field
  | some value => condition.field ++ "=" ++ value.toText

protected def compare (first second : Condition) : Ordering :=
  (compare first.value.isSome second.value.isSome).then
    ((compare first.field second.field).then
      (match first.value, second.value with
        | some x, some y => x.compare y
        | _, _ => .eq))

def isMetBy (condition : Condition) (fields : List (String × Value)) : Bool :=
  match condition.value with
  | none => true
  | some value => (fields.lookup condition.field).any value.accepts

end Condition

end Log

end CloudMonitoring
