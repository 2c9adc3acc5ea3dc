/-!
Numbers from their digits. Only ASCII digits count, and a text that holds anything else is no
number.
-/

namespace CloudMonitoring

namespace Text

def digitsValue : List Char → Nat → Option Nat
  | [], value => some value
  | c :: rest, value =>
      if c.isDigit then digitsValue rest (10 * value + (c.toNat - '0'.toNat)) else none

def natural? : List Char → Option Nat
  | [] => none
  | digits => digitsValue digits 0

def integer? : List Char → Option Int
  | '-' :: digits => (natural? digits).map fun n => -(n : Int)
  | '+' :: digits => (natural? digits).map Int.ofNat
  | digits => (natural? digits).map Int.ofNat

def hexDigit? (c : Char) : Option Nat :=
  if '0' ≤ c ∧ c ≤ '9' then some (c.toNat - '0'.toNat)
  else if 'a' ≤ c ∧ c ≤ 'f' then some (c.toNat - 'a'.toNat + 10)
  else if 'A' ≤ c ∧ c ≤ 'F' then some (c.toNat - 'A'.toNat + 10)
  else none

def basedNumber? (base : Nat) (digits : List Char) : Option Nat :=
  digits.foldlM
    (fun value c => ((hexDigit? c).filter (· < base)).map fun digit => base * value + digit) 0

end Text

end CloudMonitoring
