import CloudMonitoring.Decimal.Reader
import CloudMonitoring.Json
import CloudMonitoring.Text.Digits

/-!
Reading JSON text. A number with a point, an exponent or a negative zero is a double and every other
number an integer. The steps of the reader are bounded by the length of the text, since every second
one takes a character.
-/

namespace CloudMonitoring

namespace Json

open Decimal (readDigits readSign)

def isSpace (c : Char) : Bool := c = ' ' ∨ c = '\n' ∨ c = '\t' ∨ c = '\r'

def joined (high low : Nat) : Char :=
  Char.ofNat (0x10000 + (high - 0xD800) * 0x400 + (low - 0xDC00))

def unescaped? : Char → Option Char
  | '"' => some '"'
  | '\\' => some '\\'
  | '/' => some '/'
  | 'b' => some '\x08'
  | 'f' => some '\x0c'
  | 'n' => some '\n'
  | 'r' => some '\r'
  | 't' => some '\t'
  | _ => none

def readText (read : String) : List Char → Option (String × List Char)
  | [] => none
  | '"' :: rest => some (read, rest)
  | '\\' :: 'u' :: a :: b :: c :: d :: '\\' :: 'u' :: e :: f :: g :: h :: rest => do
      let first ← Text.basedNumber? 16 [a, b, c, d]
      let second ← Text.basedNumber? 16 [e, f, g, h]
      if 0xD800 ≤ first ∧ first < 0xDC00 then readText (read.push (joined first second)) rest
      else readText (read.push (Char.ofNat first)) ('\\' :: 'u' :: e :: f :: g :: h :: rest)
  | '\\' :: 'u' :: a :: b :: c :: d :: rest => do
      let value ← Text.basedNumber? 16 [a, b, c, d]
      readText (read.push (Char.ofNat value)) rest
  | '\\' :: c :: rest => do
      let value ← unescaped? c
      readText (read.push value) rest
  | c :: rest => readText (read.push c) rest

def readExponent : List Char → Option Int × List Char
  | c :: rest =>
      if c = 'e' ∨ c = 'E' then
        let (isNegative, rest) := readSign rest
        let (value, _, rest) := readDigits 0 0 rest
        (some (if isNegative then -(value : Int) else value), rest)
      else (none, c :: rest)
  | [] => (none, [])

def readNumber (source : List Char) : Option (Json × List Char) :=
  let (isNegative, rest) := match source with
    | '-' :: rest => (true, rest)
    | rest => (false, rest)
  let (whole, count, rest) := readDigits 0 0 rest
  let (digits, places, rest) := match rest with
    | '.' :: rest => readDigits whole 0 rest
    | rest => (whole, 0, rest)
  let (exponent, rest) := readExponent rest
  if count = 0 then none
  else if places = 0 ∧ exponent = none ∧ ¬ (isNegative ∧ digits = 0) then
    some (.int (if isNegative then -(digits : Int) else digits), rest)
  else some (.double (.ofDecimal isNegative digits (exponent.getD 0 - places)), rest)

mutual

def readValue : Nat → List Char → Option (Json × List Char)
  | 0, _ => none
  | steps + 1, source =>
      match source.dropWhile isSpace with
      | '"' :: rest => (readText "" rest).map fun (value, rest) => (.text value, rest)
      | '[' :: rest =>
          match rest.dropWhile isSpace with
          | ']' :: rest => some (.array [], rest)
          | rest => readItems steps [] rest
      | '\x7b' :: rest =>
          match rest.dropWhile isSpace with
          | '\x7d' :: rest => some (.object [], rest)
          | rest => readMembers steps [] rest
      | 't' :: 'r' :: 'u' :: 'e' :: rest => some (.bool true, rest)
      | 'f' :: 'a' :: 'l' :: 's' :: 'e' :: rest => some (.bool false, rest)
      | 'n' :: 'u' :: 'l' :: 'l' :: rest => some (.null, rest)
      | rest => readNumber rest

def readItems : Nat → List Json → List Char → Option (Json × List Char)
  | 0, _, _ => none
  | steps + 1, read, source => do
      let (item, rest) ← readValue steps source
      match rest.dropWhile isSpace with
      | ',' :: rest => readItems steps (item :: read) rest
      | ']' :: rest => some (.array (item :: read).reverse, rest)
      | _ => none

def readMembers : Nat → List (String × Json) → List Char → Option (Json × List Char)
  | 0, _, _ => none
  | steps + 1, read, source =>
      match source.dropWhile isSpace with
      | '"' :: rest => do
          let (name, rest) ← readText "" rest
          match rest.dropWhile isSpace with
          | ':' :: rest =>
              let (value, rest) ← readValue steps rest
              match rest.dropWhile isSpace with
              | ',' :: rest => readMembers steps ((name, value) :: read) rest
              | '\x7d' :: rest => some (.object ((name, value) :: read).reverse, rest)
              | _ => none
          | _ => none
      | _ => none

end

def ofText? (source : String) : Option Json := do
  let characters := source.toList
  let (value, rest) ← readValue (2 * characters.length + 2) characters
  if rest.all isSpace then some value else none

end Json

end CloudMonitoring
