import CloudMonitoring.Text.Pieces

/-!
Text of any characters written in ASCII letters, digits and hyphens. The ASCII characters of the
text come first. The others follow in ascending order, each as a distance from the one before it in
the list of all places that a character can be put in; the worth of a distance's digits changes with
the distances before it.
-/

namespace CloudMonitoring

namespace Text

namespace Punycode

def digit (value : Nat) : Char := Char.ofNat (if value < 26 then 97 + value else 22 + value)

def value? (c : Char) : Option Nat :=
  if 'a' ≤ c ∧ c ≤ 'z' then some (c.toNat - 97)
  else if c.isDigit then some (c.toNat - 22)
  else none

def threshold (bias place : Nat) : Nat := max 1 (min 26 (place - bias))

def settled (distance bias : Nat) : Nat :=
  if 455 < distance then settled (distance / 35) (bias + 36)
  else bias + 36 * distance / (distance + 38)

def adapted (isFirst : Bool) (distance count : Nat) : Nat :=
  let scaled := distance / (if isFirst then 700 else 2)
  settled (scaled + scaled / count) 0

def distanceDigits (bias place distance : Nat) : List Char :=
  let low := threshold bias place
  if distance < low then [digit distance]
  else digit (low + (distance - low) % (36 - low))
    :: distanceDigits bias (place + 36) ((distance - low) / (36 - low))
termination_by distance
decreasing_by
  have positive : 1 ≤ threshold bias place := Nat.le_max_left _ _
  have smaller := Nat.div_le_self (distance - threshold bias place) (36 - threshold bias place)
  omega

structure Writer where
  code : Nat
  distance : Nat
  count : Nat
  bias : Nat
  written : List Char

def isPlain (c : Char) : Bool := c.toNat < 128

def Writer.pass (plainCount code : Nat) (writer : Writer) (c : Char) : Writer :=
  if c.toNat < code then { writer with distance := writer.distance + 1 }
  else if c.toNat = code then
    { writer with
      distance := 0
      count := writer.count + 1
      bias := adapted (writer.count = plainCount) writer.distance (writer.count + 1)
      written := writer.written ++ distanceDigits writer.bias 36 writer.distance }
  else writer

def encode (text : List Char) : List Char :=
  let plain := text.filter isPlain
  let codes := (((text.filter (¬ isPlain ·)).map Char.toNat).mergeSort (· ≤ ·)).eraseDups
  let writer : Writer := codes.foldl
    (fun writer code =>
      let distance := writer.distance + (code - writer.code) * (writer.count + 1)
      let passed := text.foldl (Writer.pass plain.length code) { writer with distance := distance }
      { passed with code := code + 1, distance := passed.distance + 1 })
    ⟨128, 0, plain.length, 72, []⟩
  plain ++ (if plain = [] then [] else ['-']) ++ writer.written

structure Reader where
  code : Nat
  index : Nat
  start : Nat
  weight : Nat
  place : Nat
  bias : Nat
  text : List Char

def Reader.next? (reader : Reader) (c : Char) : Option Reader := do
  let value ← value? c
  let index := reader.index + value * reader.weight
  let low := threshold reader.bias reader.place
  if low ≤ value then
    return { reader with
      index := index
      weight := reader.weight * (36 - low)
      place := reader.place + 36 }
  else
    let count := reader.text.length + 1
    let code := reader.code + index / count
    let position := index % count
    if ¬ code.isValidChar then none
    else return {
      code := code
      index := position + 1
      start := position + 1
      weight := 1
      place := 36
      bias := adapted (reader.start = 0) (index - reader.start) count
      text := reader.text.take position ++ Char.ofNat code :: reader.text.drop position }

def decode? (text : List Char) : Option (List Char) := do
  let digits := afterLast '-' text
  let plain := text.take (text.length - digits.length - 1)
  let reader ← digits.foldlM Reader.next? ⟨128, 0, 0, 1, 36, 72, plain⟩
  if reader.place = 36 then some reader.text else none

end Punycode

end Text

end CloudMonitoring
