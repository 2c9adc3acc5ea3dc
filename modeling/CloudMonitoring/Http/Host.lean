import CloudMonitoring.Text.Combining
import CloudMonitoring.Text.Digits
import CloudMonitoring.Text.Pieces
import CloudMonitoring.Text.Punycode
import CloudMonitoring.Text.Unprintable

/-!
Hosts in addresses. A host is a name, an address of four bytes or one of eight words; each has one
written form, which is ASCII.
-/

namespace CloudMonitoring

namespace Http

inductive Host
  | name (text : String)
  | bytes (address : Nat)
  | words (address : List Nat)
deriving DecidableEq, Repr

namespace Host

def unescaped : List UInt8 → List UInt8
  | 37 :: high :: low :: rest =>
      match Text.hexDigit? (Char.ofNat high.toNat), Text.hexDigit? (Char.ofNat low.toNat) with
      | some high, some low => UInt8.ofNat (16 * high + low) :: unescaped rest
      | _, _ => 37 :: unescaped (high :: low :: rest)
  | byte :: rest => byte :: unescaped rest
  | [] => []
termination_by bytes => bytes.length

def isNameCharacter (c : Char) : Bool :=
  32 < c.toNat ∧ c.toNat < 127 ∧
    c ∉ ['%', '#', '/', ':', '<', '>', '?', '@', '[', '\\', ']', '^', '|']

def foreignMark : List Char := "xn--".toList

def isForeign (label : List Char) : Bool :=
  label.any (¬ Text.Punycode.isPlain ·) ∧ label.all (¬ Text.isUnprintable ·) ∧
    ¬ label.head?.any Text.isCombining

def label? (label : List Char) : Option (List Char) :=
  if foreignMark.isPrefixOf label then
    let encoded := label.drop foreignMark.length
    match Text.Punycode.decode? encoded with
    | none => none
    | some text =>
        if isForeign text ∧ Text.Punycode.encode text = encoded then some label else none
  else if label.all Text.Punycode.isPlain then some label
  else if isForeign label then some (foreignMark ++ Text.Punycode.encode label)
  else none

def name? (text : List Char) : Option (List Char) := do
  let bytes := unescaped (text.flatMap String.utf8EncodeChar)
  let name ← String.fromUTF8? ⟨bytes.toArray⟩
  let labels ← (Text.pieces '.' (name.toList.map Char.toLower)).mapM label?
  let joined := ['.'].intercalate labels
  if joined ≠ [] ∧ joined.all isNameCharacter then some joined else none

def byteNumber? : List Char → Option Nat
  | [] => none
  | ['0'] => some 0
  | '0' :: 'x' :: digits => Text.basedNumber? 16 digits
  | '0' :: digits => Text.basedNumber? 8 digits
  | digits => Text.basedNumber? 10 digits

def parts (text : List Char) : List (List Char) :=
  let all := Text.pieces '.' text
  if 1 < all.length ∧ all.getLast? = some [] then all.dropLast else all

def endsInNumber (text : List Char) : Bool :=
  match (parts text).getLast? with
  | none => false
  | some last => last ≠ [] ∧ last.all Char.isDigit ∨ (byteNumber? last).isSome

/-- Every part but the last is one byte, and the last stands for all bytes that are left. -/
def byteAddress? (text : List Char) : Option Nat := do
  let numbers ← (parts text).mapM byteNumber?
  let last ← numbers.getLast?
  let leading := numbers.dropLast
  let left := 4 - leading.length
  if leading.length < 4 ∧ leading.all (· < 256) ∧ last < Nat.pow 256 left then
    some (leading.foldl (fun value byte => 256 * value + byte) 0 * Nat.pow 256 left + last)
  else none

def word? (text : List Char) : Option Nat :=
  if text ≠ [] ∧ text.length ≤ 4 then Text.basedNumber? 16 text else none

def plainByte? (text : List Char) : Option Nat :=
  if text.head? = some '0' ∧ text ≠ ['0'] then none else (Text.natural? text).filter (· < 256)

def byteWords? (text : List Char) : Option (List Nat) :=
  match (Text.pieces '.' text).mapM plainByte? with
  | some [a, b, c, d] => some [256 * a + b, 256 * c + d]
  | _ => none

def wordRun? (allowsBytes : Bool) (text : List Char) : Option (List Nat) :=
  if text = [] then some []
  else
    let pieces := Text.pieces ':' text
    match (pieces.dropLast.mapM word?), pieces.getLast? with
    | some leading, some last =>
        match word? last with
        | some word => some (leading ++ [word])
        | none => if allowsBytes then (byteWords? last).map (leading ++ ·) else none
    | _, _ => none

def splitGap : List Char → List Char × Option (List Char)
  | ':' :: ':' :: rest => ([], some rest)
  | c :: rest =>
      let (before, after) := splitGap rest
      (c :: before, after)
  | [] => ([], none)

def wordAddress? (text : List Char) : Option (List Nat) := do
  let (before, after) := splitGap text
  match after with
  | none =>
      let words ← wordRun? true before
      if words.length = 8 then some words else none
  | some after =>
      let leading ← wordRun? false before
      let trailing ← wordRun? true after
      let count := leading.length + trailing.length
      if count < 8 then some (leading ++ List.replicate (8 - count) 0 ++ trailing) else none

def ofText? (text : List Char) : Option Host :=
  match text with
  | '[' :: inner =>
      if inner.getLast? = some ']' then (wordAddress? inner.dropLast).map Host.words else none
  | _ => do
      let name ← name? text
      if endsInNumber name then (byteAddress? name).map Host.bytes
      else some (.name (String.ofList name))

def isRequestable : Host → Bool
  | name text => text.toList.all fun c => c ∉ ['"', '`', '\x7b', '\x7d']
  | _ => true

/-- The longest run of at least two zeros, the first of several: where it starts and its length. -/
def gap? (words : List Nat) : Option (Nat × Nat) :=
  (List.range words.length).foldl
    (fun best start =>
      let length := ((words.drop start).takeWhile (· = 0)).length
      if max 1 ((best.map (·.2)).getD 0) < length then some (start, length) else best)
    none

def wordsText (words : List Nat) : String :=
  ":".intercalate (words.map fun word => String.ofList (Nat.toDigits 16 word))

def toText : Host → String
  | name text => text
  | bytes address =>
      ".".intercalate ([3, 2, 1, 0].map fun place => toString (address / Nat.pow 256 place % 256))
  | words address =>
      match gap? address with
      | none => "[" ++ wordsText address ++ "]"
      | some (start, length) =>
          "[" ++ wordsText (address.take start) ++ "::" ++
            wordsText (address.drop (start + length)) ++ "]"

end Host

end Http

end CloudMonitoring
