import CloudMonitoring.Http.Host
import CloudMonitoring.Text.Digits
import CloudMonitoring.Text.Pieces

/-!
Addresses on the web and their one written form. Reading an address resolves dot segments, drops
credentials and the standard port, and escapes what may not stand in a written address.
-/

namespace CloudMonitoring

namespace Http

inductive Scheme
  | http
  | https
deriving DecidableEq, Repr

def Scheme.name : Scheme → String
  | .http => "http"
  | .https => "https"

def Scheme.standardPort : Scheme → Nat
  | .http => 80
  | .https => 443

def Scheme.ofText? (text : List Char) : Option Scheme :=
  [Scheme.http, Scheme.https].find? fun scheme => Text.sameLetters scheme.name.toList text

/-- An address with its parts as they are written. The port is missing when it is the standard one,
and a path has at least one segment. -/
structure Url where
  scheme : Scheme
  host : Host
  port : Option Nat
  path : List String
  query : Option String
  fragment : Option String
deriving DecidableEq, Repr

namespace Url

def upperHexDigit (n : Nat) : Char := Char.ofNat (if n < 10 then 48 + n else 55 + n)

def escapedByte (byte : UInt8) : List Char :=
  ['%', upperHexDigit (byte.toNat / 16), upperHexDigit (byte.toNat % 16)]

def escaped (marks : List Char) (text : List Char) : List Char :=
  text.flatMap fun c =>
    if c.toNat ≤ 32 ∨ 127 ≤ c.toNat ∨ c ∈ marks then
      (String.utf8EncodeChar c).flatMap escapedByte
    else [c]

def pathMarks : List Char := ['"', '<', '>', '`', '#', '?', '\x7b', '\x7d']

def queryMarks : List Char := ['"', '#', '<', '>', '\'']

def fragmentMarks : List Char := ['"', '<', '>', '`']

def cleaned (text : List Char) : List Char :=
  let isMargin (c : Char) : Bool := c.toNat ≤ 32
  let inner := ((text.dropWhile isMargin).reverse.dropWhile isMargin).reverse
  inner.filter fun c => c ≠ '\t' ∧ c ≠ '\n' ∧ c ≠ '\r'

def isSlash (c : Char) : Bool := c = '/' ∨ c = '\\'

def splitPort (isInside : Bool) : List Char → List Char × List Char
  | [] => ([], [])
  | c :: rest =>
      if c = ':' ∧ ¬ isInside then ([], rest)
      else
        let (host, port) := splitPort (c = '[' ∨ (isInside ∧ c ≠ ']')) rest
        (c :: host, port)

def port? (text : List Char) : Option (Option Nat) :=
  if text = [] then some none
  else match Text.natural? text with
    | some number => if number < 65536 then some (some number) else none
    | none => none

def unescapedDots : List Char → List Char
  | '%' :: '2' :: 'e' :: rest => '.' :: unescapedDots rest
  | '%' :: '2' :: 'E' :: rest => '.' :: unescapedDots rest
  | c :: rest => c :: unescapedDots rest
  | [] => []

def isDrive : List Char → Bool
  | [letter, mark] => letter.isAlpha ∧ (mark = ':' ∨ mark = '|')
  | _ => false

/-- Walks along segments: one dot stays where it is and two dots go back by one, but not over a
drive. Dots at the end leave an empty segment there. -/
def resolve (passed : List (List Char)) : List (List Char) → List (List Char)
  | [] => passed
  | segment :: rest =>
      let dots := unescapedDots segment
      if dots = ['.'] ∨ dots = ['.', '.'] then
        let stays := dots = ['.'] ∨ passed.getLast?.any isDrive
        let kept := if stays then passed else passed.dropLast
        if rest = [] then kept ++ [[]] else resolve kept rest
      else resolve (passed ++ [segment]) rest

def segments (text : List Char) : List String :=
  let slashed := text.map fun c => if isSlash c then '/' else c
  let inner := if slashed.head? = some '/' then slashed.tail else slashed
  (resolve [] (Text.pieces '/' inner)).map fun segment => String.ofList (escaped pathMarks segment)

def afterMark? (mark : Char) (text : List Char) : Option (List Char) :=
  match text.dropWhile (· ≠ mark) with
  | [] => none
  | _ :: rest => some rest

def ofText? (text : String) : Option Url := do
  let text := cleaned text.toList
  let scheme ← Scheme.ofText? (text.takeWhile (· ≠ ':'))
  let place := (← afterMark? ':' text).dropWhile isSlash
  let isAuthority (c : Char) : Bool := ¬ isSlash c ∧ c ≠ '?' ∧ c ≠ '#'
  let authority := place.takeWhile isAuthority
  let (host, port) := splitPort false (Text.afterLast '@' authority)
  let host ← Host.ofText? host
  let port ← port? port
  let inside := place.dropWhile isAuthority
  let beforeFragment := inside.takeWhile (· ≠ '#')
  return {
    scheme := scheme
    host := host
    port := port.filter (· ≠ scheme.standardPort)
    path := segments (beforeFragment.takeWhile (· ≠ '?'))
    query := (afterMark? '?' beforeFragment).map fun query =>
      String.ofList (escaped queryMarks query)
    fragment := (afterMark? '#' inside).map fun fragment =>
      String.ofList (escaped fragmentMarks fragment) }

def toText (url : Url) : String :=
  url.scheme.name ++ "://" ++ url.host.toText ++
    (match url.port with
      | none => ""
      | some port => ":" ++ toString port) ++
    String.join (url.path.map ("/" ++ ·)) ++
    (match url.query with
      | none => ""
      | some query => "?" ++ query) ++
    (match url.fragment with
      | none => ""
      | some fragment => "#" ++ fragment)

end Url

end Http

end CloudMonitoring
