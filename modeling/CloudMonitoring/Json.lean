import CloudMonitoring.Decimal.Layout

/-!
JSON values and their compact text. Objects keep the order of their members.
-/

namespace CloudMonitoring

inductive Json
  | null
  | bool (value : Bool)
  | int (value : Int)
  | double (value : Double)
  | text (value : String)
  | array (items : List Json)
  | object (members : List (String × Json))

namespace Json

instance : Inhabited Json := ⟨null⟩

def ofDouble (x : Double) : Json :=
  if x.isFinite then double x else null

def layout : Decimal.Layout :=
  { tie := .even
    plain := some (-5, 15)
    keepsPoint := true
    notANumber := "null"
    infinity := "null" }

def hexDigits (value count : Nat) : String :=
  let digits := Nat.toDigits 16 value
  String.ofList (List.replicate (count - digits.length) '0' ++ digits)

def escape (c : Char) : String :=
  if c = '"' then "\\\""
  else if c = '\\' then "\\\\"
  else if c = '\n' then "\\n"
  else if c = '\r' then "\\r"
  else if c = '\t' then "\\t"
  else if c = '\x08' then "\\b"
  else if c = '\x0c' then "\\f"
  else if c.toNat < 32 then "\\u" ++ hexDigits c.toNat 4
  else String.singleton c

def quote (value : String) : String :=
  value.toList.foldl (fun written c => written ++ escape c) "\"" ++ "\""

mutual

def render : Json → String
  | null => "null"
  | bool value => if value then "true" else "false"
  | int value => toString value
  | double value => layout.write value
  | text value => quote value
  | array items => "[" ++ renderItems items ++ "]"
  | object members => "\x7b" ++ renderMembers members ++ "\x7d"

def renderItems : List Json → String
  | [] => ""
  | [item] => render item
  | item :: rest => render item ++ "," ++ renderItems rest

def renderMembers : List (String × Json) → String
  | [] => ""
  | [(name, value)] => quote name ++ ":" ++ render value
  | (name, value) :: rest => quote name ++ ":" ++ render value ++ "," ++ renderMembers rest

end

def member? (name : String) : Json → Option Json
  | object members => (members.reverse.find? (·.1 = name)).map (·.2)
  | _ => none

end Json

end CloudMonitoring
