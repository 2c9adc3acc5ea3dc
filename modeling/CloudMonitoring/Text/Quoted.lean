import CloudMonitoring.Text.Unprintable
import CloudMonitoring.Text.Combining

/-!
Text between quotes, as it is shown to a developer: what cannot be seen, or would be drawn together
with the character before it, is written as an escape.
-/

namespace CloudMonitoring

namespace Text

def codePointEscape (c : Char) : List Char :=
  '\\' :: 'u' :: '\x7b' :: Nat.toDigits 16 c.toNat ++ ['\x7d']

def quotedCharacter (c : Char) : List Char :=
  if c = '\x00' then ['\\', '0']
  else if c = '\t' then ['\\', 't']
  else if c = '\r' then ['\\', 'r']
  else if c = '\n' then ['\\', 'n']
  else if c = '"' ∨ c = '\\' then ['\\', c]
  else if isCombining c ∨ isUnprintable c then codePointEscape c
  else [c]

def quoted (text : List Char) : List Char :=
  '"' :: text.flatMap quotedCharacter ++ ['"']

end Text

def quotedText (text : String) : String :=
  String.ofList (Text.quoted text.toList)

def quotedOption (text : Option String) : String :=
  match text with
  | none => "None"
  | some text => "Some(" ++ quotedText text ++ ")"

end CloudMonitoring
