import SqlBuilder.Text.Basic

/-!
Compact JSON text.  Objects are lists of members, so that their order and
repeated names are kept.
-/

namespace SqlBuilder

/-- A JSON value of the sorts that results are made of. -/
inductive Json where
  | null
  | string (value : Text)
  | array (items : List Json)
  | object (members : List (Text × Json))
deriving Repr

namespace Json

def hexDigit (n : Nat) : Char := Nat.digitChar (n % 16)

/-- A character inside a string: quotes, backslashes and control characters are
escaped, everything else is taken as it is. -/
def escaped (c : Char) : Text :=
  if c = '\x22' then ['\\', '\x22']
  else if c = '\\' then ['\\', '\\']
  else if c = '\x08' then ['\\', 'b']
  else if c = '\x0c' then ['\\', 'f']
  else if c = '\n' then ['\\', 'n']
  else if c = '\r' then ['\\', 'r']
  else if c = '\t' then ['\\', 't']
  else if c.toNat < 0x20 then
    ['\\', 'u', '0', '0', hexDigit (c.toNat / 16), hexDigit c.toNat]
  else [c]

def stringText (value : Text) : Text := "\x22" ++ value.flatMap escaped ++ "\x22"

mutual

def text : Json → Text
  | null => "null"
  | string value => stringText value
  | array items => "[" ++ Text.joined "," (texts items) ++ "]"
  | object members => "\x7b" ++ Text.joined "," (memberTexts members) ++ "\x7d"

def texts : List Json → List Text
  | [] => []
  | item :: items => text item :: texts items

def memberTexts : List (Text × Json) → List Text
  | [] => []
  | (name, value) :: members =>
      (stringText name ++ ":" ++ text value) :: memberTexts members

end

def ofText? : Option Text → Json
  | none => null
  | some value => string value

example : text (object [("a".toList, null), ("a".toList, array [string "x\n\x01"])]) =
    "\x7b\x22a\x22:null,\x22a\x22:[\x22x\\n\\u0001\x22]\x7d" := by decide

end Json

end SqlBuilder
