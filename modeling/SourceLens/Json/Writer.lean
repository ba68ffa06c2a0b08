import SourceLens.Json

/-!
# Writing JSON

Values are written without space between tokens.  Quotes, backslashes and control characters are
escaped; all else is written as it is.
-/

namespace SourceLens.Json

/-- A hexadecimal digit. -/
def hexChar (value : Nat) : Char :=
  if value < 10 then Char.ofNat ('0'.toNat + value) else Char.ofNat ('a'.toNat + value - 10)

/-- A character within quotes. -/
def quotedChar (char : Char) : List Char :=
  if char = '"' then ['\\', '"']
  else if char = '\\' then ['\\', '\\']
  else if char = '\n' then ['\\', 'n']
  else if char.toNat < 0x20 then
    ['\\', 'u', '0', '0', hexChar (char.toNat / 16), hexChar (char.toNat % 16)]
  else [char]

/-- A text within quotes. -/
def quoted (text : String) : String :=
  "\"" ++ String.ofList (text.toList.flatMap quotedChar) ++ "\""

mutual

/-- The text of a value. -/
def render : Json → String
  | .null => "null"
  | .bool true => "true"
  | .bool false => "false"
  | .integer value => toString value
  | .fraction written => written
  | .string value => quoted value
  | .brokenString written => "\"" ++ written ++ "\""
  | .array elements => "[" ++ renderElements elements ++ "]"
  | .object members => "\x7b" ++ renderMembers members ++ "\x7d"

/-- The text of an array's elements. -/
def renderElements : List Json → String
  | [] => ""
  | [element] => render element
  | element :: elements => render element ++ "," ++ renderElements elements

/-- The text of an object's members. -/
def renderMembers : List (String × Json) → String
  | [] => ""
  | [(name, value)] => quoted name ++ ":" ++ render value
  | (name, value) :: members =>
      quoted name ++ ":" ++ render value ++ "," ++ renderMembers members

end

end SourceLens.Json
