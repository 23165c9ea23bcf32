import SolidityLint.Json

set_option autoImplicit false

/-! # The written form of a JSON value

Every item and every member stands on a line of its own, indented by its depth; an empty array or
object stays on one line. In a string only the quote, the backslash and the control characters
below the blank are escaped, and all other characters are written as they are. -/

namespace SolidityLint.Json

/-- The lower-case hexadecimal digit of a number below sixteen. -/
def hexDigit (n : Nat) : Char :=
  if n < 10 then Char.ofNat ('0'.toNat + n) else Char.ofNat ('a'.toNat + (n - 10))

/-- A character as it stands between the quotes of a string. -/
def escape (c : Char) : List Char :=
  if c = '"' then ['\\', '"']
  else if c = '\\' then ['\\', '\\']
  else if c = '\n' then ['\\', 'n']
  else if c = '\r' then ['\\', 'r']
  else if c = '\t' then ['\\', 't']
  else if c = '\x08' then ['\\', 'b']
  else if c = '\x0c' then ['\\', 'f']
  else if c.toNat < 0x20 then
    ['\\', 'u', '0', '0', hexDigit (c.toNat / 16), hexDigit (c.toNat % 16)]
  else [c]

/-- A text in quotes, escaped where it has to be. -/
def quote (s : String) : String :=
  String.ofList ('"' :: s.toList.flatMap escape ++ ['"'])

/-- A line break followed by the indentation of that depth. -/
def lineBreak (indent : String) (depth : Nat) : String :=
  "\n" ++ String.join (List.replicate depth indent)

mutual

/-- The written form of a value that stands at that depth. -/
def renderAt (indent : String) (depth : Nat) : Json → String
  | null => "null"
  | bool true => "true"
  | bool false => "false"
  | num n => toString n
  | str s => quote s
  | arr [] => "[]"
  | arr (item :: rest) =>
      "[" ++ lineBreak indent (depth + 1) ++ renderAt indent (depth + 1) item
        ++ renderItems indent (depth + 1) rest ++ lineBreak indent depth ++ "]"
  | obj [] => "\x7b\x7d"
  | obj ((key, value) :: rest) =>
      "\x7b" ++ lineBreak indent (depth + 1) ++ quote key ++ ": "
        ++ renderAt indent (depth + 1) value ++ renderMembers indent (depth + 1) rest
        ++ lineBreak indent depth ++ "\x7d"

/-- The items after the first. -/
def renderItems (indent : String) (depth : Nat) : List Json → String
  | [] => ""
  | item :: rest =>
      "," ++ lineBreak indent depth ++ renderAt indent depth item ++ renderItems indent depth rest

/-- The members after the first. -/
def renderMembers (indent : String) (depth : Nat) : List (String × Json) → String
  | [] => ""
  | (key, value) :: rest =>
      "," ++ lineBreak indent depth ++ quote key ++ ": " ++ renderAt indent depth value
        ++ renderMembers indent depth rest

end

/-- The written form of a value, each level indented by `indent`. -/
def render (indent : String) (value : Json) : String :=
  renderAt indent 0 value

end SolidityLint.Json
